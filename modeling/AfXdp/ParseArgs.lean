import Mathlib.Data.Int.ModEq
import Mathlib.Data.List.Basic
import Mathlib.Data.List.Induction
import Mathlib.Data.List.TakeWhile
import Mathlib.Tactic.Common

namespace AfXdp

/-!
# The command line of `main.cpp`

`parse_args` walks over the arguments from left to right, takes operands by
position and leaves numbers to `std::stoul` and `std::stoi`.  Beside it stands
the documented command line: option groups whose numeric operands are decimal
numerals in range.  The two agree on some argument vectors only, and this
module says on which.

An argument is a C string; a character stands for one byte of it.
-/

/-- `struct Args`. -/
structure Args where
  iface : String := "eth0"
  filterIp : String := "0.0.0.0"
  queue : UInt32 := 0
  cpuPin : Int := -1
  realtime : Bool := false
  hugePages : Bool := true
  zerocopy : Bool := true
  deriving Repr, DecidableEq

namespace CommandLine

/-! ## `std::stoul` and `std::stoi` -/

/-- The exceptions of the two conversions. -/
inductive ConversionError where
  | invalidArgument : ConversionError
  | outOfRange : ConversionError
  deriving Repr, DecidableEq

/-- `isspace` in the "C" locale. -/
def isSpace (char : Char) : Bool :=
  char = ' ' || (9 ≤ char.toNat && char.toNat ≤ 13)

/-- `isdigit`. -/
def isDigit (char : Char) : Bool :=
  48 ≤ char.toNat && char.toNat ≤ 57

/-- The value of decimal digits. -/
def digitsValue (digits : List Char) : Nat :=
  digits.foldl (fun value digit => 10 * value + (digit.toNat - 48)) 0

/-- What `strtoul` and `strtol` convert: a sign and the digits behind it. -/
structure Subject where
  negative : Bool
  digits : List Char

/-- Blanks, an optional sign, then as many digits as there are. -/
def subject (text : String) : Subject :=
  match text.toList.dropWhile isSpace with
  | '-' :: rest =>
      { negative := true, digits := rest.takeWhile isDigit }
  | '+' :: rest =>
      { negative := false, digits := rest.takeWhile isDigit }
  | rest =>
      { negative := false, digits := rest.takeWhile isDigit }

namespace Subject

/-- The value without its sign. -/
def magnitude (subject : Subject) : Nat :=
  digitsValue subject.digits

/-- The value with its sign. -/
def value (subject : Subject) : Int :=
  if subject.negative then
    -(subject.magnitude : Int)
  else
    subject.magnitude

end Subject

/-- `std::stoul`: the sign negates within the 64 bits of the result. -/
def stoul (text : String) : Except ConversionError UInt64 :=
  let number := subject text
  if number.digits = [] then
    .error .invalidArgument
  else if 2 ^ 64 ≤ number.magnitude then
    .error .outOfRange
  else
    .ok
      (if number.negative then
        0 - UInt64.ofNat number.magnitude
      else
        UInt64.ofNat number.magnitude)

/-- `std::stoi`: out of range for `long`, or for `int` afterwards. -/
def stoi (text : String) : Except ConversionError Int :=
  let number := subject text
  if number.digits = [] then
    .error .invalidArgument
  else if number.value < -2 ^ 63 ∨ 2 ^ 63 ≤ number.value then
    .error .outOfRange
  else if number.value < -2 ^ 31 ∨ 2 ^ 31 ≤ number.value then
    .error .outOfRange
  else
    .ok number.value

/-! ## `parse_args` -/

/--
The loop of `parse_args` over the arguments that are left.  An option that
wants an operand and has none matches no later comparison either, so it ends
in the usage branch.
-/
def parseLoop (a : Args) (gotFilter : Bool) :
    List String → Except ConversionError (Option Args)
  | [] =>
      .ok (if gotFilter then some a else none)
  | arg :: rest =>
      if arg = "-i" then
        match rest with
        | [] =>
            .ok none
        | operand :: later =>
            parseLoop { a with iface := operand } gotFilter later
      else if arg = "-f" then
        match rest with
        | [] =>
            .ok none
        | operand :: later =>
            parseLoop { a with filterIp := operand } true later
      else if arg = "-q" then
        match rest with
        | [] =>
            .ok none
        | operand :: later =>
            match stoul operand with
            | .error exception =>
                .error exception
            | .ok value =>
                parseLoop { a with queue := value.toUInt32 } gotFilter later
      else if arg = "-c" then
        match rest with
        | [] =>
            .ok none
        | operand :: later =>
            match stoi operand with
            | .error exception =>
                .error exception
            | .ok value =>
                parseLoop { a with cpuPin := value } gotFilter later
      else if arg = "-r" then
        parseLoop { a with realtime := true } gotFilter rest
      else if arg = "--no-hugepages" then
        parseLoop { a with hugePages := false } gotFilter rest
      else if arg = "--no-zerocopy" then
        parseLoop { a with zerocopy := false } gotFilter rest
      else
        .ok none

/--
`parse_args` on `argv[1]`, `argv[2]`, ...; an exception leaves it.  Where it
prints the usage, `stderr` is taken to accept the text: a `std::println` that
throws there is no matter of the arguments.
-/
def parseArgs (arguments : List String) :
    Except ConversionError (Option Args) :=
  parseLoop {} false arguments

/-! ## The documented command line -/

/-- One option with its operand. -/
inductive Group where
  | iface (name : String) : Group
  | filter (address : String) : Group
  | queue (operand : String) : Group
  | cpu (operand : String) : Group
  | realtime : Group
  | noHugepages : Group
  | noZerocopy : Group
  deriving Repr, DecidableEq

/-- A decimal numeral and nothing else: a minus sign, if any, and digits. -/
def numeral? (text : String) : Option Int :=
  match text.toList with
  | '-' :: digits =>
      if digits ≠ [] ∧ digits.all isDigit then
        some (-(digitsValue digits : Int))
      else
        none
  | digits =>
      if digits ≠ [] ∧ digits.all isDigit then
        some (digitsValue digits)
      else
        none

/-- A numeral of a value that `uint32_t` represents. -/
def queueNumeral? (text : String) : Option UInt32 :=
  (numeral? text).bind fun value =>
    if 0 ≤ value ∧ value < 2 ^ 32 then
      some (UInt32.ofNat value.toNat)
    else
      none

/-- A numeral of a value that `int` represents. -/
def cpuNumeral? (text : String) : Option Int :=
  (numeral? text).bind fun value =>
    if -2 ^ 31 ≤ value ∧ value < 2 ^ 31 then
      some value
    else
      none

namespace Group

/-- The arguments of a group. -/
def arguments : Group → List String
  | .iface name => ["-i", name]
  | .filter address => ["-f", address]
  | .queue operand => ["-q", operand]
  | .cpu operand => ["-c", operand]
  | .realtime => ["-r"]
  | .noHugepages => ["--no-hugepages"]
  | .noZerocopy => ["--no-zerocopy"]

/-- Is this the option that is required? -/
def isFilter : Group → Bool
  | .filter _ => true
  | _ => false

/-- The interface that the option names. -/
def iface? : Group → Option String
  | .iface name => some name
  | _ => none

/-- The address that the option names. -/
def filter? : Group → Option String
  | .filter address => some address
  | _ => none

/-- The queue that the option names. -/
def queue? : Group → Option UInt32
  | .queue operand => queueNumeral? operand
  | _ => none

/-- The CPU that the option names. -/
def cpu? : Group → Option Int
  | .cpu operand => cpuNumeral? operand
  | _ => none

/-- The numeric operand, if there is one, is a numeral in range. -/
def InRange : Group → Prop
  | .queue operand => (queueNumeral? operand).isSome
  | .cpu operand => (cpuNumeral? operand).isSome
  | _ => True

instance : DecidablePred InRange
  | .queue operand =>
      inferInstanceAs (Decidable ((queueNumeral? operand).isSome = true))
  | .cpu operand =>
      inferInstanceAs (Decidable ((cpuNumeral? operand).isSome = true))
  | .iface _ => isTrue trivial
  | .filter _ => isTrue trivial
  | .realtime => isTrue trivial
  | .noHugepages => isTrue trivial
  | .noZerocopy => isTrue trivial

/-- The library converts the numeric operand, whatever it makes of it. -/
def Convertible : Group → Prop
  | .queue operand =>
      (subject operand).digits ≠ [] ∧
        (subject operand).magnitude < 2 ^ 64
  | .cpu operand =>
      (subject operand).digits ≠ [] ∧
        -2 ^ 31 ≤ (subject operand).value ∧
          (subject operand).value < 2 ^ 31
  | _ => True

end Group

/-- The value of the last group that has one, or the default. -/
def lastOr
    {Value : Type}
    (default : Value)
    (read : Group → Option Value)
    (groups : List Group) :
    Value :=
  (groups.filterMap read).getLast?.getD default

/-- Every field by the last group naming it. -/
def fieldsOf (groups : List Group) : Args where
  iface := lastOr "eth0" Group.iface? groups
  filterIp := lastOr "0.0.0.0" Group.filter? groups
  queue := lastOr 0 Group.queue? groups
  cpuPin := lastOr (-1) Group.cpu? groups
  realtime := groups.contains .realtime
  hugePages := !groups.contains .noHugepages
  zerocopy := !groups.contains .noZerocopy

/-- The arguments are these groups, and the groups are as documented. -/
structure Documented
    (arguments : List String)
    (groups : List Group) : Prop where
  split :
    arguments = groups.flatMap Group.arguments
  filtered :
    ∃ group ∈ groups, group.isFilter = true
  inRange :
    ∀ group ∈ groups, group.InRange

/--
`parse_args` returns normally, accepts exactly the documented command lines,
and fills in every field as documented.
-/
def ParsesExactly (arguments : List String) : Prop :=
  ∃ result,
    parseArgs arguments = .ok result ∧
      ((∃ args, result = some args) ↔
        ∃ groups, Documented arguments groups) ∧
      ∀ groups,
        Documented arguments groups → result = some (fieldsOf groups)

/--
What the arguments have to be for that.  The library converts every numeric
operand that the walk from left to right comes to; and where the arguments are
groups with a filter among them, so that nothing else rejects them, every
numeric operand is a numeral in range.
-/
structure NumbersAsDocumented (arguments : List String) : Prop where
  convertible :
    ∀ (earlier : List Group) (group : Group) (later : List String),
      arguments =
          earlier.flatMap Group.arguments ++
            (group.arguments ++ later) →
        group.Convertible
  inRange :
    ∀ groups : List Group,
      arguments = groups.flatMap Group.arguments →
      (∃ group ∈ groups, group.isFilter = true) →
        ∀ group ∈ groups, group.InRange

/-! ## The loop, group by group -/

namespace Group

/-- What the loop does with a group. -/
def apply (a : Args) : Group → Except ConversionError Args
  | .iface name => .ok { a with iface := name }
  | .filter address => .ok { a with filterIp := address }
  | .queue operand =>
      (stoul operand).map fun value =>
        { a with queue := value.toUInt32 }
  | .cpu operand =>
      (stoi operand).map fun value => { a with cpuPin := value }
  | .realtime => .ok { a with realtime := true }
  | .noHugepages => .ok { a with hugePages := false }
  | .noZerocopy => .ok { a with zerocopy := false }

/-- Every option is at least one argument. -/
theorem arguments_ne_nil (group : Group) :
    group.arguments ≠ [] := by
  cases group <;> exact List.cons_ne_nil _ _

/-- The first argument decides where the first group ends. -/
theorem arguments_append_inj
    {first second : Group}
    {rest later : List String}
    (same : first.arguments ++ rest = second.arguments ++ later) :
    first = second ∧ rest = later := by
  cases first <;> cases second <;> simp_all [arguments]

/-- `stoul` returns exactly for what is convertible. -/
theorem stoul_ok_iff (text : String) :
    (∃ value, stoul text = .ok value) ↔
      (Group.queue text).Convertible := by
  simp only [stoul, Convertible]
  split
  · next none => simp [none]
  · next some =>
      split
      · next large => simp; omega
      · next fits => simp [some]; omega

/-- So does `stoi`. -/
theorem stoi_ok_iff (text : String) :
    (∃ value, stoi text = .ok value) ↔
      (Group.cpu text).Convertible := by
  simp only [stoi, Convertible]
  split
  · next none => simp [none]
  · next some =>
      split
      · next large => simp; omega
      · split
        · next large => simp; omega
        · next fits => simp [some]; omega

/-- The loop gets past a group exactly if its operand is converted. -/
theorem apply_ok_iff
    (a : Args)
    (group : Group) :
    (∃ after, group.apply a = .ok after) ↔ group.Convertible := by
  cases group with
  | queue operand =>
      rw [← stoul_ok_iff, apply]
      cases stoul operand <;> simp [Except.map]
  | cpu operand =>
      rw [← stoi_ok_iff, apply]
      cases stoi operand <;> simp [Except.map]
  | _ => simp [apply, Convertible]

end Group

/-- The loop takes one group after the other. -/
theorem parseLoop_group
    (a : Args)
    (gotFilter : Bool)
    (group : Group)
    (rest : List String) :
    parseLoop a gotFilter (group.arguments ++ rest) =
      (group.apply a).bind fun after =>
        parseLoop after (gotFilter || group.isFilter) rest := by
  cases group with
  | queue operand =>
      cases converted : stoul operand <;>
        simp [parseLoop, Group.arguments, Group.apply, Group.isFilter,
          converted, Except.map, Except.bind]
  | cpu operand =>
      cases converted : stoi operand <;>
        simp [parseLoop, Group.arguments, Group.apply, Group.isFilter,
          converted, Except.map, Except.bind]
  | iface name =>
      simp [parseLoop, Group.arguments, Group.apply, Group.isFilter,
        Except.bind]
  | filter address =>
      simp [parseLoop, Group.arguments, Group.apply, Group.isFilter,
        Except.bind]
  | _ =>
      rw [parseLoop.eq_def]
      simp [Group.arguments, Group.apply, Group.isFilter, Except.bind]

/-- Any number of groups. -/
theorem parseLoop_groups
    (a : Args)
    (gotFilter : Bool)
    (groups : List Group)
    (rest : List String) :
    parseLoop a gotFilter (groups.flatMap Group.arguments ++ rest) =
      (groups.foldlM Group.apply a).bind fun after =>
        parseLoop after (gotFilter || groups.any Group.isFilter)
          rest := by
  induction groups generalizing a gotFilter with
  | nil =>
      simp [pure, Except.pure, Except.bind]
  | cons group groups inductionHypothesis =>
      rw [List.flatMap_cons, List.append_assoc, parseLoop_group,
        List.foldlM_cons]
      cases applied : group.apply a with
      | error exception =>
          rfl
      | ok after =>
          simp only [Except.bind, bind]
          rw [inductionHypothesis, List.any_cons, Bool.or_assoc]
          rfl

/-- The loop gets through exactly if every operand is converted. -/
theorem foldlM_apply_ok_iff
    (a : Args)
    (groups : List Group) :
    (∃ after, groups.foldlM Group.apply a = .ok after) ↔
      ∀ group ∈ groups, group.Convertible := by
  induction groups generalizing a with
  | nil =>
      simp [pure, Except.pure]
  | cons group groups inductionHypothesis =>
      rw [List.foldlM_cons, List.forall_mem_cons,
        ← group.apply_ok_iff a]
      cases applied : group.apply a with
      | error exception =>
          simp [bind, Except.bind]
      | ok after =>
          simp only [bind, Except.bind, Except.ok.injEq,
            exists_eq', true_and]
          exact inductionHypothesis after

/-! ## Cutting arguments into groups -/

/-- Arguments that do not start with a group. -/
def Stuck (arguments : List String) : Prop :=
  ∀ (group : Group) (rest : List String),
    arguments ≠ group.arguments ++ rest

/-- There the loop prints the usage, unless it is at the end. -/
theorem parseLoop_of_stuck
    {arguments : List String}
    (stuck : Stuck arguments)
    (nonempty : arguments ≠ [])
    (a : Args)
    (gotFilter : Bool) :
    parseLoop a gotFilter arguments = .ok none := by
  obtain ⟨arg, rest, rfl⟩ := List.exists_cons_of_ne_nil nonempty
  have notRealtime : arg ≠ "-r" := fun same =>
    stuck .realtime rest (by simp [same, Group.arguments])
  have notHuge : arg ≠ "--no-hugepages" := fun same =>
    stuck .noHugepages rest (by simp [same, Group.arguments])
  have notZerocopy : arg ≠ "--no-zerocopy" := fun same =>
    stuck .noZerocopy rest (by simp [same, Group.arguments])
  rw [parseLoop.eq_def]
  cases rest with
  | nil =>
      simp [notRealtime, notHuge, notZerocopy]
  | cons operand later =>
      have notIface : arg ≠ "-i" := fun same =>
        stuck (.iface operand) later (by simp [same, Group.arguments])
      have notFilter : arg ≠ "-f" := fun same =>
        stuck (.filter operand) later (by simp [same, Group.arguments])
      have notQueue : arg ≠ "-q" := fun same =>
        stuck (.queue operand) later (by simp [same, Group.arguments])
      have notCpu : arg ≠ "-c" := fun same =>
        stuck (.cpu operand) later (by simp [same, Group.arguments])
      simp [notRealtime, notHuge, notZerocopy, notIface, notFilter,
        notQueue, notCpu]

/-- All arguments are groups followed by something that starts with none. -/
theorem exists_split (arguments : List String) :
    ∃ (groups : List Group) (rest : List String),
      arguments = groups.flatMap Group.arguments ++ rest ∧
        Stuck rest := by
  induction length : arguments.length using Nat.strongRecOn
    generalizing arguments with
  | _ size inductionHypothesis =>
      by_cases stuck : Stuck arguments
      · exact ⟨[], arguments, rfl, stuck⟩
      · simp only [Stuck, ne_eq, not_forall, not_not] at stuck
        obtain ⟨group, later, rfl⟩ := stuck
        have shorter : later.length < size := by
          have positive :=
            List.length_pos_of_ne_nil group.arguments_ne_nil
          rw [List.length_append] at length
          omega
        obtain ⟨groups, rest, rfl, stuck⟩ :=
          inductionHypothesis later.length shorter later rfl
        refine ⟨group :: groups, rest, ?_, stuck⟩
        rw [List.flatMap_cons, List.append_assoc]

/-- Every group has an argument, so nothing begins with one. -/
theorem stuck_nil : Stuck [] := by
  intro group rest same
  exact group.arguments_ne_nil (List.append_eq_nil_iff.mp same.symm).1

/-- Any groups found at the front are the first ones of the split. -/
theorem split_extends
    {groups earlier : List Group}
    {rest later : List String}
    (stuck : Stuck rest)
    (same :
      groups.flatMap Group.arguments ++ rest =
        earlier.flatMap Group.arguments ++ later) :
    ∃ more,
      groups = earlier ++ more ∧
        later = more.flatMap Group.arguments ++ rest := by
  induction earlier generalizing groups with
  | nil =>
      exact ⟨groups, rfl, same.symm⟩
  | cons group earlier inductionHypothesis =>
      rw [List.flatMap_cons, List.append_assoc] at same
      cases groups with
      | nil =>
          exact absurd same (stuck group _)
      | cons first groups =>
          rw [List.flatMap_cons, List.append_assoc] at same
          obtain ⟨rfl, tails⟩ := Group.arguments_append_inj same
          obtain ⟨more, rfl, laterIs⟩ := inductionHypothesis tails
          exact ⟨more, rfl, laterIs⟩

/-- Arguments that are groups throughout are so in one way. -/
theorem split_unique
    {groups others : List Group}
    {rest : List String}
    (stuck : Stuck rest)
    (same :
      groups.flatMap Group.arguments ++ rest =
        others.flatMap Group.arguments) :
    groups = others ∧ rest = [] := by
  rw [← List.append_nil (others.flatMap Group.arguments)] at same
  obtain ⟨more, groupsAre, nothing⟩ := split_extends stuck same
  obtain ⟨noMore, noRest⟩ := List.append_eq_nil_iff.mp nothing.symm
  refine ⟨?_, noRest⟩
  cases more with
  | nil =>
      rw [groupsAre, List.append_nil]
  | cons group more =>
      rw [List.flatMap_cons] at noMore
      exact absurd (List.append_eq_nil_iff.mp noMore).1
        group.arguments_ne_nil

/-! ## Numerals in range are converted to their value -/

/-- A digit is no space. -/
theorem digit_not_space
    {char : Char}
    (digit : isDigit char = true) :
    isSpace char = false := by
  simp only [isDigit, Bool.and_eq_true, decide_eq_true_eq] at digit
  have notBlank : char ≠ ' ' := by
    rintro rfl
    exact absurd digit.1 (by decide)
  simp only [isSpace, notBlank, decide_false, Bool.false_or,
    Bool.and_eq_false_iff, decide_eq_false_iff_not]
  omega

/-- Digits are taken as far as they go. -/
theorem takeWhile_digits
    {digits : List Char}
    (all : digits.all isDigit = true) :
    digits.takeWhile isDigit = digits :=
  List.takeWhile_eq_self_iff.mpr (List.all_eq_true.mp all)

/-- A numeral is what the library converts, and all of it. -/
theorem subject_of_numeral
    {text : String}
    {value : Int}
    (numeral : numeral? text = some value) :
    (subject text).digits ≠ [] ∧ (subject text).value = value := by
  unfold numeral? at numeral
  split at numeral
  · next digits negative =>
      simp only [Option.ite_none_right_eq_some,
        Option.some.injEq] at numeral
      obtain ⟨⟨some, all⟩, rfl⟩ := numeral
      have minus : isSpace '-' = false := by
        decide
      simp [subject, negative, minus, takeWhile_digits all,
        some, Subject.value, Subject.magnitude]
  · next unsigned =>
      simp only [Option.ite_none_right_eq_some,
        Option.some.injEq] at numeral
      obtain ⟨⟨some, all⟩, rfl⟩ := numeral
      obtain ⟨first, rest, textIs⟩ := List.exists_cons_of_ne_nil some
      rw [textIs, List.all_cons, Bool.and_eq_true] at all
      have notSpace := digit_not_space all.1
      have notMinus : first ≠ '-' := fun same =>
        unsigned rest (by rw [textIs, same])
      have notPlus : first ≠ '+' := by
        rintro rfl
        exact absurd all.1 (by decide)
      have trimmed : text.toList.dropWhile isSpace = first :: rest := by
        rw [textIs, List.dropWhile_cons_of_neg (by simp [notSpace])]
      have digits :
          (first :: rest).takeWhile isDigit = first :: rest :=
        takeWhile_digits (by simp [all])
      have parsed :
          subject text = ⟨false, first :: rest⟩ := by
        unfold subject
        split
        · next found =>
            rw [trimmed] at found
            exact absurd (List.cons.inj found).1 notMinus
        · next found =>
            rw [trimmed] at found
            exact absurd (List.cons.inj found).1 notPlus
        · next found _ _ =>
            rw [trimmed, digits]
      simp [parsed, Subject.value, Subject.magnitude, textIs]

/-- A queue numeral survives the conversion and the cast to 32 bits. -/
theorem stoul_of_queueNumeral
    {text : String}
    {queue : UInt32}
    (numeral : queueNumeral? text = some queue) :
    ∃ value, stoul text = .ok value ∧ value.toUInt32 = queue := by
  simp only [queueNumeral?, Option.bind_eq_some_iff,
    Option.ite_none_right_eq_some, Option.some.injEq] at numeral
  obtain ⟨value, isNumeral, ⟨nonnegative, fits⟩, rfl⟩ := numeral
  obtain ⟨some, valueIs⟩ := subject_of_numeral isNumeral
  have magnitude :
      (subject text).magnitude = value.toNat ∧
        ((subject text).negative = true → value.toNat = 0) := by
    rw [Subject.value] at valueIs
    split at valueIs <;> simp_all <;> omega
  have small : ¬ 2 ^ 64 ≤ value.toNat := by
    omega
  refine ⟨UInt64.ofNat value.toNat, ?_, ?_⟩
  · simp only [stoul, some, magnitude.1, small, ↓reduceIte]
    split
    · next negative =>
        rw [magnitude.2 negative]
        rfl
    · rfl
  · apply UInt32.toNat_inj.mp
    rw [UInt64.toNat_toUInt32, UInt64.toNat_ofNat',
      UInt32.toNat_ofNat']
    omega

/-- A numeral in range is converted to its value. -/
theorem stoi_of_cpuNumeral
    {text : String}
    {cpu : Int}
    (numeral : cpuNumeral? text = some cpu) :
    stoi text = .ok cpu := by
  simp only [cpuNumeral?, Option.bind_eq_some_iff,
    Option.ite_none_right_eq_some, Option.some.injEq] at numeral
  obtain ⟨value, isNumeral, fits, rfl⟩ := numeral
  obtain ⟨some, valueIs⟩ := subject_of_numeral isNumeral
  have long : ¬ (value < -2 ^ 63 ∨ 2 ^ 63 ≤ value) := by
    omega
  have int : ¬ (value < -2 ^ 31 ∨ 2 ^ 31 ≤ value) := by
    omega
  simp only [stoi, some, valueIs, long, int, ↓reduceIte]

/-! ## The fields -/

/-- The last value of the later part, or else of the earlier one. -/
theorem lastOr_append
    {Value : Type}
    (default : Value)
    (read : Group → Option Value)
    (groups : List Group)
    (group : Group) :
    lastOr default read (groups ++ [group]) =
      (read group).getD (lastOr default read groups) := by
  cases found : read group with
  | none => simp [lastOr, found]
  | some value => simp [lastOr, found]

/-- A group in range sets exactly the field it names. -/
theorem apply_fieldsOf
    (groups : List Group)
    {group : Group}
    (inRange : group.InRange) :
    group.apply (fieldsOf groups) =
      .ok (fieldsOf (groups ++ [group])) := by
  simp only [fieldsOf, lastOr_append]
  cases group with
  | queue operand =>
      obtain ⟨queue, numeral⟩ := Option.isSome_iff_exists.mp inRange
      obtain ⟨value, converted, rfl⟩ := stoul_of_queueNumeral numeral
      simp [Group.apply, Group.queue?, Group.iface?, Group.filter?,
        Group.cpu?, converted, numeral, Except.map]
  | cpu operand =>
      obtain ⟨cpu, numeral⟩ := Option.isSome_iff_exists.mp inRange
      have converted := stoi_of_cpuNumeral numeral
      simp [Group.apply, Group.queue?, Group.iface?, Group.filter?,
        Group.cpu?, converted, numeral, Except.map]
  | _ =>
      simp [Group.apply, Group.queue?, Group.iface?, Group.filter?,
        Group.cpu?]

/-- Groups in range leave each field as the last group naming it says. -/
theorem foldlM_apply_eq
    {groups : List Group}
    (inRange : ∀ group ∈ groups, group.InRange) :
    groups.foldlM Group.apply {} = .ok (fieldsOf groups) := by
  induction groups using List.reverseRecOn with
  | nil =>
      rfl
  | append_singleton groups group inductionHypothesis =>
      rw [List.foldlM_append, inductionHypothesis fun other member =>
        inRange other (List.mem_append_left _ member)]
      simp only [bind, Except.bind, List.foldlM_cons, List.foldlM_nil]
      rw [apply_fieldsOf groups
        (inRange group (List.mem_append_right _ List.mem_cons_self))]
      rfl

/-! ## Both directions -/

section Directions

variable {arguments : List String}

/-- Arguments that are not as documented are to be rejected. -/
theorem parses_of_rejects
    (rejects : parseArgs arguments = .ok none)
    (undocumented : ∀ groups, ¬ Documented arguments groups) :
    ParsesExactly arguments := by
  refine ⟨none, rejects, ?_, ?_⟩
  · simp [undocumented]
  · intro groups documented
    exact absurd documented (undocumented groups)

/-- What the code returns where nothing is thrown and only groups are left. -/
theorem parseArgs_groups
    {groups : List Group}
    {after : Args}
    (applied : groups.foldlM Group.apply {} = .ok after) :
    parseArgs (groups.flatMap Group.arguments) =
      .ok (if groups.any Group.isFilter then some after else none) := by
  rw [parseArgs, ← List.append_nil (groups.flatMap Group.arguments),
    parseLoop_groups, applied]
  rfl

/-- An operand that is not converted throws. -/
theorem convertible_of_parses
    (parses : ParsesExactly arguments)
    {earlier : List Group}
    {group : Group}
    {later : List String}
    (reached :
      arguments =
        earlier.flatMap Group.arguments ++
          (group.arguments ++ later)) :
    group.Convertible := by
  obtain ⟨result, returned, _⟩ := parses
  have reached' :
      arguments =
        (earlier ++ [group]).flatMap Group.arguments ++ later := by
    simp [reached]
  rw [parseArgs, reached', parseLoop_groups] at returned
  cases applied : (earlier ++ [group]).foldlM Group.apply {} with
  | error exception =>
      rw [applied] at returned
      cases returned
  | ok after =>
      exact (foldlM_apply_ok_iff {} _).mp ⟨after, applied⟩ group
        (List.mem_append_right _ List.mem_cons_self)

/-- Groups with a filter are accepted, so their numbers had to be in range. -/
theorem inRange_of_parses
    (parses : ParsesExactly arguments)
    {groups : List Group}
    (split : arguments = groups.flatMap Group.arguments)
    (filtered : ∃ group ∈ groups, group.isFilter = true) :
    ∀ group ∈ groups, group.InRange := by
  obtain ⟨result, returned, accepts, _⟩ := parses
  have filters : groups.any Group.isFilter = true :=
    List.any_eq_true.mpr filtered
  have accepted : ∃ args, result = some args := by
    cases applied : groups.foldlM Group.apply {} with
    | error exception =>
        rw [parseArgs, split,
          ← List.append_nil (groups.flatMap Group.arguments),
          parseLoop_groups, applied] at returned
        cases returned
    | ok after =>
        rw [split, parseArgs_groups applied, filters] at returned
        cases returned
        exact ⟨after, rfl⟩
  obtain ⟨others, documented⟩ := accepts.mp accepted
  have same : groups.flatMap Group.arguments ++ [] =
      others.flatMap Group.arguments := by
    rw [List.append_nil, ← split, documented.split]
  rw [(split_unique stuck_nil same).1]
  exact documented.inRange

end Directions

/--
On every argument vector: `parse_args` returns, accepts exactly if the
arguments are as documented, and reads every field as documented, if and only
if the numeric operands that it comes to are as documented, or at least
convertible where something else rejects the arguments.
-/
theorem parses_exactly_iff (arguments : List String) :
    ParsesExactly arguments ↔ NumbersAsDocumented arguments := by
  constructor
  · intro parses
    exact
      { convertible := fun _ _ _ reached =>
          convertible_of_parses parses reached
        inRange := fun _ split filtered =>
          inRange_of_parses parses split filtered }
  · intro numbers
    obtain ⟨groups, rest, split, stuck⟩ := exists_split arguments
    have converted : ∀ group ∈ groups, group.Convertible := by
      intro group member
      obtain ⟨earlier, later, rfl⟩ := List.append_of_mem member
      refine numbers.convertible earlier group
        (later.flatMap Group.arguments ++ rest) ?_
      simp [split]
    obtain ⟨after, applied⟩ := (foldlM_apply_ok_iff {} groups).mpr converted
    -- Any other way to see groups in the arguments is this one.
    have only
        (others : List Group)
        (documented : Documented arguments others) :
        groups = others ∧ rest = [] :=
      split_unique stuck (split.symm.trans documented.split)
    by_cases atEnd : rest = []
    · subst atEnd
      rw [List.append_nil] at split
      by_cases filters : groups.any Group.isFilter = true
      · have filtered := List.any_eq_true.mp filters
        have inRange := numbers.inRange groups split filtered
        have documented : Documented arguments groups :=
          ⟨split, filtered, inRange⟩
        have fields := foldlM_apply_eq inRange
        refine ⟨some (fieldsOf groups), ?_, ?_, ?_⟩
        · rw [split, parseArgs_groups fields, filters]
          rfl
        · exact ⟨fun _ => ⟨groups, documented⟩, fun _ => ⟨_, rfl⟩⟩
        · intro others otherwise
          rw [(only others otherwise).1]
      · refine parses_of_rejects ?_ ?_
        · rw [split, parseArgs_groups applied]
          simp [filters]
        · intro others documented
          have same := (only others documented).1
          subst same
          exact filters (List.any_eq_true.mpr documented.filtered)
    · refine parses_of_rejects ?_ ?_
      · rw [parseArgs, split, parseLoop_groups, applied]
        exact parseLoop_of_stuck stuck atEnd _ _
      · intro others documented
        exact atEnd (only others documented).2

/--
A queue that is no number is thrown out of `parse_args`, and one past 32 bits
is accepted as queue zero.
-/
theorem parses_exactly_fails :
    parseArgs ["-f", "192.0.2.10", "-q", "x"] =
        .error .invalidArgument ∧
      ¬ ParsesExactly ["-f", "192.0.2.10", "-q", "x"] ∧
      parseArgs ["-f", "192.0.2.10", "-q", "4294967296"] =
        .ok (some { filterIp := "192.0.2.10" }) ∧
      ¬ ParsesExactly ["-f", "192.0.2.10", "-q", "4294967296"] := by
  have throws :
      parseArgs ["-f", "192.0.2.10", "-q", "x"] =
        .error .invalidArgument := by
    decide
  have wraps :
      parseArgs ["-f", "192.0.2.10", "-q", "4294967296"] =
        .ok (some { filterIp := "192.0.2.10" }) := by
    decide
  refine ⟨throws, ?_, wraps, ?_⟩
  · rintro ⟨result, returned, _⟩
    rw [throws] at returned
    cases returned
  · intro parses
    have inRange :=
      @inRange_of_parses _ parses
        [.filter "192.0.2.10", .queue "4294967296"] rfl
        ⟨.filter "192.0.2.10", List.mem_cons_self, rfl⟩
        (.queue "4294967296") (by simp)
    exact absurd inRange (by decide)

end CommandLine

end AfXdp
