import Mathlib.Data.List.TakeWhile
import Mathlib.Data.List.Infix

namespace TextStream

/-!
# Text on a stream

A stream accepts text call by call, and any call may fail after part of its
text got through.  The second half is about one kind of text: records of
`key=value` lines, and reading them back.
-/

/-- A text as its characters. -/
abbrev Text :=
  List Char

/-! ## Streams -/

/-- A call that fails: how much of its text was accepted before. -/
structure Refusal (Failure : Type) where
  written : Nat
  reason : Failure

/-- The outcome of every call by its number, and what was accepted so far. -/
structure Stream (Failure : Type) where
  refusals : Nat → Option (Refusal Failure)
  calls : Nat
  text : Text

section Calls

variable {Failure : Type}

/-- The first part of a program is run, then the rest with its result. -/
theorem run_bind_of
    {State First Second : Type}
    {first : StateM State First}
    {later : First → StateM State Second}
    {before middle : State}
    {result : First}
    (ran : first.run before = (result, middle)) :
    (first >>= later).run before = (later result).run middle := by
  have applied : first before = (result, middle) := ran
  change (later (first before).1) (first before).2 = _
  rw [applied]
  rfl

/-- Write a text; the result is what the call fails with, if it does. -/
def print (text : Text) : StateM (Stream Failure) (Option Failure) :=
  fun stream =>
    match stream.refusals stream.calls with
    | none =>
        (none,
          { stream with
            calls := stream.calls + 1
            text := stream.text ++ text })
    | some refusal =>
        (some refusal.reason,
          { stream with
            calls := stream.calls + 1
            text := stream.text ++ text.take refusal.written })

/-- A call without text of its own: opening or closing the stream. -/
def attempt : StateM (Stream Failure) (Option Failure) :=
  print []

/-- Write texts in order until one call fails. -/
def printAll : List Text → StateM (Stream Failure) (Option Failure)
  | [] =>
      return none
  | text :: rest => do
      match ← print text with
      | some failure =>
          return some failure
      | none =>
          printAll rest

variable {stream : Stream Failure}

/-- The calls from `first` on, `count` of them, all succeed. -/
def Stream.Accepts (stream : Stream Failure) (first count : Nat) : Prop :=
  ∀ call,
    first ≤ call →
    call < first + count →
    stream.refusals call = none

/--
What a writer of the whole text did: it made some calls, the stream holds a
beginning of the text, and all of it if no call was refused.
-/
structure Wrote
    (whole : Text)
    (calls : Nat)
    (result : Option Failure)
    (before after : Stream Failure) : Prop where
  refusals :
    after.refusals = before.refusals
  forward :
    before.calls ≤ after.calls
  beginning :
    ∃ part, part <+: whole ∧ after.text = before.text ++ part
  complete :
    result = none →
    after.text = before.text ++ whole ∧
      after.calls = before.calls + calls
  accepted :
    result = none ↔ before.Accepts before.calls calls

/-- A call writes its text or nothing. -/
theorem print_wrote (stream : Stream Failure) (text : Text) :
    Wrote text 1 ((print text).run stream).1 stream
      ((print text).run stream).2 := by
  cases outcome : stream.refusals stream.calls with
  | none =>
      have ran :
          (print text).run stream =
            (none,
              { stream with
                calls := stream.calls + 1
                text := stream.text ++ text }) := by
        simp [print, StateT.run, outcome]
      rw [ran]
      refine ⟨rfl, Nat.le_succ _, ⟨text, List.prefix_rfl, rfl⟩,
        fun _ => ⟨rfl, rfl⟩, ?_⟩
      refine iff_of_true rfl ?_
      intro call from_ below
      obtain rfl : call = stream.calls := by omega
      exact outcome
  | some refusal =>
      have ran :
          (print text).run stream =
            (some refusal.reason,
              { stream with
                calls := stream.calls + 1
                text := stream.text ++ text.take refusal.written }) := by
        simp [print, StateT.run, outcome]
      rw [ran]
      refine ⟨rfl, Nat.le_succ _, ⟨_, List.take_prefix _ _, rfl⟩,
        nofun, ?_⟩
      refine iff_of_false nofun ?_
      intro accepts
      have succeeded := accepts stream.calls (Nat.le_refl _) (by omega)
      rw [outcome] at succeeded
      cases succeeded

/-- Two writers one after the other, the second only if the first succeeds. -/
theorem Wrote.andThen
    {first second : Text}
    {firstCalls secondCalls : Nat}
    {result : Option Failure}
    {before middle after : Stream Failure}
    (wrote : Wrote first firstCalls none before middle)
    (later : Wrote second secondCalls result middle after) :
    Wrote (first ++ second) (firstCalls + secondCalls) result
      before after where
  refusals :=
    later.refusals.trans wrote.refusals
  forward :=
    Nat.le_trans wrote.forward later.forward
  beginning := by
    obtain ⟨part, begins, held⟩ := later.beginning
    refine ⟨first ++ part, (List.prefix_append_right_inj first).mpr begins,
      ?_⟩
    rw [held, (wrote.complete rfl).1, List.append_assoc]
  complete := by
    intro succeeded
    obtain ⟨text, calls⟩ := later.complete succeeded
    rw [text, calls, (wrote.complete rfl).1, (wrote.complete rfl).2]
    exact ⟨List.append_assoc _ _ _, by omega⟩
  accepted := by
    have start := (wrote.complete rfl).2
    have early := wrote.accepted.mp rfl
    rw [later.accepted]
    constructor
    · intro late call from_ below
      by_cases inFirst : call < before.calls + firstCalls
      · exact early call from_ inFirst
      · rw [← wrote.refusals]
        exact late call (by omega) (by omega)
    · intro all call from_ below
      rw [wrote.refusals]
      exact all call (by omega) (by omega)

/-- A writer that stopped at a refusal never gets to what was to follow. -/
theorem Wrote.stopped
    {first second : Text}
    {firstCalls secondCalls : Nat}
    {failure : Failure}
    {before after : Stream Failure}
    (wrote : Wrote first firstCalls (some failure) before after) :
    Wrote (first ++ second) (firstCalls + secondCalls) (some failure)
      before after where
  refusals :=
    wrote.refusals
  forward :=
    wrote.forward
  beginning := by
    obtain ⟨part, begins, held⟩ := wrote.beginning
    exact ⟨part, begins.trans (List.prefix_append _ _), held⟩
  complete :=
    nofun
  accepted := by
    refine iff_of_false nofun ?_
    intro all
    have early : before.Accepts before.calls firstCalls := by
      intro call from_ below
      exact all call from_ (by omega)
    cases wrote.accepted.mpr early

/-- Several calls write a beginning of their texts. -/
theorem printAll_wrote (stream : Stream Failure) (texts : List Text) :
    Wrote texts.flatten texts.length ((printAll texts).run stream).1
      stream ((printAll texts).run stream).2 := by
  induction texts generalizing stream with
  | nil =>
      refine ⟨rfl, Nat.le_refl _, ⟨[], List.prefix_rfl, ?_⟩, ?_, ?_⟩
      · exact (List.append_nil _).symm
      · exact fun _ => ⟨(List.append_nil _).symm, rfl⟩
      · refine iff_of_true rfl ?_
        intro call from_ below
        exact absurd below (by simpa using from_)
  | cons text rest inductionHypothesis =>
      have first := print_wrote stream text
      have lengths : (text :: rest).length = 1 + rest.length :=
        Nat.add_comm _ _
      rw [List.flatten_cons, lengths]
      cases outcome : ((print text).run stream).1 with
      | none =>
          have ran :
              (printAll (text :: rest)).run stream =
                (printAll rest).run ((print text).run stream).2 := by
            exact run_bind_of (Prod.ext outcome rfl)
          rw [outcome] at first
          rw [ran]
          exact first.andThen (inductionHypothesis _)
      | some failure =>
          have ran :
              (printAll (text :: rest)).run stream =
                (some failure, ((print text).run stream).2) := by
            exact run_bind_of (Prod.ext outcome rfl)
          rw [outcome] at first
          rw [ran]
          exact first.stopped

/-- A call without text leaves the text as it is. -/
theorem attempt_text :
    (((attempt : StateM (Stream Failure) (Option Failure)).run stream).2).text =
      stream.text := by
  obtain ⟨part, begins, held⟩ := (print_wrote stream []).beginning
  rw [List.prefix_nil.mp begins, List.append_nil] at held
  exact held

/-- After a refusal another call, without text, makes no difference. -/
theorem Wrote.attempted
    {whole : Text}
    {calls : Nat}
    {failure : Failure}
    {before middle : Stream Failure}
    (wrote : Wrote whole calls (some failure) before middle) :
    Wrote whole (calls + 1) (some failure) before
      ((attempt : StateM (Stream Failure) (Option Failure)).run middle).2 where
  refusals :=
    (print_wrote middle []).refusals.trans wrote.refusals
  forward :=
    Nat.le_trans wrote.forward (print_wrote middle []).forward
  beginning := by
    obtain ⟨part, begins, held⟩ := wrote.beginning
    exact ⟨part, begins, attempt_text.trans held⟩
  complete :=
    nofun
  accepted := by
    refine iff_of_false nofun ?_
    intro all
    have early : before.Accepts before.calls calls := by
      intro call from_ below
      exact all call from_ (by omega)
    cases wrote.accepted.mpr early

/--
Open a file, write to it, and close it in any case.  The first failure counts;
one of opening is reported in its own way.
-/
def writeFile
    {Report : Type}
    (opening later : Failure → Report)
    (body : StateM (Stream Failure) (Option Failure)) :
    StateM (Stream Failure) (Except Report Unit) := do
  match ← attempt with
  | some failure =>
      return .error (opening failure)
  | none =>
      let failed ← body
      let closed ← attempt
      match failed, closed with
      | some failure, _ =>
          return .error (later failure)
      | none, some failure =>
          return .error (later failure)
      | none, none =>
          return .ok ()

/-- A file is reported as written exactly if all of its text got through. -/
theorem writeFile_wrote
    {Report : Type}
    {opening later : Failure → Report}
    {body : StateM (Stream Failure) (Option Failure)}
    {whole : Text}
    {calls : Nat}
    (wrote :
      ∀ start : Stream Failure,
        Wrote whole calls (body.run start).1 start (body.run start).2) :
    ∃ outcome : Option Failure,
      Wrote whole (1 + (calls + 1)) outcome stream
          ((writeFile opening later body).run stream).2 ∧
        (((writeFile opening later body).run stream).1 = .ok () ↔
          outcome = none) := by
  have opened := print_wrote stream []
  rcases first : (print []).run stream with ⟨_ | failure, middle⟩
  · rw [first] at opened
    have written := wrote middle
    rcases second : body.run middle with ⟨failed, third⟩
    rw [second] at written
    have closed := print_wrote third []
    rcases last : (print []).run third with ⟨refused, final⟩
    rw [last] at closed
    have ran :
        (writeFile opening later body).run stream =
          (match failed, refused with
            | some failure, _ =>
                .error (later failure)
            | none, some failure =>
                .error (later failure)
            | none, none =>
                .ok (), final) := by
      refine (run_bind_of first).trans ((run_bind_of second).trans
        ((run_bind_of last).trans ?_))
      cases failed <;> cases refused <;> rfl
    rw [ran]
    cases failed with
    | none =>
        have all := opened.andThen (written.andThen closed)
        rw [List.nil_append, List.append_nil] at all
        refine ⟨refused, all, ?_⟩
        cases refused <;> simp
    | some failure =>
        have all := opened.andThen written.attempted
        rw [List.nil_append, attempt, last] at all
        exact ⟨some failure, all, by simp⟩
  · rw [first] at opened
    have all : Wrote ([] ++ whole) (1 + (calls + 1)) (some failure)
        stream middle :=
      opened.stopped
    rw [List.nil_append] at all
    have ran :
        (writeFile opening later body).run stream =
          (.error (opening failure), middle) :=
      run_bind_of first
    rw [ran]
    exact ⟨some failure, all, by simp⟩

end Calls

/-! ## Records -/

/-- A key and a value. -/
abbrev Field :=
  Text × Text

/-- The line of one field. -/
def line (field : Field) : Text :=
  field.1 ++ '=' :: field.2 ++ ['\n']

/-- All lines, one after the other. -/
def render (fields : List Field) : Text :=
  (fields.map line).flatten

/-- Split at the first occurrence of a mark, which is dropped. -/
def splitAtMark (mark : Char) : Text → Option (Text × Text)
  | [] =>
      none
  | char :: rest =>
      if char = mark then
        some ([], rest)
      else
        (splitAtMark mark rest).map fun found =>
          (char :: found.1, found.2)

/-- A text is split at its first mark. -/
theorem splitAtMark_append
    {mark : Char}
    {front back : Text}
    (free : mark ∉ front) :
    splitAtMark mark (front ++ mark :: back) = some (front, back) := by
  induction front with
  | nil =>
      simp [splitAtMark]
  | cons char front inductionHypothesis =>
      have other : char ≠ mark := by
        rintro rfl
        exact free List.mem_cons_self
      have rest : mark ∉ front := fun member =>
        free (List.mem_cons_of_mem _ member)
      simp [splitAtMark, other, inductionHypothesis rest]

/-- Read fields back, line by line; `fuel` bounds the number of lines. -/
def parse : Nat → Text → Option (List Field)
  | _, [] =>
      some []
  | 0, _ :: _ =>
      none
  | fuel + 1, text =>
      match splitAtMark '\n' text with
      | none =>
          none
      | some (first, rest) =>
          match splitAtMark '=' first, parse fuel rest with
          | some field, some fields =>
              some (field :: fields)
          | _, _ =>
              none

/-- Nothing in the field can be taken for the end of its key or its line. -/
structure Plain (field : Field) : Prop where
  key : '=' ∉ field.1 ∧ '\n' ∉ field.1
  value : '\n' ∉ field.2

/-- A line ends at its line break. -/
theorem splitAtMark_line
    {field : Field}
    (plain : Plain field)
    (rest : Text) :
    splitAtMark '\n' (line field ++ rest) =
      some (field.1 ++ '=' :: field.2, rest) := by
  have shape :
      line field ++ rest = (field.1 ++ '=' :: field.2) ++ '\n' :: rest := by
    simp [line]
  rw [shape]
  refine splitAtMark_append ?_
  simp [plain.key.2, plain.value]

/-- Plain fields are read back as they were written. -/
theorem parse_render
    {fields : List Field}
    (plain : ∀ field, field ∈ fields → Plain field) :
    parse fields.length (render fields) = some fields := by
  induction fields with
  | nil =>
      rfl
  | cons field fields inductionHypothesis =>
      have head := plain field List.mem_cons_self
      have tail := inductionHypothesis fun other member =>
        plain other (List.mem_cons_of_mem _ member)
      have shape :
          render (field :: fields) = line field ++ render fields := rfl
      have nonempty :
          ∃ char chars, line field ++ render fields = char :: chars := by
        cases keyShape : field.1 with
        | nil =>
            exact ⟨'=', _, by rw [line, keyShape]; rfl⟩
        | cons char chars =>
            exact ⟨char, _, by rw [line, keyShape]; rfl⟩
      obtain ⟨char, chars, starts⟩ := nonempty
      have split := splitAtMark_line head (render fields)
      rw [shape, List.length_cons, starts, parse, ← starts, split]
      · simp only [splitAtMark_append head.key.1, tail]
      · nofun

/-- The lines of the first come first. -/
theorem render_append (first second : List Field) :
    render (first ++ second) = render first ++ render second := by
  simp [render]

end TextStream
