import Mathlib.Data.List.Basic
import Mathlib.Order.Lattice
import Mathlib.Tactic.Common

/-!
# Memory with release stores and acquire loads

Parties share variables, which are stored with release and loaded with acquire
order, and plain places.  Each variable belongs to one party, which alone
stores to it, so the order of its messages is the order of the stores.  A load
need not return the last message: any message does that is not known to be
superseded.

A clock says how many events of each party happened before now.  A store sends
the clock of its party along, and a load joins it to the clock of the loading
party.  Two accesses of different parties to a plain place, one of them a
write, are a race unless the clock of the later one has the earlier one.
-/

namespace ReleaseAcquire

/-- How many events of each party are known. -/
abbrev Clock (Party : Type) :=
  Party → Nat

/-- A stored value, with the clock of the store. -/
structure Message (Party Value : Type) where
  value : Value
  clock : Clock Party

/-- An access to a plain place. -/
structure Access (Party : Type) where
  party : Party
  time : Nat
  writes : Bool
  deriving Repr, DecidableEq

/-- Messages are kept with the oldest one first. -/
structure Memory (Party Variable Value Place Datum : Type) where
  clocks : Party → Clock Party
  messages : Variable → List (Message Party Value)
  data : Place → Datum
  accesses : Place → List (Access Party)

namespace Memory

variable {Party Variable Value Place Datum : Type}

section Operations

variable [DecidableEq Party] [DecidableEq Variable] [DecidableEq Place]

/-- Every variable has one message that everybody knows. -/
def create
    (value : Variable → Value)
    (data : Place → Datum) :
    Memory Party Variable Value Place Datum where
  clocks _ _ := 0
  messages variable_ := [{ value := value variable_, clock := fun _ => 0 }]
  data := data
  accesses _ := []

/-- One more event of the party. -/
def tick
    (party : Party)
    (memory : Memory Party Variable Value Place Datum) :
    Memory Party Variable Value Place Datum :=
  { memory with
    clocks :=
      Function.update memory.clocks party
        (Function.update (memory.clocks party) party
          (memory.clocks party party + 1)) }

/-- Store to the party's own variable. -/
def storeRelease
    (party : Party)
    (variable_ : Variable)
    (value : Value)
    (memory : Memory Party Variable Value Place Datum) :
    Memory Party Variable Value Place Datum :=
  let ticked := memory.tick party
  { ticked with
    messages :=
      Function.update ticked.messages variable_
        (ticked.messages variable_ ++
          [{ value := value, clock := ticked.clocks party }]) }

/-- The party does not know of any message after the given one. -/
def Current
    (owner : Variable → Party)
    (party : Party)
    (variable_ : Variable)
    (index : Nat)
    (memory : Memory Party Variable Value Place Datum) :
    Prop :=
  ∀ message ∈ (memory.messages variable_).drop (index + 1),
    memory.clocks party (owner variable_) <
      message.clock (owner variable_)

instance
    (owner : Variable → Party)
    (party : Party)
    (variable_ : Variable)
    (index : Nat)
    (memory : Memory Party Variable Value Place Datum) :
    Decidable (memory.Current owner party variable_ index) :=
  inferInstanceAs
    (Decidable
      (∀ message ∈ (memory.messages variable_).drop (index + 1),
        memory.clocks party (owner variable_) <
          message.clock (owner variable_)))

/-- Load a message that is not known to be superseded. -/
def loadAcquire
    (owner : Variable → Party)
    (party : Party)
    (variable_ : Variable)
    (index : Nat)
    (memory : Memory Party Variable Value Place Datum) :
    Option (Value × Memory Party Variable Value Place Datum) :=
  match (memory.messages variable_)[index]? with
  | none =>
      none
  | some message =>
      if memory.Current owner party variable_ index then
        some
          (message.value,
            { memory with
              clocks :=
                Function.update memory.clocks party
                  (memory.clocks party ⊔ message.clock) })
      else
        none

/-- Note an access to a plain place. -/
def access
    (party : Party)
    (place : Place)
    (writes : Bool)
    (memory : Memory Party Variable Value Place Datum) :
    Memory Party Variable Value Place Datum :=
  let ticked := memory.tick party
  { ticked with
    accesses :=
      Function.update ticked.accesses place
        (ticked.accesses place ++
          [{ party := party
             time := ticked.clocks party party
             writes := writes }]) }

/-- Read a plain place. -/
def read
    (party : Party)
    (place : Place)
    (memory : Memory Party Variable Value Place Datum) :
    Memory Party Variable Value Place Datum :=
  memory.access party place false

/-- Write a plain place. -/
def write
    (party : Party)
    (place : Place)
    (datum : Datum)
    (memory : Memory Party Variable Value Place Datum) :
    Memory Party Variable Value Place Datum :=
  let accessed := memory.access party place true
  { accessed with data := Function.update accessed.data place datum }

end Operations

/-- An access now would not race with any access so far. -/
def RaceFree
    (party : Party)
    (place : Place)
    (writes : Bool)
    (memory : Memory Party Variable Value Place Datum) :
    Prop :=
  ∀ access ∈ memory.accesses place,
    access.party ≠ party →
    access.writes = true ∨ writes = true →
    access.time ≤ memory.clocks party access.party

/-! ## Well-formed memories -/

/-- Nobody knows of events that have not happened, and stores are in order. -/
structure WellFormed
    (owner : Variable → Party)
    (memory : Memory Party Variable Value Place Datum) :
    Prop where
  known :
    ∀ party other,
      memory.clocks party other ≤ memory.clocks other other
  sent :
    ∀ {variable_ message},
      message ∈ memory.messages variable_ →
      ∀ party, message.clock party ≤ memory.clocks party party
  ascending :
    ∀ variable_,
      (memory.messages variable_).Pairwise fun earlier later =>
        earlier.clock (owner variable_) < later.clock (owner variable_)
  accessed :
    ∀ {place access},
      access ∈ memory.accesses place →
      access.time ≤ memory.clocks access.party access.party

section Facts

variable {owner : Variable → Party}
variable {memory : Memory Party Variable Value Place Datum}

/-- At the start nobody knows of anything. -/
theorem WellFormed.create
    (value : Variable → Value)
    (data : Place → Datum) :
    WellFormed owner (Memory.create value data) where
  known _ _ := Nat.le_refl 0
  sent member _ := by
    simp only [Memory.create, List.mem_singleton] at member
    subst member
    exact Nat.le_refl 0
  ascending variable_ := by
    simp [Memory.create]
  accessed member := by
    simp [Memory.create] at member

/-- A load never goes back behind a message that is known. -/
theorem Current.le
    {party : Party}
    {variable_ : Variable}
    {index known : Nat}
    {message : Message Party Value}
    (current : memory.Current owner party variable_ index)
    (found : (memory.messages variable_)[known]? = some message)
    (isKnown :
      message.clock (owner variable_) ≤
        memory.clocks party (owner variable_)) :
    known ≤ index := by
  by_contra later
  have dropped :
      ((memory.messages variable_).drop (index + 1))[known - (index + 1)]? =
        some message := by
    rw [List.getElem?_drop, Nat.add_sub_cancel' (by omega)]
    exact found
  have newer := current message (List.mem_of_getElem? dropped)
  omega

variable [DecidableEq Party]

/-! ### Events -/

/-- A party counts its own event. -/
@[simp] theorem tick_clocks_self (party : Party) :
    (memory.tick party).clocks party party =
      memory.clocks party party + 1 := by
  simp [tick]

/-- Nobody else learns of it. -/
theorem tick_clocks_of_ne
    {party other : Party}
    (different : other ≠ party)
    (about : Party) :
    (memory.tick party).clocks other about = memory.clocks other about := by
  simp [tick, different]

/-- Nor does the party learn anything about others. -/
theorem tick_clocks_about
    {party about : Party}
    (different : about ≠ party) :
    (memory.tick party).clocks party about =
      memory.clocks party about := by
  simp [tick, different]

/-- Clocks only rise. -/
theorem le_tick (party other about : Party) :
    memory.clocks other about ≤ (memory.tick party).clocks other about := by
  by_cases same : other = party
  · subst same
    by_cases self : about = other
    · subst self
      simp
    · exact Nat.le_of_eq (tick_clocks_about self).symm
  · exact Nat.le_of_eq (tick_clocks_of_ne same about).symm

/-- An event is no message by itself. -/
@[simp] theorem tick_messages (party : Party) :
    (memory.tick party).messages = memory.messages :=
  rfl

/-- Nor is it an access. -/
@[simp] theorem tick_accesses (party : Party) :
    (memory.tick party).accesses = memory.accesses :=
  rfl

/-- A memory with one more event is well formed. -/
theorem WellFormed.tick
    (wellFormed : memory.WellFormed owner)
    (party : Party) :
    (memory.tick party).WellFormed owner where
  known other about := by
    by_cases self : about = party
    · subst self
      by_cases same : other = about
      · subst same
        exact Nat.le_refl _
      · rw [tick_clocks_of_ne same, tick_clocks_self]
        exact Nat.le_succ_of_le (wellFormed.known other about)
    · rw [tick_clocks_of_ne self]
      by_cases same : other = party
      · subst same
        rw [tick_clocks_about self]
        exact wellFormed.known other about
      · rw [tick_clocks_of_ne same]
        exact wellFormed.known other about
  sent member about :=
    (wellFormed.sent member about).trans (le_tick party about about)
  ascending := wellFormed.ascending
  accessed member :=
    (wellFormed.accessed member).trans (le_tick party _ _)

/-! ### Loads -/

/-- What a successful load has returned and learned. -/
theorem loadAcquire_eq_some
    {party : Party}
    {variable_ : Variable}
    {index : Nat}
    {value : Value}
    {after : Memory Party Variable Value Place Datum}
    (loaded :
      memory.loadAcquire owner party variable_ index =
        some (value, after)) :
    ∃ message,
      (memory.messages variable_)[index]? = some message ∧
        memory.Current owner party variable_ index ∧
        value = message.value ∧
        after =
          { memory with
            clocks :=
              Function.update memory.clocks party
                (memory.clocks party ⊔ message.clock) } := by
  unfold loadAcquire at loaded
  split at loaded
  · cases loaded
  · next message found =>
      split at loaded
      · next current =>
          cases loaded
          exact ⟨message, found, current, rfl, rfl⟩
      · cases loaded

/-- A load only joins clocks that were known before. -/
theorem WellFormed.loadAcquire
    (wellFormed : memory.WellFormed owner)
    {party : Party}
    {variable_ : Variable}
    {index : Nat}
    {value : Value}
    {after : Memory Party Variable Value Place Datum}
    (loaded :
      memory.loadAcquire owner party variable_ index =
        some (value, after)) :
    after.WellFormed owner := by
  obtain ⟨message, found, _, _, rfl⟩ := loadAcquire_eq_some loaded
  have member := List.mem_of_getElem? found
  -- Nobody's count of its own events changes.
  have own (about : Party) :
      Function.update memory.clocks party
          (memory.clocks party ⊔ message.clock) about about =
        memory.clocks about about := by
    by_cases same : about = party
    · subst same
      rw [Function.update_self]
      exact sup_eq_left.mpr (wellFormed.sent member about)
    · rw [Function.update_of_ne same]
  exact
    { known := by
        intro other about
        dsimp only
        rw [own]
        by_cases same : other = party
        · subst same
          rw [Function.update_self]
          exact sup_le (wellFormed.known other about)
            (wellFormed.sent member about)
        · rw [Function.update_of_ne same]
          exact wellFormed.known other about
      sent := by
        intro stored later member about
        dsimp only
        rw [own]
        exact wellFormed.sent member about
      ascending := wellFormed.ascending
      accessed := by
        intro place access member
        dsimp only
        rw [own]
        exact wellFormed.accessed member }

/-! ### Stores -/

section Stores

variable [DecidableEq Variable]

/-- It appends a message with the party's clock. -/
theorem storeRelease_messages_self
    (party : Party) (variable_ : Variable) (value : Value) :
    (memory.storeRelease party variable_ value).messages variable_ =
      memory.messages variable_ ++
        [{ value := value, clock := (memory.tick party).clocks party }] := by
  simp [storeRelease]

/-- The messages of other variables stay. -/
theorem storeRelease_messages_of_ne
    {variable_ other : Variable}
    (different : other ≠ variable_)
    (party : Party)
    (value : Value) :
    (memory.storeRelease party variable_ value).messages other =
      memory.messages other := by
  simp [storeRelease, different]

/-- A message is an earlier one or the one that was stored. -/
theorem mem_storeRelease
    {party : Party}
    {variable_ other : Variable}
    {value : Value}
    {message : Message Party Value}
    (member :
      message ∈
        (memory.storeRelease party variable_ value).messages other) :
    message ∈ memory.messages other ∨
      other = variable_ ∧
        message =
          { value := value
            clock := (memory.tick party).clocks party } := by
  by_cases same : other = variable_
  · subst same
    rw [storeRelease_messages_self, List.mem_append,
      List.mem_singleton] at member
    exact member.imp_right fun isLast => ⟨rfl, isLast⟩
  · rw [storeRelease_messages_of_ne same] at member
    exact .inl member

/-- A store by the owner of the variable. -/
theorem WellFormed.storeRelease
    (wellFormed : memory.WellFormed owner)
    {party : Party}
    {variable_ : Variable}
    (owns : owner variable_ = party)
    (value : Value) :
    (memory.storeRelease party variable_ value).WellFormed owner := by
  have ticked := wellFormed.tick party
  refine { ticked with sent := ?_, ascending := ?_ }
  · intro stored message member about
    rcases mem_storeRelease member with earlier | ⟨_, rfl⟩
    · exact ticked.sent earlier about
    · exact ticked.known party about
  · intro stored
    by_cases same : stored = variable_
    · subst same
      rw [storeRelease_messages_self, List.pairwise_append]
      refine ⟨wellFormed.ascending stored, List.pairwise_singleton _ _, ?_⟩
      intro earlier member later isLast
      rw [List.mem_singleton.mp isLast, owns]
      dsimp only
      rw [tick_clocks_self]
      exact Nat.lt_succ_of_le (wellFormed.sent member party)
    · rw [storeRelease_messages_of_ne same]
      exact wellFormed.ascending stored

end Stores

/-! ### Accesses -/

section Accesses

variable [DecidableEq Place]

/-- An access is an earlier one or the one that was noted. -/
theorem mem_access
    {party : Party}
    {place other : Place}
    {writes : Bool}
    {access : Access Party}
    (member :
      access ∈ (memory.access party place writes).accesses other) :
    access ∈ memory.accesses other ∨
      other = place ∧
        access =
          { party := party
            time := memory.clocks party party + 1
            writes := writes } := by
  by_cases same : other = place
  · subst same
    simp only [Memory.access, Function.update_self, List.mem_append,
      List.mem_singleton, tick_clocks_self] at member
    exact member.imp_right fun isLast => ⟨rfl, isLast⟩
  · simp only [Memory.access, Function.update_of_ne same] at member
    exact .inl member

/-- An access that is noted has happened. -/
theorem WellFormed.access
    (wellFormed : memory.WellFormed owner)
    (party : Party)
    (place : Place)
    (writes : Bool) :
    (memory.access party place writes).WellFormed owner := by
  have ticked := wellFormed.tick party
  refine { ticked with accessed := ?_ }
  intro other access member
  rcases mem_access member with earlier | ⟨_, rfl⟩
  · exact ticked.accessed earlier
  · exact Nat.le_of_eq (tick_clocks_self party).symm

/-- Writing is an access, and the datum is no matter. -/
theorem WellFormed.write
    (wellFormed : memory.WellFormed owner)
    (party : Party)
    (place : Place)
    (datum : Datum) :
    (memory.write party place datum).WellFormed owner :=
  { wellFormed.access party place true with }

end Accesses

end Facts

/-! ## Another form of the values -/

section Map

variable {Other : Type}

/-- The same memory with its values in another form. -/
def mapValues
    (form : Value → Other)
    (memory : Memory Party Variable Value Place Datum) :
    Memory Party Variable Other Place Datum where
  clocks := memory.clocks
  messages variable_ :=
    (memory.messages variable_).map fun message =>
      { value := form message.value, clock := message.clock }
  data := memory.data
  accesses := memory.accesses

variable [DecidableEq Party]
variable {owner : Variable → Party}
variable (form : Value → Other)
variable (memory : Memory Party Variable Value Place Datum)

/-- A load returns the value in its other form. -/
theorem mapValues_loadAcquire
    (party : Party)
    (variable_ : Variable)
    (index : Nat) :
    (mapValues form memory).loadAcquire owner party variable_ index =
      (memory.loadAcquire owner party variable_ index).map fun loaded =>
        (form loaded.1, mapValues form loaded.2) := by
  have same :
      (mapValues form memory).Current owner party variable_ index ↔
        memory.Current owner party variable_ index := by
    unfold Current mapValues
    rw [← List.map_drop, List.forall_mem_map]
  unfold loadAcquire
  simp only [same]
  simp only [mapValues, List.getElem?_map]
  cases (memory.messages variable_)[index]? with
  | none =>
      rfl
  | some message =>
      dsimp only [Option.map_some]
      split
      · rfl
      · rfl

/-- So does a store put it there. -/
theorem mapValues_storeRelease
    [DecidableEq Variable]
    (party : Party)
    (variable_ : Variable)
    (value : Value) :
    mapValues form (memory.storeRelease party variable_ value) =
      (mapValues form memory).storeRelease party variable_ (form value) := by
  unfold storeRelease mapValues
  congr 1
  funext stored
  by_cases same : stored = variable_
  · subst same
    simp [tick]
  · simp [tick, same]

/-- Accesses are no matter of the values. -/
theorem mapValues_access
    [DecidableEq Place]
    (party : Party)
    (place : Place)
    (writes : Bool) :
    mapValues form (memory.access party place writes) =
      (mapValues form memory).access party place writes :=
  rfl

/-- Nor are writes to plain places. -/
theorem mapValues_write
    [DecidableEq Place]
    (party : Party)
    (place : Place)
    (datum : Datum) :
    mapValues form (memory.write party place datum) =
      (mapValues form memory).write party place datum :=
  rfl

end Map

end Memory

end ReleaseAcquire
