import AfXdp.ReleaseAcquire
import AfXdp.SequenceIndex
import Mathlib.Logic.Relation

/-!
# A ring between two parties in release/acquire memory

Entries are numbered without end and entry `number` lives in slot
`number % capacity`.  Each end publishes how far it is with a release store to
a variable of its own and learns of the other end with acquire loads, which
may be stale.  The producer may touch what it has not published and what it
knows to be free; the consumer may touch what it knows to be published and has
not given back.

An end that keeps to this owns what it touches: every access of the other end
to the same slot happened before.  So there are no races, and what is read is
what was written, although neither end ever waits for the other.
-/

namespace SpscProtocol

open ReleaseAcquire

/-- Each end has a variable of the same name. -/
inductive End where
  | producer : End
  | consumer : End
  deriving Repr, DecidableEq

/-- The end on the other side. -/
def End.other : End → End
  | .producer =>
      .consumer
  | .consumer =>
      .producer

/-- There are only two ends. -/
theorem End.eq_other
    {first second : End}
    (different : first ≠ second) :
    first = second.other := by
  cases first <;> cases second <;> simp_all [End.other]

/-- The other end of the other end. -/
@[simp] theorem End.other_other (end_ : End) :
    end_.other.other = end_ := by
  cases end_ <;> rfl

/-- An end is not its own other end. -/
theorem End.other_ne (end_ : End) : end_.other ≠ end_ := by
  cases end_ <;> simp [End.other]

/-- How far an end may be ahead of the other. -/
def lead (capacity : Nat) : End → Nat
  | .producer =>
      capacity
  | .consumer =>
      0

variable {Part Datum : Type}

/-- What was last noted for each part of each entry. -/
abbrev Record (Part Datum : Type) :=
  Nat → Part → Option Datum

/--
The memory, and what each end keeps for itself: its own index and the last one
it saw of the other.  What was written and read is noted beside it.
-/
structure State (Part Datum : Type) where
  memory : Memory End End Nat (Nat × Part) Datum
  own : End → Nat
  seen : End → Nat
  wrote : Record Part Datum
  got : Record Part Datum

/-- What an end can do next. -/
inductive Event (Part Datum : Type) where
  | look (end_ : End) (index : Nat) : Event Part Datum
  | write (number : Nat) (part : Part) (datum : Datum) : Event Part Datum
  | read (number : Nat) (part : Part) : Event Part Datum
  | advance (end_ : End) (amount : Nat) : Event Part Datum

namespace State

/-- The entries that an end may touch now. -/
def May
    (capacity : Nat)
    (end_ : End)
    (number : Nat)
    (state : State Part Datum) :
    Prop :=
  state.own end_ ≤ number ∧
    number < state.seen end_ + lead capacity end_

instance
    (capacity : Nat)
    (end_ : End)
    (number : Nat)
    (state : State Part Datum) :
    Decidable (state.May capacity end_ number) :=
  inferInstanceAs
    (Decidable
      (state.own end_ ≤ number ∧
        number < state.seen end_ + lead capacity end_))

/-- Nothing was written and nobody has moved. -/
def create (data : Nat × Part → Datum) : State Part Datum where
  memory := Memory.create (fun _ => 0) data
  own _ := 0
  seen _ := 0
  wrote _ _ := none
  got _ _ := none

section Operations

variable [DecidableEq Part]

/-- Note one part of one entry. -/
def note
    (record : Record Part Datum)
    (number : Nat)
    (part : Part)
    (datum : Datum) :
    Record Part Datum :=
  Function.update record number
    (Function.update (record number) part (some datum))

/-- What is found in a record was there before, or has just been noted. -/
theorem note_eq_some
    {record : Record Part Datum}
    {number other : Nat}
    {part otherPart : Part}
    {datum noted : Datum}
    (found : note record number part datum other otherPart = some noted) :
    other = number ∧ otherPart = part ∧ noted = datum ∨
      (other ≠ number ∨ otherPart ≠ part) ∧
        record other otherPart = some noted := by
  unfold note at found
  by_cases sameNumber : other = number
  · subst sameNumber
    by_cases samePart : otherPart = part
    · subst samePart
      simp only [Function.update_self, Option.some.injEq] at found
      exact .inl ⟨rfl, rfl, found.symm⟩
    · rw [Function.update_self, Function.update_of_ne samePart] at found
      exact .inr ⟨.inr samePart, found⟩
  · rw [Function.update_of_ne sameNumber] at found
    exact .inr ⟨.inl sameNumber, found⟩

/-- Load the other end's index. -/
def look
    (state : State Part Datum)
    (end_ : End)
    (index : Nat) :
    Option (State Part Datum) :=
  (state.memory.loadAcquire id end_ end_.other index).map fun loaded =>
    { state with
      memory := loaded.2
      seen := Function.update state.seen end_ loaded.1 }

/-- Write one part of one entry. -/
def write
    (state : State Part Datum)
    (capacity number : Nat)
    (part : Part)
    (datum : Datum) :
    State Part Datum :=
  { state with
    memory := state.memory.write .producer (number % capacity, part) datum
    wrote := note state.wrote number part datum }

/-- Read one part of one entry. -/
def read
    (state : State Part Datum)
    (capacity number : Nat)
    (part : Part) :
    State Part Datum :=
  { state with
    memory := state.memory.read .consumer (number % capacity, part)
    got :=
      note state.got number part
        (state.memory.data (number % capacity, part)) }

/-- Store the end's own index. -/
def advance
    (state : State Part Datum)
    (end_ : End)
    (amount : Nat) :
    State Part Datum :=
  { state with
    memory :=
      state.memory.storeRelease end_ end_ (state.own end_ + amount)
    own := Function.update state.own end_ (state.own end_ + amount) }

/-- One event, if the end may do it now. -/
def step
    (capacity : Nat) :
    Event Part Datum → State Part Datum → Option (State Part Datum)
  | .look end_ index, state =>
      state.look end_ index
  | .write number part datum, state =>
      if state.May capacity .producer number then
        some (state.write capacity number part datum)
      else
        none
  | .read number part, state =>
      if state.May capacity .consumer number then
        some (state.read capacity number part)
      else
        none
  | .advance end_ amount, state =>
      if state.own end_ + amount ≤
          state.seen end_ + lead capacity end_ then
        some (state.advance end_ amount)
      else
        none

/-- Any number of events. -/
def Reaches (capacity : Nat) :
    State Part Datum → State Part Datum → Prop :=
  Relation.ReflTransGen fun before after =>
    ∃ event, step capacity event before = some after

variable {capacity : Nat}
variable {state : State Part Datum}

/-- The producer may write what it owns. -/
theorem step_write
    {number : Nat}
    (may : state.May capacity .producer number)
    (part : Part)
    (datum : Datum) :
    step capacity (.write number part datum) state =
      some (state.write capacity number part datum) :=
  if_pos may

/-- The consumer may read what it owns. -/
theorem step_read
    {number : Nat}
    (may : state.May capacity .consumer number)
    (part : Part) :
    step capacity (.read number part) state =
      some (state.read capacity number part) :=
  if_pos may

/-- Either end may give away what it owns. -/
theorem step_advance
    {end_ : End}
    {amount : Nat}
    (within :
      state.own end_ + amount ≤ state.seen end_ + lead capacity end_) :
    step capacity (.advance end_ amount) state =
      some (state.advance end_ amount) :=
  if_pos within

end Operations

/-! ## The invariant -/

/--
Both ends keep to the protocol.  An access to a slot is attributed to an entry
number, and whoever publishes an index beyond that number knows the access.
-/
structure Sound
    (capacity : Nat)
    (state : State Part Datum) :
    Prop where
  memory :
    state.memory.WellFormed id
  bounded :
    ∀ end_, state.own end_ ≤ state.seen end_ + lead capacity end_
  known :
    ∀ end_, ∃ (index : Nat) (message : Message End Nat),
      (state.memory.messages end_.other)[index]? = some message ∧
        message.value = state.seen end_ ∧
        message.clock ≤ state.memory.clocks end_
  rising :
    ∀ end_,
      (state.memory.messages end_).Pairwise fun earlier later =>
        earlier.value ≤ later.value
  newest :
    ∀ {end_ message},
      message ∈ state.memory.messages end_ →
      message.value ≤ state.own end_
  accessed :
    ∀ {place access},
      access ∈ state.memory.accesses place →
      ∃ number,
        number % capacity = place.1 ∧
          number < state.seen access.party + lead capacity access.party ∧
          ∀ message ∈ state.memory.messages access.party,
            number < message.value →
            access.time ≤ message.clock access.party
  written :
    ∀ {number part datum},
      state.wrote number part = some datum →
      number < state.seen .producer + capacity ∧
        (state.own .consumer ≤ number →
          state.memory.data (number % capacity, part) = datum)
  gotten :
    ∀ {number part datum},
      state.got number part = some datum →
      number < state.own .producer ∧
        ∀ {written},
          state.wrote number part = some written →
          datum = written

section Facts

variable {capacity : Nat}
variable {state : State Part Datum}

/-- An end that moves on has moved by the amount. -/
@[simp] theorem advance_own_self (end_ : End) (amount : Nat) :
    (state.advance end_ amount).own end_ = state.own end_ + amount := by
  simp [advance]

/-- The other end stays where it is. -/
theorem advance_own_of_ne
    {end_ other : End}
    (different : other ≠ end_)
    (amount : Nat) :
    (state.advance end_ amount).own other = state.own other := by
  simp [advance, different]

namespace Sound

/-- At the start neither end has anything to touch but what is free. -/
theorem create (data : Nat × Part → Datum) :
    Sound capacity (State.create data) where
  memory := .create _ _
  bounded _ := Nat.zero_le _
  known _ := ⟨0, _, rfl, rfl, le_refl _⟩
  rising _ := List.pairwise_singleton _ _
  newest member := by
    simp only [State.create, Memory.create, List.mem_singleton] at member
    subst member
    exact Nat.le_refl 0
  accessed member := by
    simp [State.create, Memory.create] at member
  written found := by
    cases found
  gotten found := by
    cases found

/-- An end has seen no more than the other has done. -/
theorem seen_le
    (sound : state.Sound capacity)
    (end_ : End) :
    state.seen end_ ≤ state.own end_.other := by
  obtain ⟨index, message, found, value, _⟩ := sound.known end_
  rw [← value]
  exact sound.newest (List.mem_of_getElem? found)

/-- The consumer never overtakes, and the producer never laps it. -/
theorem own_le (sound : state.Sound capacity) :
    state.own .consumer ≤ state.own .producer ∧
      state.own .producer ≤ state.own .consumer + capacity := by
  have consumer := sound.bounded .consumer
  have producer := sound.bounded .producer
  have consumerSeen := sound.seen_le .consumer
  have producerSeen := sound.seen_le .producer
  simp only [lead, End.other] at consumer producer consumerSeen producerSeen
  omega

/-! ### Who may touch an entry owns it -/

/-- A touched entry of the other end is one that it has given away. -/
theorem given
    (sound : state.Sound capacity)
    {end_ : End}
    {number touched : Nat}
    (may : state.May capacity end_ number)
    (before :
      touched < state.seen end_.other + lead capacity end_.other)
    (sameSlot : touched % capacity = number % capacity) :
    touched < state.seen end_ := by
  obtain ⟨own, below⟩ := may
  have seen := sound.seen_le end_.other
  cases end_ with
  | producer =>
      simp only [lead, End.other] at own below before seen
      by_contra ungiven
      have same :=
        SequenceIndex.slot_injective (show touched ≤ number by omega)
          (show number < touched + capacity by omega) sameSlot
      omega
  | consumer =>
      simp only [lead, End.other] at own below before seen
      by_contra ungiven
      have same :=
        SequenceIndex.slot_injective (show number ≤ touched by omega)
          (show touched < number + capacity by omega) sameSlot.symm
      omega

/-- Every access of the other end happened before. -/
theorem owns
    (sound : state.Sound capacity)
    {end_ : End}
    {number : Nat}
    (may : state.May capacity end_ number)
    (part : Part)
    (writes : Bool) :
    state.memory.RaceFree end_ (number % capacity, part) writes := by
  intro access member different _
  obtain ⟨touched, slot, before, covered⟩ := sound.accessed member
  rw [End.eq_other different] at before covered ⊢
  have given := sound.given may before slot
  obtain ⟨index, message, found, value, known⟩ := sound.known end_
  have sent :=
    covered message (List.mem_of_getElem? found) (by rw [value]; exact given)
  exact sent.trans (known end_.other)

/-! ### Looking -/

/-- What is seen of the other end only grows. -/
theorem seen_mono
    (sound : state.Sound capacity)
    {end_ : End}
    {index : Nat}
    {message : Message End Nat}
    (found : (state.memory.messages end_.other)[index]? = some message)
    (current : state.memory.Current id end_ end_.other index) :
    state.seen end_ ≤ message.value := by
  obtain ⟨earlier, seen, foundSeen, value, known⟩ := sound.known end_
  have ordered : earlier ≤ index :=
    current.le foundSeen (known end_.other)
  rw [← value]
  rcases Nat.lt_or_eq_of_le ordered with before | same
  · obtain ⟨inRange, atEarlier⟩ := List.getElem?_eq_some_iff.mp foundSeen
    obtain ⟨inRange', atIndex⟩ := List.getElem?_eq_some_iff.mp found
    rw [← atEarlier, ← atIndex]
    exact List.pairwise_iff_getElem.mp (sound.rising end_.other)
      earlier index inRange inRange' before
  · subst same
    rw [foundSeen] at found
    cases found
    exact Nat.le_refl _

/-- A load of the other's index widens the window. -/
theorem look
    (sound : state.Sound capacity)
    {end_ : End}
    {index : Nat}
    {after : State Part Datum}
    (looked : state.look end_ index = some after) :
    after.Sound capacity := by
  obtain ⟨⟨value, memory⟩, loaded, rfl⟩ :=
    Option.map_eq_some_iff.mp looked
  have wellFormed := sound.memory.loadAcquire loaded
  obtain ⟨message, found, current, rfl, rfl⟩ :=
    Memory.loadAcquire_eq_some loaded
  have grows (other : End) :
      state.seen other ≤
        Function.update state.seen end_ message.value other := by
    by_cases same : other = end_
    · subst same
      rw [Function.update_self]
      exact sound.seen_mono found current
    · rw [Function.update_of_ne same]
  exact
    { sound with
      memory := wellFormed
      bounded := fun other =>
        (sound.bounded other).trans (Nat.add_le_add_right (grows other) _)
      known := by
        intro other
        by_cases same : other = end_
        · subst same
          refine ⟨index, message, found, ?_, ?_⟩
          · simp
          · simp
        · obtain ⟨index, seen, found, value, known⟩ := sound.known other
          refine ⟨index, seen, found, ?_, ?_⟩
          · simpa [same] using value
          · simpa [same] using known
      accessed := by
        intro place access member
        obtain ⟨number, slot, before, covered⟩ := sound.accessed member
        exact ⟨number, slot,
          before.trans_le (Nat.add_le_add_right (grows _) _), covered⟩
      written := by
        intro number part datum wrote
        obtain ⟨before, stands⟩ := sound.written wrote
        exact ⟨before.trans_le (Nat.add_le_add_right (grows _) _), stands⟩ }

/-! ### Advancing -/

/-- Moving on within the window gives the entries away. -/
theorem advance
    (sound : state.Sound capacity)
    {end_ : End}
    {amount : Nat}
    (within :
      state.own end_ + amount ≤ state.seen end_ + lead capacity end_) :
    Sound capacity (state.advance end_ amount) := by
  unfold State.advance
  have grows (other : End) :
      state.own other ≤
        Function.update state.own end_ (state.own end_ + amount) other := by
    by_cases same : other = end_
    · subst same
      rw [Function.update_self]
      exact Nat.le_add_right _ _
    · rw [Function.update_of_ne same]
  exact
    { memory := sound.memory.storeRelease rfl _
      bounded := by
        intro other
        dsimp only
        by_cases same : other = end_
        · subst same
          rw [Function.update_self]
          exact within
        · rw [Function.update_of_ne same]
          exact sound.bounded other
      known := by
        intro other
        obtain ⟨index, message, found, value, known⟩ := sound.known other
        refine ⟨index, message, ?_, value,
          known.trans (Memory.le_tick end_ other)⟩
        by_cases same : other.other = end_
        · rw [← same, Memory.storeRelease_messages_self]
          obtain ⟨inRange, _⟩ := List.getElem?_eq_some_iff.mp found
          rw [List.getElem?_append_left inRange]
          exact found
        · rw [Memory.storeRelease_messages_of_ne same]
          exact found
      rising := by
        intro other
        by_cases same : other = end_
        · subst same
          rw [Memory.storeRelease_messages_self, List.pairwise_append]
          refine ⟨sound.rising other, List.pairwise_singleton _ _, ?_⟩
          intro earlier member later isLast
          rw [List.mem_singleton.mp isLast]
          exact (sound.newest member).trans (Nat.le_add_right _ _)
        · rw [Memory.storeRelease_messages_of_ne same]
          exact sound.rising other
      newest := by
        intro other message member
        rcases Memory.mem_storeRelease member with earlier | ⟨rfl, rfl⟩
        · exact (sound.newest earlier).trans (grows other)
        · dsimp only
          rw [Function.update_self]
      accessed := by
        intro place access member
        obtain ⟨number, slot, before, covered⟩ := sound.accessed member
        refine ⟨number, slot, before, ?_⟩
        intro message stored beyond
        rcases Memory.mem_storeRelease stored with earlier | ⟨same, rfl⟩
        · exact covered message earlier beyond
        · rw [← same]
          exact (sound.memory.accessed member).trans
            (Memory.le_tick _ _ _)
      written := by
        intro number part datum wrote
        obtain ⟨before, stands⟩ := sound.written wrote
        exact ⟨before, fun unreleased =>
          stands ((grows .consumer).trans unreleased)⟩
      gotten := by
        intro number part datum got
        obtain ⟨before, same⟩ := sound.gotten got
        exact ⟨before.trans_le (grows .producer), same⟩ }

/-! ### Touching -/

variable [DecidableEq Part]

/-- Noting an access of an end to an entry that it may touch. -/
theorem accesses
    (sound : state.Sound capacity)
    {end_ : End}
    {number : Nat}
    (may : state.May capacity end_ number)
    (part : Part)
    (writes : Bool) :
    Sound capacity
      { state with
        memory :=
          state.memory.access end_ (number % capacity, part) writes } :=
  { sound with
    memory := sound.memory.access _ _ _
    known := by
      intro other
      obtain ⟨index, message, found, value, known⟩ := sound.known other
      exact ⟨index, message, found, value,
        known.trans (Memory.le_tick end_ other)⟩
    accessed := by
      intro place access member
      rcases Memory.mem_access member with earlier | ⟨rfl, rfl⟩
      · exact sound.accessed earlier
      · refine ⟨number, rfl, may.2, ?_⟩
        -- The end has not published anything beyond what it still owns.
        intro message stored beyond
        have published : message.value ≤ state.own end_ :=
          sound.newest stored
        have own := may.1
        exact absurd beyond (by omega) }

/-- The producer writes an entry that it owns. -/
theorem write
    (sound : state.Sound capacity)
    {number : Nat}
    (may : state.May capacity .producer number)
    (part : Part)
    (datum : Datum) :
    Sound capacity (state.write capacity number part datum) := by
  unfold State.write
  have accessed := sound.accesses may part true
  have seen := sound.seen_le .producer
  obtain ⟨ordered, _⟩ := sound.own_le
  obtain ⟨own, below⟩ := may
  simp only [lead, End.other] at own below seen
  refine
    { accessed with
      memory := sound.memory.write _ _ _
      written := ?_
      gotten := ?_ }
  · intro other otherPart noted wrote
    rcases note_eq_some wrote with ⟨rfl, rfl, rfl⟩ | ⟨elsewhere, wrote⟩
    · refine ⟨below, fun _ => ?_⟩
      simp [Memory.write]
    · obtain ⟨before, stands⟩ := sound.written wrote
      refine ⟨before, fun unreleased => ?_⟩
      have place :
          (other % capacity, otherPart) ≠ (number % capacity, part) := by
        intro same
        obtain ⟨sameSlot, samePart⟩ := Prod.mk.inj same
        -- Two unreleased entries within one lap are in different slots.
        have sameNumber : other = number := by
          change state.own .consumer ≤ other at unreleased
          rcases Nat.le_total other number with le | le
          · exact SequenceIndex.slot_injective le (by omega) sameSlot
          · exact (SequenceIndex.slot_injective le (by omega)
              sameSlot.symm).symm
        rcases elsewhere with different | different
        · exact different sameNumber
        · exact different samePart
      simp only [Memory.write, Function.update_of_ne place]
      exact stands unreleased
  · intro other otherPart noted got
    obtain ⟨before, same⟩ := sound.gotten got
    refine ⟨before, ?_⟩
    intro written wrote
    rcases note_eq_some wrote with ⟨rfl, _, _⟩ | ⟨_, wrote⟩
    · exact absurd own (Nat.not_le_of_lt before)
    · exact same wrote

/-- The consumer reads an entry that it owns. -/
theorem read
    (sound : state.Sound capacity)
    {number : Nat}
    (may : state.May capacity .consumer number)
    (part : Part) :
    Sound capacity (state.read capacity number part) := by
  unfold State.read
  have accessed := sound.accesses may part false
  have seen := sound.seen_le .consumer
  obtain ⟨own, below⟩ := may
  simp only [lead, End.other] at below seen
  refine { accessed with gotten := ?_ }
  intro other otherPart noted got
  rcases note_eq_some got with ⟨rfl, rfl, rfl⟩ | ⟨_, got⟩
  · refine ⟨below.trans_le seen, ?_⟩
    intro written wrote
    exact (sound.written wrote).2 own
  · exact sound.gotten got

/-- Every step keeps the invariant. -/
theorem step
    (sound : state.Sound capacity)
    {event : Event Part Datum}
    {after : State Part Datum}
    (stepped : State.step capacity event state = some after) :
    after.Sound capacity := by
  cases event with
  | look end_ index =>
      exact sound.look stepped
  | write number part datum =>
      rw [State.step] at stepped
      split at stepped
      · next may =>
          cases stepped
          exact sound.write may part datum
      · cases stepped
  | read number part =>
      rw [State.step] at stepped
      split at stepped
      · next may =>
          cases stepped
          exact sound.read may part
      · cases stepped
  | advance end_ amount =>
      rw [State.step] at stepped
      split at stepped
      · next within =>
          cases stepped
          exact sound.advance within
      · cases stepped

/-- So does any number of steps. -/
theorem reaches
    (sound : state.Sound capacity)
    {later : State Part Datum}
    (steps : state.Reaches capacity later) :
    later.Sound capacity := by
  induction steps with
  | refl =>
      exact sound
  | tail _ stepped inductionHypothesis =>
      obtain ⟨_, stepped⟩ := stepped
      exact inductionHypothesis.step stepped

end Sound

end Facts

end State

end SpscProtocol
