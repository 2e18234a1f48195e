import AfXdp.BoundedFifo
import AfXdp.RingChannel

namespace AfXdp.RingEndpoints

open SequenceIndex

/-!
# One ring between the program and a conforming peer

The program owns one end of a ring and drives it through the operations of
`MmapRing`; a peer owns the other end.  An entry is `width` machine words, and
every word is written and read by a step of its own, so that a torn entry
would show.  The program may touch only the window its last query returned.
The peer keeps to the shared indices: it touches only free slots when it
produces and only occupied slots when it consumes.

Two auxiliary records are kept beside the memory.  `wrote` has the words that
the producing side wrote for each entry number, `got` the words that the
consuming side read.  What is published is what was written, and what is
released is what was read, so the link between the two has to come from the
ring.
-/

/-- An entry of `width` words. -/
abbrev Entry (width : Nat) (Word : Type) :=
  Fin width → Word

/-- The end of the ring that the program owns. -/
inductive Side where
  | producer : Side
  | consumer : Side
  deriving Repr, DecidableEq

/-- Words recorded for each entry number. -/
abbrev Record (width : Nat) (Word : Type) :=
  Nat → Fin width → Option Word

/-- A program on one side of a ring, and its peer on the other. -/
structure Link (width : Nat) (Word : Type) where
  side : Side
  channel : Channel (Entry width Word)
  window : Range
  wrote : Record width Word
  got : Record width Word
  published : List (Entry width Word)
  released : List (Entry width Word)
  trace : List (BoundedFifo.Action (Entry width Word))

/-- One step of either side. -/
inductive Event (Word : Type) (width : Nat) where
  | query (amount : UInt32) : Event Word width
  | write
      (offset : Nat) (word : Fin width) (value : Word) :
      Event Word width
  | publish (amount : UInt32) : Event Word width
  | read (offset : Nat) (word : Fin width) : Event Word width
  | release (amount : UInt32) : Event Word width

variable {width : Nat} {Word : Type}

/-- Both sides before anything happened. -/
def Link.create
    (side : Side)
    (memory : Nat → Entry width Word)
    (numDescs : UInt32) :
    Link width Word where
  side := side
  channel := Channel.create memory numDescs
  window := { amount := 0, start := 0 }
  wrote := fun _ _ => none
  got := fun _ _ => none
  published := []
  released := []
  trace := []

namespace Record

/-- Note one word of one entry. -/
def note
    (record : Record width Word)
    (number : Nat)
    (word : Fin width)
    (value : Word) :
    Record width Word :=
  Function.update record number
    (Function.update (record number) word (some value))

/-- A complete entry, if every word of it was recorded. -/
def entry?
    (record : Record width Word)
    (number : Nat) :
    Option (Entry width Word) :=
  if complete : ∀ word, (record number word).isSome then
    some fun word => (record number word).get (complete word)
  else
    none

/-- `amount` complete entries from `number` on. -/
def entries?
    (record : Record width Word) :
    (number amount : Nat) → Option (List (Entry width Word))
  | _, 0 =>
      some []
  | number, amount + 1 =>
      match record.entry? number, record.entries? (number + 1) amount with
      | some entry, some rest =>
          some (entry :: rest)
      | _, _ =>
          none

end Record

namespace Link

/-- How many entries the producing side may write now. -/
def writable (link : Link width Word) : Nat :=
  match link.side with
  | .producer =>
      link.window.amount.toNat
  | .consumer =>
      link.channel.ring.numDescs.toNat -
        link.channel.ring.occupancy.toNat

/-- The index of the first entry that the producing side may write. -/
def writeIndex (link : Link width Word) : UInt32 :=
  match link.side with
  | .producer =>
      link.window.start
  | .consumer =>
      link.channel.ring.producer

/-- How many entries the consuming side may read now. -/
def readable (link : Link width Word) : Nat :=
  match link.side with
  | .producer =>
      link.channel.ring.occupancy.toNat
  | .consumer =>
      link.window.amount.toNat

/-- The index of the first entry that the consuming side may read. -/
def readIndex (link : Link width Word) : UInt32 :=
  match link.side with
  | .producer =>
      link.channel.ring.consumer
  | .consumer =>
      link.window.start

/-- The window query of the program. -/
def query (link : Link width Word) (amount : UInt32) : Link width Word :=
  match link.side with
  | .producer =>
      { link with
        window := (link.channel.writableRange amount).1
        channel := (link.channel.writableRange amount).2 }
  | .consumer =>
      { link with
        window := (link.channel.readableRange amount).1
        channel := (link.channel.readableRange amount).2 }

/-- The window that is left after its first `amount` entries were used. -/
def usedWindow (link : Link width Word) (amount : UInt32) : Range where
  amount := link.window.amount - amount
  start := link.window.start + amount

/-- Write one word of one entry through `desc_at`. -/
def write
    (link : Link width Word)
    (offset : Nat)
    (word : Fin width)
    (value : Word) :
    Link width Word :=
  let index := link.writeIndex + stored offset
  { link with
    channel :=
      link.channel.setDescAt index
        (Function.update (link.channel.ring.descAt index) word value)
    wrote :=
      Record.note link.wrote (link.published.length + offset) word value }

/-- Advance the producer index past `entries`. -/
def publish
    (link : Link width Word)
    (amount : UInt32)
    (entries : List (Entry width Word)) :
    Link width Word :=
  let published : Link width Word :=
    { link with
      published := link.published ++ entries
      trace := link.trace ++ [.enqueue entries] }
  match link.side with
  | .producer =>
      { published with
        channel := link.channel.publishWrittenEntries amount
        window := link.usedWindow amount }
  | .consumer =>
      { published with
        channel := link.channel.peerPublish amount.toNat }

/-- Read one word of one entry through `desc_at`. -/
def read
    (link : Link width Word)
    (offset : Nat)
    (word : Fin width) :
    Link width Word :=
  { link with
    got :=
      Record.note link.got (link.released.length + offset) word
        (link.channel.ring.descAt
          (link.readIndex + stored offset) word) }

/-- Advance the consumer index past `entries`. -/
def release
    (link : Link width Word)
    (amount : UInt32)
    (entries : List (Entry width Word)) :
    Link width Word :=
  let released : Link width Word :=
    { link with
      released := link.released ++ entries
      trace := link.trace ++ [.dequeue entries] }
  match link.side with
  | .producer =>
      { released with
        channel := link.channel.peerConsume amount.toNat }
  | .consumer =>
      { released with
        channel := link.channel.releaseConsumedEntries amount
        window := link.usedWindow amount }

/-- Perform one event, if the side it belongs to may do so now. -/
def step (link : Link width Word) :
    Event Word width → Option (Link width Word)
  | .query amount =>
      some (link.query amount)
  | .write offset word value =>
      if offset < link.writable then
        some (link.write offset word value)
      else
        none
  | .publish amount =>
      if amount.toNat ≤ link.writable then
        (Record.entries? link.wrote
          link.published.length amount.toNat).map
            (link.publish amount)
      else
        none
  | .read offset word =>
      if offset < link.readable then
        some (link.read offset word)
      else
        none
  | .release amount =>
      if amount.toNat ≤ link.readable then
        (Record.entries? link.got
          link.released.length amount.toNat).map
            (link.release amount)
      else
        none

/-- Perform a list of events. -/
def run : List (Event Word width) → Link width Word → Option (Link width Word)
  | [], link =>
      some link
  | event :: later, link =>
      (link.step event).bind (run later)

/-- What an event does, with the guard that it has passed. -/
inductive Stepped
    (link : Link width Word) :
    Event Word width → Link width Word → Prop where
  | query (amount : UInt32) :
      Stepped link (.query amount) (link.query amount)
  | write
      {offset : Nat} {word : Fin width} {value : Word}
      (allowed : offset < link.writable) :
      Stepped link (.write offset word value)
        (link.write offset word value)
  | publish
      {amount : UInt32} {entries : List (Entry width Word)}
      (allowed : amount.toNat ≤ link.writable)
      (complete :
        Record.entries? link.wrote
          link.published.length amount.toNat = some entries) :
      Stepped link (.publish amount) (link.publish amount entries)
  | read
      {offset : Nat} {word : Fin width}
      (allowed : offset < link.readable) :
      Stepped link (.read offset word) (link.read offset word)
  | release
      {amount : UInt32} {entries : List (Entry width Word)}
      (allowed : amount.toNat ≤ link.readable)
      (complete :
        Record.entries? link.got
          link.released.length amount.toNat = some entries) :
      Stepped link (.release amount) (link.release amount entries)

/-- A successful step is one of these. -/
theorem step_cases
    {link after : Link width Word}
    {event : Event Word width}
    (stepped : link.step event = some after) :
    Stepped link event after := by
  cases event with
  | query amount =>
      cases stepped
      exact .query amount
  | write offset word value =>
      simp only [step, Option.ite_none_right_eq_some,
        Option.some.injEq] at stepped
      obtain ⟨allowed, rfl⟩ := stepped
      exact .write allowed
  | publish amount =>
      simp only [step, Option.ite_none_right_eq_some,
        Option.map_eq_some_iff] at stepped
      obtain ⟨allowed, entries, complete, rfl⟩ := stepped
      exact .publish allowed complete
  | read offset word =>
      simp only [step, Option.ite_none_right_eq_some,
        Option.some.injEq] at stepped
      obtain ⟨allowed, rfl⟩ := stepped
      exact .read allowed
  | release amount =>
      simp only [step, Option.ite_none_right_eq_some,
        Option.map_eq_some_iff] at stepped
      obtain ⟨allowed, entries, complete, rfl⟩ := stepped
      exact .release allowed complete

end Link

/-! ## Recorded entries -/

namespace Record

variable {record : Record width Word}

/-- Noting one word changes nothing else. -/
theorem note_apply
    (number : Nat)
    (word : Fin width)
    (value : Word)
    (otherNumber : Nat)
    (otherWord : Fin width) :
    note record number word value otherNumber otherWord =
      if otherNumber = number ∧ otherWord = word then
        some value
      else
        record otherNumber otherWord := by
  unfold note
  by_cases sameNumber : otherNumber = number
  · subst sameNumber
    by_cases sameWord : otherWord = word
    · subst sameWord
      simp
    · simp [sameWord]
  · simp [sameNumber]

/-- A complete entry has exactly the recorded words. -/
theorem entry?_word
    {number : Nat}
    {entry : Entry width Word}
    (complete : entry? record number = some entry)
    (word : Fin width) :
    record number word = some (entry word) := by
  unfold entry? at complete
  split at complete
  · cases complete
    simp
  · cases complete

/-- Complete entries are counted and numbered consecutively. -/
theorem entries?_spec
    {number amount : Nat}
    {entries : List (Entry width Word)}
    (complete : entries? record number amount = some entries) :
    entries.length = amount ∧
      ∀ {offset entry},
        entries[offset]? = some entry →
        ∀ word,
          record (number + offset) word = some (entry word) := by
  induction amount generalizing number entries with
  | zero =>
      simp only [entries?, Option.some.injEq] at complete
      subst complete
      simp
  | succ amount inductionHypothesis =>
      unfold entries? at complete
      split at complete
      · next head rest headComplete restComplete =>
          cases complete
          obtain ⟨length, numbered⟩ :=
            inductionHypothesis restComplete
          refine ⟨by simp [length], ?_⟩
          intro offset entry found word
          cases offset with
          | zero =>
              simp only [List.getElem?_cons_zero,
                Option.some.injEq] at found
              subst found
              exact entry?_word headComplete word
          | succ offset =>
              rw [List.getElem?_cons_succ] at found
              have recorded := numbered found word
              rwa [show number + (offset + 1) = number + 1 + offset by
                omega]
      · cases complete

end Record

/-! ## The invariant -/

namespace Link

/--
The program's end is in order and its window lies inside what the private
indices allow.
-/
def Endpoint (order : Nat) (link : Link width Word) : Prop :=
  match link.side with
  | .producer =>
      Channel.Producing order link.channel ∧
        link.window.start = stored link.channel.log.length ∧
        link.channel.log.length + link.window.amount.toNat ≤
          link.channel.seen + 2 ^ order
  | .consumer =>
      Channel.Consuming order link.channel ∧
        link.window.start = stored link.channel.taken ∧
        link.channel.taken + link.window.amount.toNat ≤
          link.channel.seen

/--
The invariant of a link.  What was written beyond the published entries is in
the free slots, what was read from unreleased entries is what was published,
and the history is a run of the bounded queue.
-/
structure Sound (order : Nat) (link : Link width Word) : Prop where
  endpoint :
    link.Endpoint order
  published :
    link.published = link.channel.log
  released :
    link.released = link.channel.log.take link.channel.taken
  written :
    ∀ {number word value},
      link.channel.log.length ≤ number →
      link.wrote number word = some value →
      number < link.channel.taken + 2 ^ order ∧
        link.channel.ring.descs (number % 2 ^ order) word = value
  gotten :
    ∀ {number word value},
      link.channel.taken ≤ number →
      link.got number word = some value →
      ∃ entry,
        link.channel.log[number]? = some entry ∧ entry word = value
  queued :
    BoundedFifo.Runs (2 ^ order) link.trace link.channel.pending
  enqueued :
    BoundedFifo.enqueued link.trace = link.published
  dequeued :
    BoundedFifo.dequeued link.trace = link.released

namespace Endpoint

variable {order : Nat} {link : Link width Word}

/-- The channel of an endpoint is linked. -/
theorem linked (endpoint : link.Endpoint order) :
    Channel.Linked order link.channel := by
  unfold Endpoint at endpoint
  split at endpoint
  · exact endpoint.1.toLinked
  · exact endpoint.1.toLinked

/-- The producing side writes from the producer index on. -/
theorem writeIndex_eq (endpoint : link.Endpoint order) :
    link.writeIndex = stored link.channel.log.length := by
  have producer := endpoint.linked.producer
  unfold Endpoint at endpoint
  unfold writeIndex
  split at endpoint
  · exact endpoint.2.1
  · exact producer

/-- The producing side writes only free entries. -/
theorem writable_free (endpoint : link.Endpoint order) :
    link.channel.log.length + link.writable ≤
      link.channel.taken + 2 ^ order := by
  have linked := endpoint.linked
  have ordered := linked.ordered
  have bounded := linked.bounded
  unfold Endpoint at endpoint
  unfold writable
  split at endpoint
  · have stale := endpoint.1.stale
    omega
  · simp only [linked.capacity_toNat, linked.occupancy_toNat]
    omega

/-- The consuming side reads from the consumer index on. -/
theorem readIndex_eq (endpoint : link.Endpoint order) :
    link.readIndex = stored link.channel.taken := by
  have consumer := endpoint.linked.consumer
  unfold Endpoint at endpoint
  unfold readIndex
  split at endpoint
  · exact consumer
  · exact endpoint.2.1

/-- The consuming side reads only published entries. -/
theorem readable_occupied (endpoint : link.Endpoint order) :
    link.channel.taken + link.readable ≤
      link.channel.log.length := by
  have linked := endpoint.linked
  have ordered := linked.ordered
  unfold Endpoint at endpoint
  unfold readable
  split at endpoint
  · simp only [linked.occupancy_toNat]
    omega
  · have stale := endpoint.1.stale
    omega

end Endpoint

namespace Sound

variable {order : Nat} {link : Link width Word}

/-- A fresh link satisfies the invariant, whichever end the program owns. -/
theorem create
    (small : order < 32)
    (side : Side)
    (memory : Nat → Entry width Word) :
    (Link.create side memory (stored (2 ^ order))).Sound order where
  endpoint := by
    cases side with
    | producer =>
        exact ⟨Channel.create_producing small memory, rfl,
          Nat.zero_le _⟩
    | consumer =>
        exact ⟨Channel.create_consuming small memory, rfl,
          Nat.le_refl 0⟩
  published := rfl
  released := rfl
  written := by
    intro number word value _ wrote
    cases wrote
  gotten := by
    intro number word value _ got
    cases got
  queued := .start
  enqueued := rfl
  dequeued := rfl

/-- Released entries are those that were taken. -/
theorem released_length (sound : link.Sound order) :
    link.released.length = link.channel.taken := by
  rw [sound.released, List.length_take]
  exact Nat.min_eq_left sound.endpoint.linked.ordered

/-- A query changes nothing but the program's private copies. -/
theorem query
    (sound : link.Sound order)
    (amount : UInt32) :
    (link.query amount).Sound order := by
  have endpoint := sound.endpoint
  unfold Endpoint at endpoint
  unfold Link.query
  split at endpoint
  · next side =>
      obtain ⟨producing, _, _⟩ := endpoint
      refine { sound with endpoint := ?_ }
      simp only [Endpoint, side]
      have amountIs := producing.writableRange_amount amount
      have window := (producing.writableRange amount).window
      rw [Channel.writableRange_log] at window
      refine ⟨producing.writableRange amount,
        producing.writableRange_start amount, ?_⟩
      rw [Channel.writableRange_log]
      omega
  · next side =>
      obtain ⟨consuming, _, _⟩ := endpoint
      refine { sound with endpoint := ?_ }
      simp only [Endpoint, side]
      have amountIs := consuming.readableRange_amount amount
      have window := (consuming.readableRange amount).window
      rw [Channel.readableRange_taken] at window
      refine ⟨consuming.readableRange amount,
        consuming.readableRange_start amount, ?_⟩
      rw [Channel.readableRange_taken]
      omega

/-- Writing one word of a free entry disturbs no other word. -/
theorem write
    (sound : link.Sound order)
    {offset : Nat}
    (allowed : offset < link.writable)
    (word : Fin width)
    (value : Word) :
    (link.write offset word value).Sound order := by
  have linked := sound.endpoint.linked
  have free := sound.endpoint.writable_free
  have index :
      link.writeIndex + stored offset =
        stored (link.channel.log.length + offset) := by
    rw [sound.endpoint.writeIndex_eq, stored_add_stored]
  have unpublished :
      link.channel.log.length ≤ link.channel.log.length + offset :=
    Nat.le_add_right _ _
  have relinked :=
    linked.setDescAt unpublished (by omega)
      (Function.update
        (link.channel.ring.descAt
          (stored (link.channel.log.length + offset))) word value)
  unfold Link.write
  simp only [index]
  refine { sound with endpoint := ?_, written := ?_ }
  · have endpoint := sound.endpoint
    unfold Endpoint at endpoint
    split at endpoint
    · next side =>
        simp only [Endpoint, side]
        exact ⟨{ endpoint.1 with toLinked := relinked }, endpoint.2⟩
    · next side =>
        simp only [Endpoint, side]
        exact ⟨{ endpoint.1 with toLinked := relinked }, endpoint.2⟩
  · intro number otherWord otherValue unpublished recorded
    change link.channel.log.length ≤ number at unpublished
    simp only [Record.note_apply, sound.published] at recorded
    simp only [Channel.setDescAt, MmapRing.setDescAt,
      linked.slotOf_stored, linked.descAt_stored]
    by_cases sameNumber : number = link.channel.log.length + offset
    · subst sameNumber
      refine ⟨by omega, ?_⟩
      rw [Function.update_self]
      by_cases sameWord : otherWord = word
      · subst sameWord
        simpa using recorded
      · rw [Function.update_of_ne sameWord]
        simp only [sameWord, and_false, ↓reduceIte] at recorded
        exact (sound.written unpublished recorded).2
    · simp only [sameNumber, false_and, ↓reduceIte] at recorded
      obtain ⟨bound, held⟩ := sound.written unpublished recorded
      refine ⟨bound, ?_⟩
      have ordered := linked.ordered
      have otherSlot :
          number % 2 ^ order ≠
            (link.channel.log.length + offset) % 2 ^ order := by
        intro same
        rcases Nat.le_total number
            (link.channel.log.length + offset) with before | after
        · exact sameNumber
            (slot_injective before (by omega) same)
        · exact sameNumber
            (slot_injective after (by omega) same.symm).symm
      rw [Function.update_of_ne otherSlot]
      exact held

/-- The recorded entries are the ones in the free slots. -/
theorem staged
    (sound : link.Sound order)
    {released : Nat}
    (known : released ≤ link.channel.taken)
    {amount : Nat}
    (fits :
      link.channel.log.length + amount ≤ released + 2 ^ order)
    {entries : List (Entry width Word)}
    (complete :
      Record.entries? link.wrote link.published.length amount =
        some entries) :
    Channel.Staged order released link.channel entries := by
  obtain ⟨length, recorded⟩ := Record.entries?_spec complete
  refine ⟨known, by omega, ?_⟩
  intro offset entry found
  funext word
  have wrote := recorded found word
  rw [sound.published] at wrote
  exact (sound.written (by omega) wrote).2

/--
What a publication does to everything but the endpoint: the complete entries
join the history at its end.
-/
theorem afterPublish
    (sound : link.Sound order)
    {amount : Nat}
    (allowed : amount ≤ link.writable)
    {entries : List (Entry width Word)}
    (length : entries.length = amount)
    {after : Link width Word}
    (endpoint : after.Endpoint order)
    (log : after.channel.log = link.channel.log ++ entries)
    (taken : after.channel.taken = link.channel.taken)
    (descs : after.channel.ring.descs = link.channel.ring.descs)
    (wrote : after.wrote = link.wrote)
    (got : after.got = link.got)
    (published : after.published = link.published ++ entries)
    (released : after.released = link.released)
    (trace : after.trace = link.trace ++ [.enqueue entries]) :
    after.Sound order := by
  have free := sound.endpoint.writable_free
  have ordered := sound.endpoint.linked.ordered
  refine
    { endpoint := endpoint
      published := by rw [published, log, sound.published]
      released := ?_
      written := ?_
      gotten := ?_
      queued := ?_
      enqueued := ?_
      dequeued := ?_ }
  · rw [released, log, taken, sound.released,
      List.take_append_of_le_length ordered]
  · intro number word value unpublished recorded
    rw [log, List.length_append] at unpublished
    rw [wrote] at recorded
    rw [taken, descs]
    exact sound.written (by omega) recorded
  · intro number word value unreleased recorded
    rw [taken] at unreleased
    rw [got] at recorded
    obtain ⟨entry, found, same⟩ := sound.gotten unreleased recorded
    have inLog := (List.getElem?_eq_some_iff.mp found).1
    refine ⟨entry, ?_, same⟩
    rw [log, List.getElem?_append_left inLog]
    exact found
  · rw [trace, Channel.pending, log, taken,
      List.drop_append_of_le_length ordered]
    refine .enqueue sound.queued ?_
    rw [List.length_drop]
    omega
  · simp [trace, published, sound.enqueued, BoundedFifo.enqueued]
  · simp [trace, released, sound.dequeued, BoundedFifo.dequeued]

/-- Publishing written entries is an enqueue of exactly these entries. -/
theorem publish
    (sound : link.Sound order)
    {amount : UInt32}
    (allowed : amount.toNat ≤ link.writable)
    {entries : List (Entry width Word)}
    (complete :
      Record.entries? link.wrote link.published.length amount.toNat =
        some entries) :
    (link.publish amount entries).Sound order := by
  have free := sound.endpoint.writable_free
  obtain ⟨length, _⟩ := Record.entries?_spec complete
  have atMost : amount.toNat ≤ entries.length :=
    Nat.le_of_eq length.symm
  have whole : entries.take amount.toNat = entries := by
    rw [← length, List.take_length]
  have endpoint := sound.endpoint
  unfold Endpoint at endpoint
  unfold Link.publish
  split at endpoint
  · next side =>
      obtain ⟨producing, start, fits⟩ := endpoint
      have inWindow : amount.toNat ≤ link.window.amount.toNat := by
        simpa only [writable, side] using allowed
      have staged :=
        sound.staged producing.stale (by omega) complete
      have log :=
        producing.publishWrittenEntries_log staged atMost
      rw [whole] at log
      refine sound.afterPublish allowed length ?_ log
        rfl rfl rfl rfl rfl rfl rfl
      simp only [Endpoint, side]
      refine ⟨producing.publishWrittenEntries staged atMost, ?_, ?_⟩
      · rw [log, List.length_append, length]
        simp only [usedWindow, start, stored_add]
      · rw [log, List.length_append, length]
        simp only [usedWindow]
        rw [UInt32.toNat_sub_of_le _ _
          (UInt32.le_iff_toNat_le.mpr inWindow)]
        have sameSeen :
            (link.channel.publishWrittenEntries amount).seen =
              link.channel.seen := rfl
        omega
  · next side =>
      obtain ⟨consuming, start, known⟩ := endpoint
      have staged :=
        sound.staged (Nat.le_refl _) (by omega) complete
      obtain ⟨republished, log⟩ :=
        consuming.peerPublish staged atMost
      rw [whole] at log
      refine sound.afterPublish allowed length ?_ log
        rfl rfl rfl rfl rfl rfl rfl
      simp only [Endpoint, side]
      exact ⟨republished, start, known⟩

/-- Reading one word of a published entry returns that entry's word. -/
theorem read
    (sound : link.Sound order)
    {offset : Nat}
    (allowed : offset < link.readable)
    (word : Fin width) :
    (link.read offset word).Sound order := by
  have linked := sound.endpoint.linked
  have occupied := sound.endpoint.readable_occupied
  have inLog :
      link.channel.taken + offset < link.channel.log.length := by
    omega
  have found :
      link.channel.log[link.channel.taken + offset]? =
        some link.channel.log[link.channel.taken + offset] :=
    List.getElem?_eq_getElem inLog
  have slot :=
    linked.descAt_log (Nat.le_add_right _ _) found
  refine { sound with gotten := ?_ }
  intro number otherWord value unreleased recorded
  simp only [Link.read, Record.note_apply, sound.released_length,
    sound.endpoint.readIndex_eq, stored_add_stored, slot] at recorded
  split at recorded
  · next same =>
      obtain ⟨rfl, rfl⟩ := same
      exact ⟨_, found, Option.some.inj recorded⟩
  · exact sound.gotten unreleased recorded

/-- The entries read are the next ones of the history. -/
theorem gotten_entries
    (sound : link.Sound order)
    {amount : Nat}
    (allowed : amount ≤ link.readable)
    {entries : List (Entry width Word)}
    (complete :
      Record.entries? link.got link.released.length amount =
        some entries) :
    link.channel.log.drop link.channel.taken =
      entries ++
        link.channel.log.drop (link.channel.taken + amount) := by
  obtain ⟨length, recorded⟩ := Record.entries?_spec complete
  rw [sound.released_length] at recorded
  have occupied := sound.endpoint.readable_occupied
  have same :
      (link.channel.log.drop link.channel.taken).take amount =
        entries := by
    apply List.ext_getElem
    · rw [List.length_take, List.length_drop]
      omega
    · intro offset inTaken inEntries
      have inLog :
          link.channel.taken + offset < link.channel.log.length := by
        omega
      rw [List.getElem_take, List.getElem_drop]
      funext word
      obtain ⟨entry, logged, sameWord⟩ :=
        sound.gotten (Nat.le_add_right _ _)
          (recorded (List.getElem?_eq_getElem inEntries) word)
      rw [List.getElem?_eq_getElem inLog, Option.some.injEq] at logged
      rw [logged, sameWord]
  rw [← List.drop_drop, ← same, List.take_append_drop]

/--
What a release does to everything but the endpoint: the entries read leave
the queue at its front.
-/
theorem afterRelease
    (sound : link.Sound order)
    {amount : Nat}
    (allowed : amount ≤ link.readable)
    {entries : List (Entry width Word)}
    (complete :
      Record.entries? link.got link.released.length amount =
        some entries)
    {after : Link width Word}
    (endpoint : after.Endpoint order)
    (log : after.channel.log = link.channel.log)
    (taken : after.channel.taken = link.channel.taken + amount)
    (descs : after.channel.ring.descs = link.channel.ring.descs)
    (wrote : after.wrote = link.wrote)
    (got : after.got = link.got)
    (published : after.published = link.published)
    (released : after.released = link.released ++ entries)
    (trace : after.trace = link.trace ++ [.dequeue entries]) :
    after.Sound order := by
  have next := sound.gotten_entries allowed complete
  obtain ⟨length, _⟩ := Record.entries?_spec complete
  refine
    { endpoint := endpoint
      published := by rw [published, log, sound.published]
      released := ?_
      written := ?_
      gotten := ?_
      queued := ?_
      enqueued := ?_
      dequeued := ?_ }
  · rw [released, log, taken, sound.released, List.take_add, next,
      ← length, List.take_left]
  · intro number word value unpublished recorded
    rw [log] at unpublished
    rw [wrote] at recorded
    obtain ⟨bound, held⟩ := sound.written unpublished recorded
    rw [taken, descs]
    exact ⟨by omega, held⟩
  · intro number word value unreleased recorded
    rw [taken] at unreleased
    rw [got] at recorded
    rw [log]
    exact sound.gotten (by omega) recorded
  · rw [trace, Channel.pending, log, taken]
    refine .dequeue ?_
    rw [← next]
    exact sound.queued
  · simp [trace, published, sound.enqueued, BoundedFifo.enqueued]
  · simp [trace, released, sound.dequeued, BoundedFifo.dequeued]

/-- Releasing read entries is a dequeue of exactly these entries. -/
theorem release
    (sound : link.Sound order)
    {amount : UInt32}
    (allowed : amount.toNat ≤ link.readable)
    {entries : List (Entry width Word)}
    (complete :
      Record.entries? link.got link.released.length amount.toNat =
        some entries) :
    (link.release amount entries).Sound order := by
  have occupied := sound.endpoint.readable_occupied
  have endpoint := sound.endpoint
  unfold Endpoint at endpoint
  unfold Link.release
  split at endpoint
  · next side =>
      obtain ⟨producing, start, fits⟩ := endpoint
      refine sound.afterRelease allowed complete ?_
        rfl rfl rfl rfl rfl rfl rfl rfl
      simp only [Endpoint, side]
      exact ⟨producing.peerConsume (by omega), start, fits⟩
  · next side =>
      obtain ⟨consuming, start, known⟩ := endpoint
      have inWindow : amount.toNat ≤ link.window.amount.toNat := by
        simpa only [readable, side] using allowed
      refine sound.afterRelease allowed complete ?_
        rfl rfl rfl rfl rfl rfl rfl rfl
      simp only [Endpoint, side]
      refine ⟨consuming.releaseConsumedEntries (by omega), ?_, ?_⟩
      · simp only [usedWindow, Channel.releaseConsumedEntries, start,
          stored_add]
      · simp only [usedWindow, Channel.releaseConsumedEntries]
        rw [UInt32.toNat_sub_of_le _ _
          (UInt32.le_iff_toNat_le.mpr inWindow)]
        omega

/-- One event of either side keeps the invariant. -/
theorem step
    (sound : link.Sound order)
    {event : Event Word width}
    {after : Link width Word}
    (stepped : link.step event = some after) :
    after.Sound order := by
  cases step_cases stepped with
  | query amount =>
      exact sound.query amount
  | write allowed =>
      exact sound.write allowed _ _
  | publish allowed complete =>
      exact sound.publish allowed complete
  | read allowed =>
      exact sound.read allowed _
  | release allowed complete =>
      exact sound.release allowed complete

/-- Every run keeps the invariant. -/
theorem run
    {events : List (Event Word width)}
    {after : Link width Word}
    (sound : link.Sound order)
    (ran : Link.run events link = some after) :
    after.Sound order := by
  induction events generalizing link with
  | nil =>
      cases ran
      exact sound
  | cons event rest inductionHypothesis =>
      simp only [Link.run, Option.bind_eq_some_iff] at ran
      obtain ⟨middle, first, later⟩ := ran
      exact inductionHypothesis (sound.step first) later

end Sound

/-- A slot that may be written holds no published, unreleased entry. -/
theorem Sound.writable_unoccupied
    {order : Nat}
    {link : Link width Word}
    (sound : link.Sound order)
    {offset entry : Nat}
    (mayWrite : offset < link.writable)
    (occupied : entry < link.channel.ring.occupancy.toNat) :
    link.channel.ring.slotOf (link.writeIndex + stored offset) ≠
      link.channel.ring.slotOf
        (link.channel.ring.consumer + stored entry) := by
  have linked := sound.endpoint.linked
  have free := sound.endpoint.writable_free
  have ordered := linked.ordered
  rw [linked.occupancy_toNat] at occupied
  rw [sound.endpoint.writeIndex_eq, linked.consumer,
    stored_add_stored, stored_add_stored,
    linked.slotOf_stored, linked.slotOf_stored]
  intro sameSlot
  have equal := slot_injective (by omega) (by omega) sameSlot.symm
  omega

/-- A slot that may be read holds the entry published under its number. -/
theorem Sound.readable_published
    {order : Nat}
    {link : Link width Word}
    (sound : link.Sound order)
    {offset : Nat}
    (mayRead : offset < link.readable) :
    link.published[link.released.length + offset]? =
      some (link.channel.ring.descAt
        (link.readIndex + stored offset)) := by
  have linked := sound.endpoint.linked
  have occupied := sound.endpoint.readable_occupied
  have inLog :
      link.channel.taken + offset < link.channel.log.length := by
    omega
  have found :
      link.channel.log[link.channel.taken + offset]? =
        some link.channel.log[link.channel.taken + offset] :=
    List.getElem?_eq_getElem inLog
  rw [sound.published, sound.released_length,
    sound.endpoint.readIndex_eq, stored_add_stored,
    linked.descAt_log (Nat.le_add_right _ _) found, found]

end Link

/--
`MmapRing` refines a bounded first-in first-out queue.  In every run, at
either end, with every word of an entry moved by a step of its own: the
history is a run of the queue whose inputs are the entries written and whose
outputs are the entries read; a slot that the producing side may write is
never one of a published, unreleased entry; and a slot that the consuming side
may read holds exactly the entry published under that number.
-/
theorem mmapRing_refines_boundedFifo
    (side : Side)
    (order : Fin 32)
    (memory : Nat → Entry width Word)
    {events : List (Event Word width)}
    {final : Link width Word}
    (ran :
      Link.run events
        (Link.create side memory (stored (2 ^ order.val))) =
          some final) :
    final.released <+: final.published ∧
      final.published.length ≤
        final.released.length + 2 ^ order.val ∧
      BoundedFifo.Runs (2 ^ order.val) final.trace
        (final.published.drop final.released.length) ∧
      BoundedFifo.enqueued final.trace = final.published ∧
      BoundedFifo.dequeued final.trace = final.released ∧
      (∀ offset entry,
        offset < final.writable →
        entry < final.channel.ring.occupancy.toNat →
        final.channel.ring.slotOf (final.writeIndex + stored offset) ≠
          final.channel.ring.slotOf
            (final.channel.ring.consumer + stored entry)) ∧
      (∀ offset,
        offset < final.readable →
        final.published[final.released.length + offset]? =
          some (final.channel.ring.descAt
            (final.readIndex + stored offset))) := by
  have sound := (Link.Sound.create order.isLt side memory).run ran
  have queued := sound.queued
  have conserved := queued.conservation
  have atMost := queued.length_le
  rw [sound.enqueued, sound.dequeued] at conserved
  rw [Channel.pending, ← sound.published,
    ← sound.released_length] at queued
  refine ⟨⟨_, conserved.symm⟩, ?_, queued, sound.enqueued,
    sound.dequeued, ?_, ?_⟩
  · have lengths := congrArg List.length conserved
    rw [List.length_append] at lengths
    omega
  · intro offset entry mayWrite occupied
    exact sound.writable_unoccupied mayWrite occupied
  · intro offset mayRead
    exact sound.readable_published mayRead

/-- The first of two entries has come through a ring of one slot. -/
theorem mmapRing_refines_boundedFifo_oneSlot :
    ∃ final : Link 2 Nat,
      Link.run
          [.query 1, .write 0 0 7, .write 0 1 8, .publish 1,
            .read 0 0, .read 0 1, .release 1,
            .query 1, .write 0 1 6, .write 0 0 5, .publish 1]
          (Link.create .producer (fun _ _ => 0) (stored (2 ^ 0))) =
        some final ∧
        final.published.length = 2 ∧
        final.released.length = 1 ∧
        final.released <+: final.published := by
  have ran :
      Link.run
          [.query 1, .write 0 0 7, .write 0 1 8, .publish 1,
            .read 0 0, .read 0 1, .release 1,
            .query 1, .write 0 1 6, .write 0 0 5, .publish 1]
          (Link.create .producer (fun _ _ => 0) (stored (2 ^ 0))) =
        some (_ : Link 2 Nat) := rfl
  exact ⟨_, ran, rfl, rfl,
    (mmapRing_refines_boundedFifo .producer 0 _ ran).1⟩

end AfXdp.RingEndpoints
