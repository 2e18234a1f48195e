import AfXdp.RingEndpoints
import AfXdp.SpscProtocol

namespace AfXdp.RingMemoryOrder

open ReleaseAcquire
open RingEndpoints
open SequenceIndex
open SpscProtocol

/-!
# The memory orders of `ring.hpp`

The ring again, but in memory that is not sequentially consistent: an acquire
load of an index may return an old value, and nothing but a release store that
was acquired tells one side what the other has done to the descriptors.  The
program's side runs the code of `MmapRing`; the peer on the other side keeps
its own two 32-bit indices and may load, touch and advance as it likes within
them.

Entries are moved word by word, and what was written and read is noted, as in
the model with interleaved steps.
-/

/--
The program's end is `side`.  Of its `handle` the private fields count, and
the shared ones hold what was last loaded or stored.
-/
structure SharedRing (width : Nat) (Word : Type) where
  side : End
  handle : MmapRing Unit
  window : Range
  peerOwn : UInt32
  peerSeen : UInt32
  memory : Memory End End UInt32 (Nat × Fin width) Word
  wrote : RingEndpoints.Record width Word
  got : RingEndpoints.Record width Word
  published : List (Entry width Word)
  released : List (Entry width Word)

/-- A step of either side.  A load is told which message it returns. -/
inductive SharedEvent (Word : Type) (width : Nat) where
  | query (amount : UInt32) (message : Nat) : SharedEvent Word width
  | peerLoad (message : Nat) : SharedEvent Word width
  | write
      (offset : Nat) (word : Fin width) (value : Word) :
      SharedEvent Word width
  | publish (amount : UInt32) : SharedEvent Word width
  | read (offset : Nat) (word : Fin width) : SharedEvent Word width
  | release (amount : UInt32) : SharedEvent Word width

variable {width : Nat} {Word : Type}

namespace SharedRing

/-- Both indices are zero and nobody has loaded anything. -/
def create
    (side : End)
    (descs : Nat × Fin width → Word)
    (numDescs : UInt32) :
    SharedRing width Word where
  side := side
  handle := MmapRing.create (fun _ => ()) numDescs
  window := { amount := 0, start := 0 }
  peerOwn := 0
  peerSeen := 0
  memory := Memory.create (fun _ => 0) descs
  wrote _ _ := none
  got _ _ := none
  published := []
  released := []

/-! ## The program's loads and stores -/

/-- `writable_range` of a producing program. -/
def writableRange
    (ring : SharedRing width Word)
    (amount : UInt32)
    (message : Nat) :
    Option (SharedRing width Word) :=
  if ring.handle.loadsConsumer amount then
    (ring.memory.loadAcquire id .producer .consumer message).map
      fun loaded =>
        let result :=
          { ring.handle with consumer := loaded.1 }.writableRange amount
        { ring with
          memory := loaded.2
          window := result.1
          handle := result.2 }
  else
    let result := ring.handle.writableRange amount
    some
      { ring with
        window := result.1
        handle := result.2 }

/-- `readable_range` of a consuming program. -/
def readableRange
    (ring : SharedRing width Word)
    (batchSize : UInt32)
    (message : Nat) :
    Option (SharedRing width Word) :=
  if ring.handle.loadsProducer then
    (ring.memory.loadAcquire id .consumer .producer message).map
      fun loaded =>
        let result :=
          { ring.handle with producer := loaded.1 }.readableRange batchSize
        { ring with
          memory := loaded.2
          window := result.1
          handle := result.2 }
  else
    let result := ring.handle.readableRange batchSize
    some
      { ring with
        window := result.1
        handle := result.2 }

/-- The window query of the program. -/
def query
    (ring : SharedRing width Word)
    (amount : UInt32)
    (message : Nat) :
    Option (SharedRing width Word) :=
  match ring.side with
  | .producer =>
      ring.writableRange amount message
  | .consumer =>
      ring.readableRange amount message

/-- The window that is left after its first `amount` entries were used. -/
def usedWindow (ring : SharedRing width Word) (amount : UInt32) : Range where
  amount := ring.window.amount - amount
  start := ring.window.start + amount

/-- `publish_written_entries`, a store with release order. -/
def publishWrittenEntries
    (ring : SharedRing width Word)
    (amount : UInt32) :
    SharedRing width Word :=
  let handle := ring.handle.publishWrittenEntries amount
  { ring with
    handle := handle
    window := ring.usedWindow amount
    memory :=
      ring.memory.storeRelease .producer .producer handle.producer }

/-- `release_consumed_entries`, a store with release order. -/
def releaseConsumedEntries
    (ring : SharedRing width Word)
    (amount : UInt32) :
    SharedRing width Word :=
  let handle := ring.handle.releaseConsumedEntries amount
  { ring with
    handle := handle
    window := ring.usedWindow amount
    memory :=
      ring.memory.storeRelease .consumer .consumer handle.consumer }

/-- The store that the program's side ends a window with. -/
def advanceOwn
    (ring : SharedRing width Word)
    (amount : UInt32) :
    SharedRing width Word :=
  match ring.side with
  | .producer =>
      ring.publishWrittenEntries amount
  | .consumer =>
      ring.releaseConsumedEntries amount

/-! ## The peer's -/

/-- The other end loads this end's index. -/
def peerLoad
    (ring : SharedRing width Word)
    (message : Nat) :
    Option (SharedRing width Word) :=
  (ring.memory.loadAcquire id ring.side.other ring.side message).map
    fun loaded =>
      { ring with
        memory := loaded.2
        peerSeen := loaded.1 }

/-- The other end stores its own. -/
def advancePeer
    (ring : SharedRing width Word)
    (amount : UInt32) :
    SharedRing width Word :=
  { ring with
    peerOwn := ring.peerOwn + amount
    memory :=
      ring.memory.storeRelease ring.side.other ring.side.other
        (ring.peerOwn + amount) }

/-- Entries between what the peer has seen and where it is. -/
def peerRoom (ring : SharedRing width Word) : Nat :=
  match ring.side with
  | .producer =>
      (ring.peerSeen - ring.peerOwn).toNat
  | .consumer =>
      ring.handle.numDescs.toNat -
        (ring.peerOwn - ring.peerSeen).toNat

/-! ## Either side -/

/-- The index of the first entry that an end may touch. -/
def start (ring : SharedRing width Word) (end_ : End) : UInt32 :=
  if end_ = ring.side then ring.window.start else ring.peerOwn

/-- How many entries it may touch from there on. -/
def room (ring : SharedRing width Word) (end_ : End) : Nat :=
  if end_ = ring.side then ring.window.amount.toNat else ring.peerRoom

/-- Where one word of the entry at `offset` is, as `desc_at` finds it. -/
def place
    (ring : SharedRing width Word)
    (end_ : End)
    (offset : Nat)
    (word : Fin width) :
    Nat × Fin width :=
  (ring.handle.slotOf (ring.start end_ + stored offset), word)

/-- Either end moves on. -/
def advance
    (ring : SharedRing width Word)
    (end_ : End)
    (amount : UInt32) :
    SharedRing width Word :=
  if end_ = ring.side then
    ring.advanceOwn amount
  else
    ring.advancePeer amount

/-- Perform one event, if the side it belongs to may do so now. -/
def step (ring : SharedRing width Word) :
    SharedEvent Word width → Option (SharedRing width Word)
  | .query amount message =>
      ring.query amount message
  | .peerLoad message =>
      ring.peerLoad message
  | .write offset word value =>
      if offset < ring.room .producer then
        some
          { ring with
            memory :=
              ring.memory.write .producer
                (ring.place .producer offset word) value
            wrote :=
              Record.note ring.wrote (ring.published.length + offset)
                word value }
      else
        none
  | .publish amount =>
      if amount.toNat ≤ ring.room .producer then
        (Record.entries? ring.wrote ring.published.length
          amount.toNat).map fun entries =>
            { ring.advance .producer amount with
              published := ring.published ++ entries }
      else
        none
  | .read offset word =>
      if offset < ring.room .consumer then
        some
          { ring with
            memory :=
              ring.memory.read .consumer
                (ring.place .consumer offset word)
            got :=
              Record.note ring.got (ring.released.length + offset) word
                (ring.memory.data (ring.place .consumer offset word)) }
      else
        none
  | .release amount =>
      if amount.toNat ≤ ring.room .consumer then
        (Record.entries? ring.got ring.released.length
          amount.toNat).map fun entries =>
            { ring.advance .consumer amount with
              released := ring.released ++ entries }
      else
        none

/-- Perform a list of events. -/
def run :
    List (SharedEvent Word width) →
      SharedRing width Word → Option (SharedRing width Word)
  | [], ring =>
      some ring
  | event :: later, ring =>
      (ring.step event).bind (run later)

/-! ## The protocol behind it -/

/-- The private copy of the index that the program advances. -/
def handleOwn (ring : SharedRing width Word) : UInt32 :=
  match ring.side with
  | .producer =>
      ring.handle.cachedProd
  | .consumer =>
      ring.handle.cachedCons

/-- The private copy of the index that the peer advances. -/
def handleSeen (ring : SharedRing width Word) : UInt32 :=
  match ring.side with
  | .producer =>
      ring.handle.cachedCons
  | .consumer =>
      ring.handle.cachedProd

/-- The ring is a state of the protocol with wrapped indices. -/
structure Follows
    (order : Nat)
    (ring : SharedRing width Word)
    (state : State (Fin width) Word) :
    Prop where
  small :
    order < 32
  numDescs :
    ring.handle.numDescs = stored (2 ^ order)
  mask :
    ring.handle.mask = stored (2 ^ order) - 1
  memory :
    ring.memory = state.memory.mapValues stored
  wrote :
    ring.wrote = state.wrote
  got :
    ring.got = state.got
  published :
    ring.published.length = state.own .producer
  released :
    ring.released.length = state.own .consumer
  handleOwn :
    ring.handleOwn = stored (state.own ring.side)
  handleSeen :
    ring.handleSeen = stored (state.seen ring.side)
  peerOwn :
    ring.peerOwn = stored (state.own ring.side.other)
  peerSeen :
    ring.peerSeen = stored (state.seen ring.side.other)
  window :
    ring.window.start = stored (state.own ring.side)
  within :
    state.own ring.side + ring.window.amount.toNat ≤
      state.seen ring.side + lead (2 ^ order) ring.side
  writtenEntries :
    ∀ {number entry},
      ring.published[number]? = some entry →
      ∀ word, ring.wrote number word = some (entry word)
  readEntries :
    ∀ {number entry},
      ring.released[number]? = some entry →
      ∀ word, ring.got number word = some (entry word)
  sound :
    state.Sound (2 ^ order)

/-! ### Windows, whatever index was loaded -/

section Windows

variable {DescT : Type}
variable {handle : MmapRing DescT}
variable {order own seen : Nat}

/-- A writable window ends where the known free entries end. -/
theorem writableRange_within
    (small : order < 32)
    (numDescs : handle.numDescs = stored (2 ^ order))
    (cachedProd : handle.cachedProd = stored own)
    (wanted : UInt32)
    (cachedCons :
      (handle.writableRange wanted).2.cachedCons = stored seen)
    (ordered : seen ≤ own)
    (bounded : own ≤ seen + 2 ^ order) :
    own + (handle.writableRange wanted).1.amount.toNat ≤
      seen + 2 ^ order := by
  have wraps : 2 ^ order < 2 ^ 32 :=
    Nat.pow_lt_pow_right (by decide) small
  have free :
      (handle.writableRange wanted).2.cachedFree.toNat =
        seen + 2 ^ order - own := by
    have used :
        (handle.cachedProd -
            (handle.writableRange wanted).2.cachedCons).toNat =
          own - seen := by
      rw [cachedProd, cachedCons, toNat_stored_sub ordered (by omega)]
    change
      (handle.numDescs -
        (handle.cachedProd -
          (handle.writableRange wanted).2.cachedCons)).toNat = _
    rw [UInt32.toNat_sub, used, numDescs, toNat_stored_two_pow small]
    omega
  change
    own +
        (if (handle.writableRange wanted).2.cachedFree < wanted then
          (handle.writableRange wanted).2.cachedFree
        else
          wanted).toNat ≤ _
  split
  · omega
  · next fits =>
      rw [UInt32.lt_iff_toNat_lt] at fits
      omega

/-- A readable window ends where the known entries end. -/
theorem readableRange_within
    (cachedCons : handle.cachedCons = stored own)
    (batchSize : UInt32)
    (cachedProd :
      (handle.readableRange batchSize).2.cachedProd = stored seen)
    (ordered : own ≤ seen)
    (near : seen < own + 2 ^ 32) :
    own + (handle.readableRange batchSize).1.amount.toNat ≤ seen := by
  have entries :
      ((handle.readableRange batchSize).2.cachedProd -
          handle.cachedCons).toNat =
        seen - own := by
    rw [cachedProd, cachedCons, toNat_stored_sub ordered near]
  change
    own +
        (if (handle.readableRange batchSize).2.cachedProd -
            handle.cachedCons > batchSize then
          batchSize
        else
          (handle.readableRange batchSize).2.cachedProd -
            handle.cachedCons).toNat ≤ _
  split
  · next more =>
      rw [gt_iff_lt, UInt32.lt_iff_toNat_lt] at more
      omega
  · omega

end Windows

namespace Follows

variable {order : Nat}
variable {ring : SharedRing width Word}
variable {state : State (Fin width) Word}

/-- The size of the ring fits its type. -/
theorem two_pow_lt (follows : Follows order ring state) :
    2 ^ order < 2 ^ 32 :=
  Nat.pow_lt_pow_right (by decide) follows.small

/-- A new ring follows a new protocol state. -/
theorem create
    (small : order < 32)
    (side : End)
    (descs : Nat × Fin width → Word) :
    Follows order (SharedRing.create side descs (stored (2 ^ order)))
      (.create descs) where
  small := small
  numDescs := rfl
  mask := rfl
  memory := rfl
  wrote := rfl
  got := rfl
  published := rfl
  released := rfl
  handleOwn := by
    cases side <;> rfl
  handleSeen := by
    cases side <;> rfl
  peerOwn := rfl
  peerSeen := rfl
  window := rfl
  within := Nat.zero_le _
  writtenEntries found := by
    simp [SharedRing.create] at found
  readEntries found := by
    simp [SharedRing.create] at found
  sound := .create descs

/-- The handle knows the size. -/
theorem numDescs_toNat (follows : Follows order ring state) :
    ring.handle.numDescs.toNat = 2 ^ order := by
  rw [follows.numDescs, toNat_stored_two_pow follows.small]

/-- The window of an end starts at its index. -/
theorem start_eq
    (follows : Follows order ring state)
    (end_ : End) :
    ring.start end_ = stored (state.own end_) := by
  unfold SharedRing.start
  by_cases own : end_ = ring.side
  · rw [if_pos own, own]
    exact follows.window
  · rw [if_neg own, End.eq_other own]
    exact follows.peerOwn

/-- The 32-bit difference of the peer's two indices is the true one. -/
theorem peerRoom_le (follows : Follows order ring state) :
    state.own ring.side.other + ring.peerRoom ≤
      state.seen ring.side.other +
        lead (2 ^ order) ring.side.other := by
  have small := follows.two_pow_lt
  have bounded := follows.sound.bounded ring.side.other
  have seen := follows.sound.seen_le ring.side.other
  obtain ⟨ordered, near⟩ := follows.sound.own_le
  unfold SharedRing.peerRoom
  rw [follows.peerOwn, follows.peerSeen, follows.numDescs_toNat]
  cases at_ : ring.side with
  | producer =>
      simp only [at_, lead, End.other] at bounded seen ⊢
      rw [toNat_stored_sub (by omega) (by omega)]
      omega
  | consumer =>
      simp only [at_, lead, End.other] at bounded seen ⊢
      rw [toNat_stored_sub (by omega) (by omega)]
      omega

/-- An end may touch what its room says. -/
theorem room_le
    (follows : Follows order ring state)
    (end_ : End) :
    state.own end_ + ring.room end_ ≤
      state.seen end_ + lead (2 ^ order) end_ := by
  unfold SharedRing.room
  by_cases own : end_ = ring.side
  · rw [if_pos own, own]
    exact follows.within
  · rw [if_neg own, End.eq_other own]
    exact follows.peerRoom_le

/-- What is within the window may be touched. -/
theorem may
    (follows : Follows order ring state)
    {end_ : End}
    {offset : Nat}
    (inRoom : offset < ring.room end_) :
    state.May (2 ^ order) end_ (state.own end_ + offset) := by
  have room := follows.room_le end_
  exact ⟨Nat.le_add_right _ _, by omega⟩

/-- The slot of an entry is its number modulo the size. -/
theorem place_eq
    (follows : Follows order ring state)
    (end_ : End)
    (offset : Nat)
    (word : Fin width) :
    ring.place end_ offset word =
      ((state.own end_ + offset) % 2 ^ order, word) := by
  rw [SharedRing.place, follows.start_eq, stored_add_stored,
    MmapRing.slotOf, follows.mask,
    toNat_stored_and_mask follows.small]

/-! ### Touching entries -/

/-- Writing an entry of the window follows the protocol. -/
theorem write
    (follows : Follows order ring state)
    {offset : Nat}
    (inRoom : offset < ring.room .producer)
    (word : Fin width)
    (value : Word) :
    Follows order
      { ring with
        memory :=
          ring.memory.write .producer
            (ring.place .producer offset word) value
        wrote :=
          Record.note ring.wrote (ring.published.length + offset)
            word value }
      (state.write (2 ^ order) (state.own .producer + offset) word
        value) := by
  refine
    { follows with
      memory := ?_
      wrote := ?_
      writtenEntries := ?_
      sound :=
        follows.sound.step
          (State.step_write (follows.may inRoom) word value) }
  · rw [State.write, Memory.mapValues_write, ← follows.memory,
      ← follows.place_eq]
  · rw [follows.wrote, follows.published]
    rfl
  · intro number entry found otherWord
    dsimp only at found ⊢
    have inPublished := (List.getElem?_eq_some_iff.mp found).1
    rw [Record.note_apply, if_neg (by omega)]
    exact follows.writtenEntries found otherWord

/-- So does reading one. -/
theorem read
    (follows : Follows order ring state)
    {offset : Nat}
    (inRoom : offset < ring.room .consumer)
    (word : Fin width) :
    Follows order
      { ring with
        memory :=
          ring.memory.read .consumer
            (ring.place .consumer offset word)
        got :=
          Record.note ring.got (ring.released.length + offset) word
            (ring.memory.data (ring.place .consumer offset word)) }
      (state.read (2 ^ order) (state.own .consumer + offset) word) := by
  refine
    { follows with
      memory := ?_
      got := ?_
      readEntries := ?_
      sound :=
        follows.sound.step (State.step_read (follows.may inRoom) word) }
  · rw [State.read, Memory.read, Memory.read, Memory.mapValues_access,
      ← follows.memory, ← follows.place_eq]
  · rw [follows.got, follows.released, follows.place_eq, follows.memory]
    rfl
  · intro number entry found otherWord
    dsimp only at found ⊢
    have inReleased := (List.getElem?_eq_some_iff.mp found).1
    rw [Record.note_apply, if_neg (by omega)]
    exact follows.readEntries found otherWord

/-! ### Loading and storing indices -/

/-- A query has looked at the other end, or not, and set the window. -/
theorem queried
    (follows : Follows order ring state)
    {later : State (Fin width) Word}
    (sound : later.Sound (2 ^ order))
    (own : later.own = state.own)
    (records : later.wrote = state.wrote ∧ later.got = state.got)
    (peerSeen :
      later.seen ring.side.other = state.seen ring.side.other)
    {window : Range}
    {handle : MmapRing Unit}
    (numDescs : handle.numDescs = ring.handle.numDescs)
    (mask : handle.mask = ring.handle.mask)
    (handleOwn :
      { ring with handle := handle }.handleOwn = ring.handleOwn)
    (handleSeen :
      { ring with handle := handle }.handleSeen =
        stored (later.seen ring.side))
    (start : window.start = ring.handleOwn)
    (within :
      state.own ring.side + window.amount.toNat ≤
        later.seen ring.side + lead (2 ^ order) ring.side) :
    Follows order
      { ring with
        memory := later.memory.mapValues stored
        window := window
        handle := handle }
      later :=
  { follows with
    numDescs := numDescs.trans follows.numDescs
    mask := mask.trans follows.mask
    memory := rfl
    wrote := follows.wrote.trans records.1.symm
    got := follows.got.trans records.2.symm
    published := by
      rw [own]
      exact follows.published
    released := by
      rw [own]
      exact follows.released
    handleOwn := by
      rw [own]
      exact handleOwn.trans follows.handleOwn
    handleSeen := handleSeen
    peerOwn := by
      rw [own]
      exact follows.peerOwn
    peerSeen := by
      rw [peerSeen]
      exact follows.peerSeen
    window := by
      rw [own]
      exact start.trans follows.handleOwn
    within := by
      rw [own]
      exact within
    sound := sound }

/-- What a load by an end does to the protocol. -/
theorem look_of_load
    (follows : Follows order ring state)
    {end_ : End}
    {message : Nat}
    {loaded : UInt32 × Memory End End UInt32 (Nat × Fin width) Word}
    (load :
      ring.memory.loadAcquire id end_ end_.other message = some loaded) :
    ∃ later,
      State.step (2 ^ order) (.look end_ message) state = some later ∧
        loaded = (stored (later.seen end_), later.memory.mapValues stored) ∧
        later.own = state.own ∧
        (later.wrote = state.wrote ∧ later.got = state.got) ∧
        later.seen end_.other = state.seen end_.other := by
  rw [follows.memory, Memory.mapValues_loadAcquire] at load
  obtain ⟨⟨value, memory⟩, looked, rfl⟩ := Option.map_eq_some_iff.mp load
  refine
    ⟨{ state with
        memory := memory
        seen := Function.update state.seen end_ value },
      ?_, ?_, rfl, ⟨rfl, rfl⟩, ?_⟩
  · rw [State.step, State.look, looked]
    rfl
  · simp
  · simp [End.other_ne]

/-- The window of a producer is inside what it knows to be free. -/
theorem windowWritable
    (follows : Follows order ring state)
    (producing : ring.side = .producer)
    {later : State (Fin width) Word}
    (sound : later.Sound (2 ^ order))
    (own : later.own = state.own)
    (records : later.wrote = state.wrote ∧ later.got = state.got)
    (peerSeen : later.seen .consumer = state.seen .consumer)
    (handle : MmapRing Unit)
    (private_ :
      handle.numDescs = ring.handle.numDescs ∧
        handle.mask = ring.handle.mask ∧
        handle.cachedProd = ring.handle.cachedProd)
    (amount : UInt32)
    (seen :
      (handle.writableRange amount).2.cachedCons =
        stored (later.seen .producer)) :
    Follows order
      { ring with
        memory := later.memory.mapValues stored
        window := (handle.writableRange amount).1
        handle := (handle.writableRange amount).2 }
      later := by
  have isOwn : ring.handleOwn = ring.handle.cachedProd := by
    rw [SharedRing.handleOwn, producing]
  have seenBound := sound.seen_le .producer
  have ordered := sound.own_le.1
  have bounded := sound.bounded .producer
  refine follows.queried sound own records ?_ private_.1
    private_.2.1 ?_ ?_ ?_ ?_
  · rw [producing]
    exact peerSeen
  · simp only [SharedRing.handleOwn, producing]
    exact private_.2.2
  · simp only [SharedRing.handleSeen, producing]
    exact seen
  · rw [isOwn]
    exact private_.2.2
  · rw [← own, producing]
    refine writableRange_within follows.small
      (private_.1.trans follows.numDescs) ?_ amount seen
      (seenBound.trans ordered) bounded
    rw [private_.2.2, ← isOwn, follows.handleOwn, producing, own]

/-- The window of a consumer is inside what it knows to be published. -/
theorem windowReadable
    (follows : Follows order ring state)
    (consuming : ring.side = .consumer)
    {later : State (Fin width) Word}
    (sound : later.Sound (2 ^ order))
    (own : later.own = state.own)
    (records : later.wrote = state.wrote ∧ later.got = state.got)
    (peerSeen : later.seen .producer = state.seen .producer)
    (handle : MmapRing Unit)
    (private_ :
      handle.numDescs = ring.handle.numDescs ∧
        handle.mask = ring.handle.mask ∧
        handle.cachedCons = ring.handle.cachedCons)
    (batchSize : UInt32)
    (seen :
      (handle.readableRange batchSize).2.cachedProd =
        stored (later.seen .consumer)) :
    Follows order
      { ring with
        memory := later.memory.mapValues stored
        window := (handle.readableRange batchSize).1
        handle := (handle.readableRange batchSize).2 }
      later := by
  have isOwn : ring.handleOwn = ring.handle.cachedCons := by
    rw [SharedRing.handleOwn, consuming]
  have small := follows.two_pow_lt
  have seenBound : later.seen .consumer ≤ later.own .producer :=
    sound.seen_le .consumer
  have near := sound.own_le.2
  have bounded : later.own .consumer ≤ later.seen .consumer :=
    sound.bounded .consumer
  refine follows.queried sound own records ?_ private_.1
    private_.2.1 ?_ ?_ ?_ ?_
  · rw [consuming]
    exact peerSeen
  · simp only [SharedRing.handleOwn, consuming]
    exact private_.2.2
  · simp only [SharedRing.handleSeen, consuming]
    exact seen
  · rw [isOwn]
    exact private_.2.2
  · rw [← own, consuming]
    change _ ≤ later.seen .consumer
    refine readableRange_within ?_ batchSize seen bounded (by omega)
    rw [private_.2.2, ← isOwn, follows.handleOwn, consuming, own]

/-- A query of the producer looks at the consumer's index. -/
theorem writableRange
    (follows : Follows order ring state)
    (producing : ring.side = .producer)
    {amount : UInt32}
    {message : Nat}
    {after : SharedRing width Word}
    (queried : ring.writableRange amount message = some after) :
    ∃ later,
      state.Reaches (2 ^ order) later ∧ Follows order after later := by
  unfold SharedRing.writableRange at queried
  split at queried
  · next loads =>
      obtain ⟨loaded, load, rfl⟩ := Option.map_eq_some_iff.mp queried
      obtain ⟨later, looked, rfl, own, records, peerSeen⟩ :=
        follows.look_of_load load
      exact ⟨later, .single ⟨_, looked⟩, follows.windowWritable producing
        (follows.sound.step looked) own records peerSeen
        { ring.handle with consumer := stored (later.seen .producer) }
        ⟨rfl, rfl, rfl⟩ amount (if_pos loads)⟩
  · next known =>
      cases queried
      have copy := follows.handleSeen
      rw [SharedRing.handleSeen, producing] at copy
      have same :=
        follows.windowWritable producing follows.sound rfl ⟨rfl, rfl⟩ rfl
          ring.handle ⟨rfl, rfl, rfl⟩ amount ((if_neg known).trans copy)
      rw [← follows.memory] at same
      exact ⟨state, .refl, same⟩

/-- A query of the consumer looks at the producer's index. -/
theorem readableRange
    (follows : Follows order ring state)
    (consuming : ring.side = .consumer)
    {batchSize : UInt32}
    {message : Nat}
    {after : SharedRing width Word}
    (queried : ring.readableRange batchSize message = some after) :
    ∃ later,
      state.Reaches (2 ^ order) later ∧ Follows order after later := by
  unfold SharedRing.readableRange at queried
  split at queried
  · next loads =>
      obtain ⟨loaded, load, rfl⟩ := Option.map_eq_some_iff.mp queried
      obtain ⟨later, looked, rfl, own, records, peerSeen⟩ :=
        follows.look_of_load load
      exact ⟨later, .single ⟨_, looked⟩, follows.windowReadable consuming
        (follows.sound.step looked) own records peerSeen
        { ring.handle with producer := stored (later.seen .consumer) }
        ⟨rfl, rfl, rfl⟩ batchSize (if_pos loads)⟩
  · next known =>
      cases queried
      have copy := follows.handleSeen
      rw [SharedRing.handleSeen, consuming] at copy
      have same :=
        follows.windowReadable consuming follows.sound rfl ⟨rfl, rfl⟩ rfl
          ring.handle ⟨rfl, rfl, rfl⟩ batchSize
          ((if_neg known).trans copy)
      rw [← follows.memory] at same
      exact ⟨state, .refl, same⟩

/-- Either query follows the protocol. -/
theorem query
    (follows : Follows order ring state)
    {amount : UInt32}
    {message : Nat}
    {after : SharedRing width Word}
    (queried : ring.query amount message = some after) :
    ∃ later,
      state.Reaches (2 ^ order) later ∧ Follows order after later := by
  cases at_ : ring.side with
  | producer =>
      rw [SharedRing.query, at_] at queried
      exact follows.writableRange at_ queried
  | consumer =>
      rw [SharedRing.query, at_] at queried
      exact follows.readableRange at_ queried

/-- So does a load of the other end. -/
theorem peerLoad
    (follows : Follows order ring state)
    {message : Nat}
    {after : SharedRing width Word}
    (loads : ring.peerLoad message = some after) :
    ∃ later,
      state.Reaches (2 ^ order) later ∧ Follows order after later := by
  obtain ⟨loaded, load, rfl⟩ := Option.map_eq_some_iff.mp loads
  have load' :
      ring.memory.loadAcquire id ring.side.other ring.side.other.other
        message = some loaded := by
    rw [End.other_other]
    exact load
  obtain ⟨later, looked, rfl, own, records, ownSeen⟩ :=
    follows.look_of_load load'
  rw [End.other_other] at ownSeen
  refine ⟨later, .single ⟨_, looked⟩,
    { follows with
      memory := rfl
      wrote := follows.wrote.trans records.1.symm
      got := follows.got.trans records.2.symm
      published := ?_
      released := ?_
      handleOwn := ?_
      handleSeen := ?_
      peerOwn := ?_
      peerSeen := rfl
      window := ?_
      within := ?_
      sound := follows.sound.step looked }⟩
  · rw [own]
    exact follows.published
  · rw [own]
    exact follows.released
  · rw [own]
    exact follows.handleOwn
  · rw [ownSeen]
    exact follows.handleSeen
  · rw [own]
    exact follows.peerOwn
  · rw [own]
    exact follows.window
  · rw [own, ownSeen]
    exact follows.within

/-- The program's store, whichever end it has. -/
theorem advance_side
    (ring : SharedRing width Word)
    (amount : UInt32) :
    ∃ handle : MmapRing Unit,
      ring.advance ring.side amount =
          { ring with
            handle := handle
            window := ring.usedWindow amount
            memory :=
              ring.memory.storeRelease ring.side ring.side
                (ring.handleOwn + amount) } ∧
        handle.numDescs = ring.handle.numDescs ∧
        handle.mask = ring.handle.mask ∧
        { ring with handle := handle }.handleOwn =
          ring.handleOwn + amount ∧
        { ring with handle := handle }.handleSeen = ring.handleSeen := by
  rw [SharedRing.advance, if_pos rfl, SharedRing.advanceOwn]
  cases at_ : ring.side with
  | producer =>
      refine ⟨ring.handle.publishWrittenEntries amount, ?_, rfl, rfl, ?_, ?_⟩
      · simp only [SharedRing.publishWrittenEntries,
          MmapRing.publishWrittenEntries, SharedRing.handleOwn, at_]
      · simp only [SharedRing.handleOwn, at_]
        rfl
      · simp only [SharedRing.handleSeen, at_]
        rfl
  | consumer =>
      refine ⟨ring.handle.releaseConsumedEntries amount, ?_, rfl, rfl, ?_, ?_⟩
      · simp only [SharedRing.releaseConsumedEntries,
          MmapRing.releaseConsumedEntries, SharedRing.handleOwn, at_]
      · simp only [SharedRing.handleOwn, at_]
        rfl
      · simp only [SharedRing.handleSeen, at_]
        rfl

/-- What is in the room of an end may be given away. -/
theorem advance_within
    (follows : Follows order ring state)
    {end_ : End}
    {amount : UInt32}
    (inRoom : amount.toNat ≤ ring.room end_) :
    state.own end_ + amount.toNat ≤
      state.seen end_ + lead (2 ^ order) end_ := by
  have room := follows.room_le end_
  omega

/-- Either end advances past entries that it may touch. -/
theorem advance
    (follows : Follows order ring state)
    {end_ : End}
    {amount : UInt32}
    (inRoom : amount.toNat ≤ ring.room end_)
    {published released : List (Entry width Word)}
    (publishedLength :
      published.length =
        (state.advance end_ amount.toNat).own .producer)
    (releasedLength :
      released.length =
        (state.advance end_ amount.toNat).own .consumer)
    (writtenEntries :
      ∀ {number entry},
        published[number]? = some entry →
        ∀ word, ring.wrote number word = some (entry word))
    (readEntries :
      ∀ {number entry},
        released[number]? = some entry →
        ∀ word, ring.got number word = some (entry word)) :
    Follows order
      { ring.advance end_ amount with
        published := published
        released := released }
      (state.advance end_ amount.toNat) := by
  have room := follows.advance_within inRoom
  have sound : (state.advance end_ amount.toNat).Sound (2 ^ order) :=
    follows.sound.step (State.step_advance room)
  have stores :
      (state.memory.mapValues stored).storeRelease end_ end_
          (stored (state.own end_) + amount) =
        (state.advance end_ amount.toNat).memory.mapValues stored := by
    rw [State.advance, Memory.mapValues_storeRelease, stored_add]
  by_cases own : end_ = ring.side
  · subst own
    obtain ⟨handle, advanced, numDescs, mask, handleOwn, handleSeen⟩ :=
      advance_side ring amount
    have other :=
      @State.advance_own_of_ne _ _ state _ _ ring.side.other_ne
        amount.toNat
    have fits : amount.toNat ≤ ring.window.amount.toNat := by
      rw [SharedRing.room, if_pos rfl] at inRoom
      exact inRoom
    have left :
        (ring.window.amount - amount).toNat =
          ring.window.amount.toNat - amount.toNat :=
      UInt32.toNat_sub_of_le _ _ (UInt32.le_iff_toNat_le.mpr fits)
    have within := follows.within
    rw [advanced]
    exact
      { follows with
        numDescs := numDescs.trans follows.numDescs
        mask := mask.trans follows.mask
        memory := by
          dsimp only
          rw [follows.memory, follows.handleOwn, stores]
        published := publishedLength
        released := releasedLength
        handleOwn := by
          refine handleOwn.trans ?_
          rw [follows.handleOwn, stored_add, State.advance_own_self]
        handleSeen := handleSeen.trans follows.handleSeen
        peerOwn := by
          dsimp only
          rw [other]
          exact follows.peerOwn
        window := by
          dsimp only [SharedRing.usedWindow]
          rw [follows.window, stored_add, State.advance_own_self]
        within := by
          dsimp only [SharedRing.usedWindow]
          rw [left, State.advance_own_self]
          change _ ≤ state.seen ring.side + _
          omega
        writtenEntries := writtenEntries
        readEntries := readEntries
        sound := sound }
  · have isOther := End.eq_other own
    subst isOther
    have same :=
      @State.advance_own_of_ne _ _ state _ _ (Ne.symm own)
        amount.toNat
    rw [SharedRing.advance, if_neg own]
    exact
      { follows with
        memory := by
          dsimp only [SharedRing.advancePeer]
          rw [follows.memory, follows.peerOwn, stores]
        published := publishedLength
        released := releasedLength
        handleOwn := by
          refine Eq.trans follows.handleOwn ?_
          exact congrArg stored same.symm
        peerOwn := by
          dsimp only [SharedRing.advancePeer]
          rw [follows.peerOwn, stored_add, State.advance_own_self]
        window := by
          refine Eq.trans follows.window ?_
          exact congrArg stored same.symm
        within := by
          change
            (state.advance ring.side.other amount.toNat).own ring.side +
              _ ≤ _
          rw [same]
          exact follows.within
        writtenEntries := writtenEntries
        readEntries := readEntries
        sound := sound }

/-- Entries that were recorded in full join those that were before. -/
theorem recorded_append
    {record : RingEndpoints.Record width Word}
    {entries next : List (Entry width Word)}
    {amount : Nat}
    (recorded :
      ∀ {number entry},
        entries[number]? = some entry →
        ∀ word, record number word = some (entry word))
    (complete :
      Record.entries? record entries.length amount = some next) :
    (entries ++ next).length = entries.length + amount ∧
      ∀ {number entry},
        (entries ++ next)[number]? = some entry →
        ∀ word, record number word = some (entry word) := by
  obtain ⟨length, numbered⟩ := Record.entries?_spec complete
  refine ⟨by rw [List.length_append, length], ?_⟩
  intro number entry found word
  rcases Nat.lt_or_ge number entries.length with earlier | later
  · rw [List.getElem?_append_left earlier] at found
    exact recorded found word
  · rw [List.getElem?_append_right later] at found
    have noted := numbered found word
    rwa [Nat.add_sub_cancel' later] at noted

/-- Advancing does not touch the records. -/
theorem advance_lists
    (ring : SharedRing width Word)
    (end_ : End)
    (amount : UInt32) :
    (ring.advance end_ amount).published = ring.published ∧
      (ring.advance end_ amount).released = ring.released := by
  unfold SharedRing.advance
  split
  · unfold SharedRing.advanceOwn
    split
    · exact ⟨rfl, rfl⟩
    · exact ⟨rfl, rfl⟩
  · exact ⟨rfl, rfl⟩

/-- Every step follows the protocol. -/
theorem step
    (follows : Follows order ring state)
    {event : SharedEvent Word width}
    {after : SharedRing width Word}
    (stepped : ring.step event = some after) :
    ∃ later,
      state.Reaches (2 ^ order) later ∧ Follows order after later := by
  cases event with
  | query amount message =>
      exact follows.query stepped
  | peerLoad message =>
      exact follows.peerLoad stepped
  | write offset word value =>
      rw [SharedRing.step] at stepped
      split at stepped
      · next inRoom =>
          cases stepped
          exact ⟨_,
            .single ⟨_, State.step_write (follows.may inRoom) word value⟩,
            follows.write inRoom word value⟩
      · cases stepped
  | read offset word =>
      rw [SharedRing.step] at stepped
      split at stepped
      · next inRoom =>
          cases stepped
          exact ⟨_,
            .single ⟨_, State.step_read (follows.may inRoom) word⟩,
            follows.read inRoom word⟩
      · cases stepped
  | publish amount =>
      rw [SharedRing.step] at stepped
      split at stepped
      · next inRoom =>
          obtain ⟨entries, complete, rfl⟩ :=
            Option.map_eq_some_iff.mp stepped
          obtain ⟨length, recorded⟩ :=
            recorded_append follows.writtenEntries complete
          have released := (advance_lists ring .producer amount).2
          dsimp only
          rw [released]
          refine ⟨_,
            .single ⟨_, State.step_advance (follows.advance_within inRoom)⟩,
            follows.advance inRoom ?_ ?_ recorded
            follows.readEntries⟩
          · rw [length, follows.published, State.advance_own_self]
          · rw [State.advance_own_of_ne (by decide), follows.released]
      · cases stepped
  | release amount =>
      rw [SharedRing.step] at stepped
      split at stepped
      · next inRoom =>
          obtain ⟨entries, complete, rfl⟩ :=
            Option.map_eq_some_iff.mp stepped
          obtain ⟨length, recorded⟩ :=
            recorded_append follows.readEntries complete
          have published := (advance_lists ring .consumer amount).1
          dsimp only
          rw [published]
          refine ⟨_,
            .single ⟨_, State.step_advance (follows.advance_within inRoom)⟩,
            follows.advance inRoom ?_ ?_
            follows.writtenEntries recorded⟩
          · rw [State.advance_own_of_ne (by decide), follows.published]
          · rw [length, follows.released, State.advance_own_self]
      · cases stepped

/-- So does every run. -/
theorem run
    (follows : Follows order ring state)
    {events : List (SharedEvent Word width)}
    {final : SharedRing width Word}
    (ran : SharedRing.run events ring = some final) :
    ∃ later,
      state.Reaches (2 ^ order) later ∧ Follows order final later := by
  induction events generalizing ring state with
  | nil =>
      cases ran
      exact ⟨state, .refl, follows⟩
  | cons event later inductionHypothesis =>
      obtain ⟨middle, stepped, ran⟩ := Option.bind_eq_some_iff.mp ran
      obtain ⟨_, first, follows⟩ := follows.step stepped
      obtain ⟨last, rest, follows⟩ := inductionHypothesis follows ran
      exact ⟨last, first.trans rest, follows⟩

/-- What the consumer has given back is what the producer has published. -/
theorem released_prefix (follows : Follows order ring state) :
    ring.released <+: ring.published := by
  have ordered := follows.sound.own_le.1
  rw [← follows.published, ← follows.released] at ordered
  rw [List.prefix_iff_eq_take]
  refine List.ext_getElem (by simp [ordered]) ?_
  intro number inReleased inTaken
  have inPublished : number < ring.published.length := by omega
  rw [List.getElem_take]
  funext word
  have got :=
    follows.readEntries (List.getElem?_eq_getElem inReleased) word
  have wrote :=
    follows.writtenEntries (List.getElem?_eq_getElem inPublished) word
  rw [follows.got] at got
  rw [follows.wrote] at wrote
  exact (follows.sound.gotten got).2 wrote

end Follows

end SharedRing

/-! ## What the orders give -/

variable {events : List (SharedEvent Word width)}
variable {final : SharedRing width Word}

/--
With release stores and acquire loads of the two indices, and with nothing
else, the descriptors are never raced on: whatever either side may touch next,
every conflicting access of the other side happened before.
-/
theorem desc_at_never_races
    (side : End)
    (order : Fin 32)
    (descs : Nat × Fin width → Word)
    (ran :
      SharedRing.run events
        (.create side descs (stored (2 ^ order.val))) = some final) :
    (∀ offset word,
      offset < final.room .producer →
      final.memory.RaceFree .producer
        (final.place .producer offset word) true) ∧
      ∀ offset word,
        offset < final.room .consumer →
        final.memory.RaceFree .consumer
          (final.place .consumer offset word) false := by
  obtain ⟨state, _, follows⟩ :=
    (SharedRing.Follows.create order.isLt side descs).run ran
  constructor
  · intro offset word inRoom
    rw [follows.place_eq, follows.memory]
    exact follows.sound.owns (follows.may inRoom) word true
  · intro offset word inRoom
    rw [follows.place_eq, follows.memory]
    exact follows.sound.owns (follows.may inRoom) word false

/--
However stale the loads are and however often the indices wrap, the entries
that were read out of the ring are the first of those that were written into
it, whole and in order, and at most one ring of them is on the way.
-/
theorem stale_loads_keep_order
    (side : End)
    (order : Fin 32)
    (descs : Nat × Fin width → Word)
    (ran :
      SharedRing.run events
        (.create side descs (stored (2 ^ order.val))) = some final) :
    final.released <+: final.published ∧
      final.published.length ≤
        final.released.length + 2 ^ order.val := by
  obtain ⟨state, _, follows⟩ :=
    (SharedRing.Follows.create order.isLt side descs).run ran
  refine ⟨follows.released_prefix, ?_⟩
  rw [follows.published, follows.released]
  exact follows.sound.own_le.2

/--
The peer publishes two entries one at a time, and the program's load returns
the older index: it sees, and gives back, only the first.  The peer learns of
that.
-/
def staleLoad : List (SharedEvent Nat 2) :=
  [.write 0 0 7, .write 0 1 8, .publish 1,
    .write 0 0 5, .write 0 1 6, .publish 1,
    .query 4 1, .read 0 0, .read 0 1, .release 1, .peerLoad 1]

/-- The query of the run returned an index that was out of date. -/
theorem desc_at_never_races_stale :
    ∃ final : SharedRing 2 Nat,
      SharedRing.run staleLoad
          (.create .consumer (fun _ => 0) (stored (2 ^ 1))) =
        some final ∧
        0 < final.room .producer ∧
        final.memory.RaceFree .producer
          (final.place .producer 0 0) true := by
  obtain ⟨final, ran, room⟩ :
      ∃ final : SharedRing 2 Nat,
        SharedRing.run staleLoad
            (.create .consumer (fun _ => 0) (stored (2 ^ 1))) =
          some final ∧
          0 < final.room .producer :=
    ⟨_, rfl, of_decide_eq_true rfl⟩
  exact ⟨final, ran, room,
    (desc_at_never_races .consumer 1 _ ran).1 0 0 room⟩

/-- In the same run. -/
theorem stale_loads_keep_order_stale :
    ∃ final : SharedRing 2 Nat,
      SharedRing.run staleLoad
          (.create .consumer (fun _ => 0) (stored (2 ^ 1))) =
        some final ∧
        final.published.length = 2 ∧ final.released.length = 1 ∧
        final.released <+: final.published := by
  obtain ⟨final, ran, published, released⟩ :
      ∃ final : SharedRing 2 Nat,
        SharedRing.run staleLoad
            (.create .consumer (fun _ => 0) (stored (2 ^ 1))) =
          some final ∧
          final.published.length = 2 ∧ final.released.length = 1 :=
    ⟨_, rfl, rfl, rfl⟩
  exact ⟨final, ran, published, released,
    (stale_loads_keep_order .consumer 1 _ ran).1⟩

end AfXdp.RingMemoryOrder
