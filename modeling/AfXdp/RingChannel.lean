import AfXdp.MmapRing

namespace AfXdp

open SequenceIndex

/-!
# Rings with their history

A `Channel` is a ring together with three auxiliary values that no code reads:
every entry ever published, how many of them the consumer side has released,
and which value of the peer's index the private copy stands for.  They are
unbounded, so the two wrapped indices, the two possibly stale copies and the
slot mask all become statements about natural numbers.

`Producing` and `Consuming` are the invariants of the user's two kinds of
endpoint.  Each ring operation has one lemma that says what it does to them.
-/

/-- A ring and its history. -/
structure Channel (DescT : Type) where
  ring : MmapRing DescT
  log : List DescT
  taken : Nat
  seen : Nat

namespace Channel

variable {DescT : Type}

/-- A fresh channel. -/
def create (descs : Nat → DescT) (numDescs : UInt32) : Channel DescT where
  ring := MmapRing.create descs numDescs
  log := []
  taken := 0
  seen := 0

/-- Published entries that the consumer side has not released. -/
def pending (channel : Channel DescT) : List DescT :=
  channel.log.drop channel.taken

/-! ## The user's operations -/

/-- The producer's query, which may load the consumer index. -/
def writableRange
    (channel : Channel DescT)
    (wanted : UInt32) :
    Range × Channel DescT :=
  ((channel.ring.writableRange wanted).1,
    { channel with
      ring := (channel.ring.writableRange wanted).2
      seen :=
        if channel.ring.loadsConsumer wanted then
          channel.taken
        else
          channel.seen })

/-- The consumer's query, which may load the producer index. -/
def readableRange
    (channel : Channel DescT)
    (batchSize : UInt32) :
    Range × Channel DescT :=
  ((channel.ring.readableRange batchSize).1,
    { channel with
      ring := (channel.ring.readableRange batchSize).2
      seen :=
        if channel.ring.loadsProducer then
          channel.log.length
        else
          channel.seen })

/-- Write an entry. -/
def setDescAt
    (channel : Channel DescT)
    (index : UInt32)
    (desc : DescT) :
    Channel DescT :=
  { channel with ring := channel.ring.setDescAt index desc }

/-- The entries that publishing `amount` makes visible, in ring order. -/
def nextEntries (channel : Channel DescT) (amount : Nat) : List DescT :=
  (List.range amount).map fun offset =>
    channel.ring.descAt (channel.ring.cachedProd + stored offset)

/-- Store the producer index, and note what was published. -/
def publishWrittenEntries
    (channel : Channel DescT)
    (amount : UInt32) :
    Channel DescT :=
  { channel with
    ring := channel.ring.publishWrittenEntries amount
    log := channel.log ++ channel.nextEntries amount.toNat }

/-- Store the consumer index, and note how much was taken. -/
def releaseConsumedEntries
    (channel : Channel DescT)
    (amount : UInt32) :
    Channel DescT :=
  { channel with
    ring := channel.ring.releaseConsumedEntries amount
    taken := channel.taken + amount.toNat }

/-! ## The peer's operations -/

/-- The peer releases `amount` entries. -/
def peerConsume (channel : Channel DescT) (amount : Nat) : Channel DescT :=
  { channel with
    ring := channel.ring.peerConsume (stored amount)
    taken := channel.taken + amount }

/-- The entries that the peer's publishing `amount` makes visible. -/
def peerNextEntries (channel : Channel DescT) (amount : Nat) : List DescT :=
  (List.range amount).map fun offset =>
    channel.ring.descAt (channel.ring.producer + stored offset)

/-- The peer publishes `amount` entries. -/
def peerPublish (channel : Channel DescT) (amount : Nat) : Channel DescT :=
  { channel with
    ring := channel.ring.peerPublish (stored amount)
    log := channel.log ++ channel.peerNextEntries amount }

/-- The peer writes the next free slot and publishes it. -/
def peerPut (channel : Channel DescT) (desc : DescT) : Channel DescT :=
  (channel.setDescAt channel.ring.producer desc).peerPublish 1

/-- The kernel sets the flags. -/
def peerSetFlags (channel : Channel DescT) (flags : UInt32) : Channel DescT :=
  { channel with ring := channel.ring.peerSetFlags flags }

/-! ## The invariants -/

/-- What holds of a ring of `2 ^ order` entries at either endpoint. -/
structure Linked (order : Nat) (channel : Channel DescT) : Prop where
  small :
    order < 32
  numDescs :
    channel.ring.numDescs = stored (2 ^ order)
  mask :
    channel.ring.mask = stored (2 ^ order) - 1
  producer :
    channel.ring.producer = stored channel.log.length
  consumer :
    channel.ring.consumer = stored channel.taken
  ordered :
    channel.taken ≤ channel.log.length
  bounded :
    channel.log.length ≤ channel.taken + 2 ^ order
  slots :
    ∀ {index desc},
      channel.taken ≤ index →
      channel.log[index]? = some desc →
      channel.ring.descs (index % 2 ^ order) = desc

/-- The user produces: its copy of the consumer index may be stale. -/
structure Producing (order : Nat) (channel : Channel DescT) : Prop
    extends Linked order channel where
  cachedProd :
    channel.ring.cachedProd = stored channel.log.length
  cachedCons :
    channel.ring.cachedCons = stored channel.seen
  stale :
    channel.seen ≤ channel.taken
  window :
    channel.log.length ≤ channel.seen + 2 ^ order

/-- The user consumes: its copy of the producer index may be stale. -/
structure Consuming (order : Nat) (channel : Channel DescT) : Prop
    extends Linked order channel where
  cachedCons :
    channel.ring.cachedCons = stored channel.taken
  cachedProd :
    channel.ring.cachedProd = stored channel.seen
  window :
    channel.taken ≤ channel.seen
  stale :
    channel.seen ≤ channel.log.length

/--
The slots after the published ones hold `entries`, and there is room for all
of them if the consumer has released `released` entries.
-/
structure Staged
    (order released : Nat)
    (channel : Channel DescT)
    (entries : List DescT) : Prop where
  known :
    released ≤ channel.taken
  fits :
    channel.log.length + entries.length ≤ released + 2 ^ order
  written :
    ∀ {offset desc},
      entries[offset]? = some desc →
      channel.ring.descs
        ((channel.log.length + offset) % 2 ^ order) = desc

section Facts

variable {order : Nat} {channel : Channel DescT}

namespace Linked

/-- The size of the ring fits its type. -/
theorem two_pow_lt (linked : Linked order channel) :
    2 ^ order < 2 ^ 32 :=
  Nat.pow_lt_pow_right (by decide) linked.small

/-- The handle knows the size. -/
theorem capacity_toNat (linked : Linked order channel) :
    channel.ring.numDescs.toNat = 2 ^ order := by
  rw [linked.numDescs, toNat_stored_two_pow linked.small]

/-- The slot of a sequence number is its residue. -/
theorem slotOf_stored
    (linked : Linked order channel)
    (number : Nat) :
    channel.ring.slotOf (stored number) = number % 2 ^ order := by
  rw [MmapRing.slotOf, linked.mask]
  exact toNat_stored_and_mask linked.small number

/-- The slot of an entry is its number modulo the size. -/
theorem descAt_stored
    (linked : Linked order channel)
    (number : Nat) :
    channel.ring.descAt (stored number) =
      channel.ring.descs (number % 2 ^ order) := by
  rw [MmapRing.descAt, linked.slotOf_stored]

/-- A published, unreleased entry is read back through its index. -/
theorem descAt_log
    (linked : Linked order channel)
    {index : Nat}
    {desc : DescT}
    (unreleased : channel.taken ≤ index)
    (published : channel.log[index]? = some desc) :
    channel.ring.descAt (stored index) = desc := by
  rw [linked.descAt_stored]
  exact linked.slots unreleased published

/-- Writing outside the published, unreleased entries keeps the link. -/
theorem setDescAt
    (linked : Linked order channel)
    {number : Nat}
    (unpublished : channel.log.length ≤ number)
    (free : number < channel.taken + 2 ^ order)
    (desc : DescT) :
    Linked order (channel.setDescAt (stored number) desc) := by
  refine { linked with slots := ?_ }
  intro index entry unreleased published
  change channel.taken ≤ index at unreleased
  have inLog : index < channel.log.length :=
    (List.getElem?_eq_some_iff.mp published).1
  have otherSlot : index % 2 ^ order ≠ number % 2 ^ order := by
    intro same
    have equal :=
      slot_injective (by omega) (by omega) same
    omega
  simp only [Channel.setDescAt, MmapRing.setDescAt,
    linked.slotOf_stored, Function.update_of_ne otherSlot]
  exact linked.slots unreleased published

/-- Occupancy as the shared indices show it. -/
theorem occupancy_toNat (linked : Linked order channel) :
    channel.ring.occupancy.toNat =
      channel.log.length - channel.taken := by
  have bounded := linked.bounded
  have small := linked.two_pow_lt
  rw [MmapRing.occupancy, linked.producer, linked.consumer,
    toNat_stored_sub linked.ordered (by omega)]

end Linked

/-! ## The first unreleased entry -/

/-- Releasing one entry takes the head of what is pending. -/
theorem pending_cons
    {channel : Channel DescT}
    (occupied : channel.taken < channel.log.length) :
    channel.pending =
      channel.log[channel.taken] ::
        channel.log.drop (channel.taken + 1) :=
  List.drop_eq_getElem_cons occupied

/-- A ring that is not empty has an entry that is not taken. -/
theorem Linked.occupied_of_ne
    (linked : Linked order channel)
    (nonempty : channel.ring.occupancy ≠ 0) :
    channel.taken < channel.log.length := by
  have occupancy := linked.occupancy_toNat
  have positive : channel.ring.occupancy.toNat ≠ 0 := fun zero =>
    nonempty (UInt32.toNat_inj.mp zero)
  omega

/-- The slot at the consumer index holds the first unreleased entry. -/
theorem Linked.descAt_consumer
    (linked : Linked order channel)
    (occupied : channel.taken < channel.log.length) :
    channel.ring.descAt channel.ring.consumer =
      channel.log[channel.taken] := by
  rw [linked.consumer]
  exact linked.descAt_log (Nat.le_refl _)
    (List.getElem?_eq_getElem occupied)

/-- The slots between the shared indices hold the unreleased entries. -/
theorem Linked.published_eq
    (linked : Linked order channel) :
    channel.ring.published = channel.pending := by
  have occupancy := linked.occupancy_toNat
  have length :
      channel.ring.published.length = channel.pending.length := by
    rw [MmapRing.published, MmapRing.entriesFrom, List.length_map,
      List.length_range, occupancy, pending, List.length_drop]
  refine List.ext_getElem length ?_
  intro offset _ inPending
  have inLog : channel.taken + offset < channel.log.length := by
    rw [pending, List.length_drop] at inPending
    omega
  simp only [MmapRing.published, MmapRing.entriesFrom,
    List.getElem_map, List.getElem_range, linked.consumer,
    stored_add_stored, pending, List.getElem_drop]
  exact linked.descAt_log (Nat.le_add_right _ _)
    (List.getElem?_eq_getElem inLog)

/-- The slots from the producer index on hold what is staged. -/
theorem Staged.entriesFrom_eq
    {released : Nat}
    {entries : List DescT}
    (staged : Staged order released channel entries)
    (linked : Linked order channel) :
    channel.ring.entriesFrom (stored channel.log.length)
        entries.length = entries := by
  refine List.ext_getElem (by simp [MmapRing.entriesFrom]) ?_
  intro offset _ inEntries
  simp only [MmapRing.entriesFrom, List.getElem_map,
    List.getElem_range, stored_add_stored, linked.descAt_stored]
  exact staged.written (List.getElem?_eq_getElem inEntries)

/-- A ring that is not full has room for one more entry. -/
theorem Linked.room_of_lt
    (linked : Linked order channel)
    (room : channel.ring.occupancy < channel.ring.numDescs) :
    channel.log.length < channel.taken + 2 ^ order := by
  rw [UInt32.lt_iff_toNat_lt, linked.occupancy_toNat,
    linked.capacity_toNat] at room
  have ordered := linked.ordered
  omega

/-! ## Fresh channels -/

/-- A new ring is in order. -/
theorem create_linked
    (small : order < 32)
    (descs : Nat → DescT) :
    Linked order (create descs (stored (2 ^ order))) where
  small := small
  numDescs := rfl
  mask := rfl
  producer := rfl
  consumer := rfl
  ordered := Nat.le_refl 0
  bounded := Nat.zero_le _
  slots := by
    intro index desc _ published
    simp [create] at published

/-- A new ring can be produced into. -/
theorem create_producing
    (small : order < 32)
    (descs : Nat → DescT) :
    Producing order (create descs (stored (2 ^ order))) where
  toLinked := create_linked small descs
  cachedProd := rfl
  cachedCons := rfl
  stale := Nat.le_refl 0
  window := Nat.zero_le _

/-- A new ring can be consumed from. -/
theorem create_consuming
    (small : order < 32)
    (descs : Nat → DescT) :
    Consuming order (create descs (stored (2 ^ order))) where
  toLinked := create_linked small descs
  cachedCons := rfl
  cachedProd := rfl
  window := Nat.le_refl 0
  stale := Nat.le_refl 0

/-- Nothing is staged where nothing was written. -/
theorem Staged.nil
    {released : Nat}
    (known : released ≤ channel.taken)
    (fits : channel.log.length ≤ released + 2 ^ order) :
    Staged order released channel [] where
  known := known
  fits := fits
  written := by
    intro offset desc found
    simp at found

/-! ## The user as producer -/

/-- A query publishes nothing. -/
@[simp] theorem writableRange_log (wanted : UInt32) :
    (channel.writableRange wanted).2.log = channel.log :=
  rfl

namespace Producing

/-- Free entries as far as the private copies know. -/
theorem cachedFree_toNat (producing : Producing order channel) :
    channel.ring.cachedFree.toNat =
      channel.seen + 2 ^ order - channel.log.length := by
  have small := producing.two_pow_lt
  have stale := producing.stale
  have ordered := producing.ordered
  have window := producing.window
  have used :
      (channel.ring.cachedProd - channel.ring.cachedCons).toNat =
        channel.log.length - channel.seen := by
    rw [producing.cachedProd, producing.cachedCons,
      toNat_stored_sub (by omega) (by omega)]
  rw [MmapRing.cachedFree, UInt32.toNat_sub, used,
    producing.capacity_toNat]
  omega

/-- A query keeps the endpoint's invariant, reloading or not. -/
theorem writableRange
    (producing : Producing order channel)
    (wanted : UInt32) :
    Producing order (channel.writableRange wanted).2 := by
  cases loads : channel.ring.loadsConsumer wanted with
  | false =>
      exact { producing with
        cachedCons := by
          simpa [Channel.writableRange, MmapRing.writableRange, loads]
            using producing.cachedCons
        stale := by
          simpa [Channel.writableRange, loads] using producing.stale
        window := by
          simpa [Channel.writableRange, loads] using producing.window }
  | true =>
      exact { producing with
        cachedCons := by
          simpa [Channel.writableRange, MmapRing.writableRange, loads]
            using producing.consumer
        stale := by
          simp [Channel.writableRange, loads]
        window := by
          simpa [Channel.writableRange, loads] using producing.bounded }

/-- The window starts at the producer index. -/
theorem writableRange_start
    (producing : Producing order channel)
    (wanted : UInt32) :
    (channel.writableRange wanted).1.start =
      stored channel.log.length :=
  producing.cachedProd

/-- A query only ever moves the copy of the consumer index forward. -/
theorem le_writableRange_seen
    (producing : Producing order channel)
    (wanted : UInt32) :
    channel.seen ≤ (channel.writableRange wanted).2.seen := by
  have stale := producing.stale
  simp only [Channel.writableRange]
  split <;> omega

/-- The window is as large as asked for or as the private copies allow. -/
theorem writableRange_amount
    (producing : Producing order channel)
    (wanted : UInt32) :
    (channel.writableRange wanted).1.amount.toNat =
      min wanted.toNat
        ((channel.writableRange wanted).2.seen + 2 ^ order -
          channel.log.length) := by
  have after := (producing.writableRange wanted).cachedFree_toNat
  rw [writableRange_log] at after
  rw [← after]
  change
    (if (channel.writableRange wanted).2.ring.cachedFree < wanted then
      (channel.writableRange wanted).2.ring.cachedFree
    else
      wanted).toNat = _
  split
  · next full =>
      rw [UInt32.lt_iff_toNat_lt] at full
      omega
  · next fits =>
      rw [UInt32.lt_iff_toNat_lt] at fits
      omega

/-- The window ends before the slots that the consumer may still read. -/
theorem writableRange_fits
    (producing : Producing order channel)
    (wanted : UInt32) :
    channel.log.length +
        (channel.writableRange wanted).1.amount.toNat ≤
      (channel.writableRange wanted).2.seen + 2 ^ order := by
  have window := (producing.writableRange wanted).window
  rw [writableRange_log] at window
  rw [producing.writableRange_amount]
  omega

/-- A repeated query for the whole ring covers what was granted before. -/
theorem le_writableRange_amount
    (producing : Producing order channel)
    {granted : Nat}
    (fits :
      channel.log.length + granted ≤ channel.seen + 2 ^ order) :
    granted ≤
      (channel.writableRange channel.ring.capacity).1.amount.toNat := by
  have later := producing.le_writableRange_seen channel.ring.capacity
  have stale := producing.stale
  have ordered := producing.ordered
  have capacity : channel.ring.capacity.toNat = 2 ^ order :=
    producing.capacity_toNat
  rw [producing.writableRange_amount]
  omega

/-- A window smaller than asked for comes from a fresh consumer index. -/
theorem writableRange_fresh
    (producing : Producing order channel)
    {wanted : UInt32}
    (cut :
      (channel.writableRange wanted).1.amount.toNat < wanted.toNat) :
    (channel.writableRange wanted).2.seen = channel.taken := by
  cases loads : channel.ring.loadsConsumer wanted with
  | true =>
      simp [Channel.writableRange, loads]
  | false =>
      have enough : ¬ channel.ring.cachedFree < wanted := by
        simpa [MmapRing.loadsConsumer] using loads
      have free := producing.cachedFree_toNat
      have amount := producing.writableRange_amount wanted
      simp only [Channel.writableRange, loads, Bool.false_eq_true,
        ↓reduceIte] at amount cut
      rw [UInt32.lt_iff_toNat_lt] at enough
      omega

/-- A query for the whole ring is granted everything that is free. -/
theorem writableRange_all
    (producing : Producing order channel) :
    channel.taken + 2 ^ order ≤
      channel.log.length +
        (channel.writableRange
          channel.ring.capacity).1.amount.toNat := by
  have amount := producing.writableRange_amount channel.ring.capacity
  have capacity : channel.ring.capacity.toNat = 2 ^ order :=
    producing.capacity_toNat
  have ordered := producing.ordered
  by_cases cut :
      (channel.writableRange channel.ring.capacity).1.amount.toNat <
        channel.ring.capacity.toNat
  · have fresh := producing.writableRange_fresh cut
    omega
  · omega

end Producing

/-! ## Staging and publishing

Both kinds of producer write slots first and advance the index afterwards.
The lemmas about slots are shared; `released` is the consumer index that the
producer in question goes by.
-/

namespace Staged

variable {released : Nat} {entries : List DescT}

/-- Room never shrinks when the producer learns of a later release. -/
theorem mono
    (staged : Staged order released channel entries)
    {later : Nat}
    (learned : released ≤ later)
    (known : later ≤ channel.taken) :
    Staged order later channel entries :=
  { staged with
    known := known
    fits := Nat.le_trans staged.fits (Nat.add_le_add_right learned _) }

/-- Writing the slot after the staged ones stages one more entry. -/
theorem push
    (staged : Staged order released channel entries)
    (linked : Linked order channel)
    (room :
      channel.log.length + entries.length < released + 2 ^ order)
    (desc : DescT) :
    Staged order released
      (channel.setDescAt
        (stored (channel.log.length + entries.length)) desc)
      (entries ++ [desc]) := by
  constructor
  · exact staged.known
  · simp only [Channel.setDescAt, List.length_append,
      List.length_singleton]
    omega
  · intro offset entry found
    simp only [Channel.setDescAt, MmapRing.setDescAt,
      linked.slotOf_stored]
    by_cases isLast : offset = entries.length
    · subst isLast
      simp only [List.getElem?_concat_length,
        Option.some.injEq] at found
      rw [Function.update_self, found]
    · have inEntries : offset < entries.length := by
        have inRange := (List.getElem?_eq_some_iff.mp found).1
        simp only [List.length_append, List.length_singleton] at inRange
        omega
      rw [List.getElem?_append_left inEntries] at found
      have otherSlot :
          (channel.log.length + offset) % 2 ^ order ≠
            (channel.log.length + entries.length) % 2 ^ order := by
        intro same
        have known := staged.known
        have ordered := linked.ordered
        have equal :=
          slot_injective (by omega) (by omega) same
        omega
      rw [Function.update_of_ne otherSlot]
      exact staged.written found

/-- Staging leaves the published entries alone. -/
theorem push_linked
    (staged : Staged order released channel entries)
    (linked : Linked order channel)
    (room :
      channel.log.length + entries.length < released + 2 ^ order)
    (desc : DescT) :
    Linked order
      (channel.setDescAt
        (stored (channel.log.length + entries.length)) desc) := by
  have known := staged.known
  exact linked.setDescAt (by omega) (by omega) desc

/-- The slots that publishing makes visible hold the staged prefix. -/
theorem entries_from
    (staged : Staged order released channel entries)
    (linked : Linked order channel)
    {amount : Nat}
    (atMost : amount ≤ entries.length) :
    ((List.range amount).map fun offset =>
        channel.ring.descAt
          (stored channel.log.length + stored offset)) =
      entries.take amount := by
  apply List.ext_getElem?
  intro offset
  by_cases inRange : offset < amount
  · have found : entries[offset]? = some entries[offset] :=
      List.getElem?_eq_getElem (by omega)
    simp only [List.getElem?_map, List.getElem?_range inRange,
      Option.map_some, List.getElem?_take_of_lt inRange, found]
    rw [stored_add_stored, linked.descAt_stored]
    exact congrArg some (staged.written found)
  · simp [inRange]

/-- Publishing a staged prefix keeps the link. -/
theorem publish_linked
    (staged : Staged order released channel entries)
    (linked : Linked order channel)
    {amount : Nat}
    (atMost : amount ≤ entries.length)
    {after : Channel DescT}
    (sameDescs : after.ring.numDescs = channel.ring.numDescs)
    (sameMask : after.ring.mask = channel.ring.mask)
    (sameConsumer : after.ring.consumer = channel.ring.consumer)
    (sameTaken : after.taken = channel.taken)
    (sameSlots : after.ring.descs = channel.ring.descs)
    (producer :
      after.ring.producer = stored (channel.log.length + amount))
    (published : after.log = channel.log ++ entries.take amount) :
    Linked order after := by
  have length : after.log.length = channel.log.length + amount := by
    rw [published, List.length_append, List.length_take]
    omega
  have fits := staged.fits
  have known := staged.known
  have ordered := linked.ordered
  refine
    { small := linked.small
      numDescs := sameDescs.trans linked.numDescs
      mask := sameMask.trans linked.mask
      producer := by rw [producer, length]
      consumer := by rw [sameConsumer, sameTaken, linked.consumer]
      ordered := by omega
      bounded := by omega
      slots := ?_ }
  intro index desc unreleased found
  rw [sameSlots]
  rw [sameTaken] at unreleased
  rw [published] at found
  by_cases old : index < channel.log.length
  · rw [List.getElem?_append_left old] at found
    exact linked.slots unreleased found
  · rw [List.getElem?_append_right (by omega)] at found
    have inRange : index - channel.log.length < amount := by
      have bound := (List.getElem?_eq_some_iff.mp found).1
      rw [List.length_take] at bound
      omega
    rw [List.getElem?_take_of_lt inRange] at found
    have slot := staged.written found
    rwa [show
      channel.log.length + (index - channel.log.length) = index by
        omega] at slot

end Staged

namespace Producing

variable {entries : List DescT}

/-- A query keeps what is staged. -/
theorem writableRange_staged
    (producing : Producing order channel)
    (staged : Staged order channel.seen channel entries)
    (wanted : UInt32) :
    Staged order (channel.writableRange wanted).2.seen
      (channel.writableRange wanted).2 entries := by
  have learned :=
    staged.mono (producing.le_writableRange_seen wanted)
      (producing.writableRange wanted).stale
  exact { learned with }

/-- Staging keeps the endpoint's invariant. -/
theorem push
    (producing : Producing order channel)
    (staged : Staged order channel.seen channel entries)
    (room :
      channel.log.length + entries.length <
        channel.seen + 2 ^ order)
    (desc : DescT) :
    Producing order
      (channel.setDescAt
        (stored (channel.log.length + entries.length)) desc) :=
  { producing with
    toLinked := staged.push_linked producing.toLinked room desc }

/-- Publication appends exactly the staged prefix to the history. -/
theorem publishWrittenEntries_log
    (producing : Producing order channel)
    (staged : Staged order channel.seen channel entries)
    {amount : UInt32}
    (atMost : amount.toNat ≤ entries.length) :
    (channel.publishWrittenEntries amount).log =
      channel.log ++ entries.take amount.toNat := by
  simp only [publishWrittenEntries, nextEntries,
    producing.cachedProd,
    staged.entries_from producing.toLinked atMost]

/-- Publication keeps the endpoint's invariant. -/
theorem publishWrittenEntries
    (producing : Producing order channel)
    (staged : Staged order channel.seen channel entries)
    {amount : UInt32}
    (atMost : amount.toNat ≤ entries.length) :
    Producing order (channel.publishWrittenEntries amount) := by
  have published :=
    producing.publishWrittenEntries_log staged atMost
  have fits := staged.fits
  have length :
      (channel.publishWrittenEntries amount).log.length =
        channel.log.length + amount.toNat := by
    rw [published, List.length_append, List.length_take]
    omega
  have index :
      channel.ring.cachedProd + amount =
        stored (channel.log.length + amount.toNat) := by
    rw [producing.cachedProd, stored_add]
  refine
    { toLinked :=
        staged.publish_linked producing.toLinked atMost
          rfl rfl rfl rfl rfl index published
      cachedProd := by rw [length]; exact index
      cachedCons := producing.cachedCons
      stale := producing.stale
      window := ?_ }
  rw [length]
  exact Nat.le_trans (Nat.add_le_add_left atMost _) fits

/-- The peer may release any published entries. -/
theorem peerConsume
    (producing : Producing order channel)
    {amount : Nat}
    (occupied : channel.taken + amount ≤ channel.log.length) :
    Producing order (channel.peerConsume amount) := by
  have bounded := producing.bounded
  have stale := producing.stale
  refine
    { producing with
      consumer := ?_
      ordered := occupied
      bounded := ?_
      slots := ?_
      stale := ?_ }
  · simp only [Channel.peerConsume, MmapRing.peerConsume,
      producing.consumer, stored_add_stored]
  · simp only [Channel.peerConsume]
    omega
  · intro index desc unreleased published
    simp only [Channel.peerConsume] at unreleased
    exact producing.slots (by omega) published
  · simp only [Channel.peerConsume]
    omega

end Producing

/-- What the user has staged does not depend on the consumer's progress. -/
theorem Staged.peerConsume
    {released : Nat}
    {entries : List DescT}
    (staged : Staged order released channel entries)
    (amount : Nat) :
    Staged order released (channel.peerConsume amount) entries :=
  { staged with
    known := Nat.le_add_right_of_le staged.known }

/-! ## The user as consumer -/

/-- Nor does one of the consumer. -/
@[simp] theorem readableRange_log (batchSize : UInt32) :
    (channel.readableRange batchSize).2.log = channel.log :=
  rfl

/-- It takes nothing either. -/
@[simp] theorem readableRange_taken (batchSize : UInt32) :
    (channel.readableRange batchSize).2.taken = channel.taken :=
  rfl

namespace Consuming

/-- Readable entries as far as the private copies know. -/
theorem cachedEntries_toNat (consuming : Consuming order channel) :
    (channel.ring.cachedProd - channel.ring.cachedCons).toNat =
      channel.seen - channel.taken := by
  have small := consuming.two_pow_lt
  have bounded := consuming.bounded
  have stale := consuming.stale
  rw [consuming.cachedProd, consuming.cachedCons,
    toNat_stored_sub consuming.window (by omega)]

/-- A query reloads exactly when the known window is empty. -/
theorem loadsProducer_iff (consuming : Consuming order channel) :
    channel.ring.loadsProducer = true ↔
      channel.seen = channel.taken := by
  have entries := consuming.cachedEntries_toNat
  have window := consuming.window
  rw [MmapRing.loadsProducer, beq_iff_eq, ← UInt32.toNat_inj, entries]
  simp only [UInt32.toNat_zero]
  omega

/-- A query keeps the endpoint's invariant, reloading or not. -/
theorem readableRange
    (consuming : Consuming order channel)
    (batchSize : UInt32) :
    Consuming order (channel.readableRange batchSize).2 := by
  cases loads : channel.ring.loadsProducer with
  | false =>
      exact { consuming with
        cachedProd := by
          simpa [Channel.readableRange, MmapRing.readableRange, loads]
            using consuming.cachedProd
        window := by
          simpa [Channel.readableRange, loads] using consuming.window
        stale := by
          simpa [Channel.readableRange, loads] using consuming.stale }
  | true =>
      exact { consuming with
        cachedProd := by
          simpa [Channel.readableRange, MmapRing.readableRange, loads]
            using consuming.producer
        window := by
          simpa [Channel.readableRange, loads] using consuming.ordered
        stale := by
          simp [Channel.readableRange, loads] }

/-- The window starts at the consumer index. -/
theorem readableRange_start
    (consuming : Consuming order channel)
    (batchSize : UInt32) :
    (channel.readableRange batchSize).1.start =
      stored channel.taken :=
  consuming.cachedCons

/-- What a query knows afterwards: all entries if it knew of none before. -/
theorem readableRange_seen
    (consuming : Consuming order channel)
    (batchSize : UInt32) :
    (channel.readableRange batchSize).2.seen =
      if channel.seen = channel.taken then
        channel.log.length
      else
        channel.seen := by
  have loads := consuming.loadsProducer_iff
  by_cases empty : channel.seen = channel.taken
  · simp [Channel.readableRange, loads.mpr empty, empty]
  · have keeps : channel.ring.loadsProducer = false :=
      Bool.eq_false_iff.mpr (mt loads.mp empty)
    simp [Channel.readableRange, keeps, empty]

/-- A query only ever moves the copy of the producer index forward. -/
theorem le_readableRange_seen
    (consuming : Consuming order channel)
    (batchSize : UInt32) :
    channel.seen ≤ (channel.readableRange batchSize).2.seen := by
  have stale := consuming.stale
  rw [consuming.readableRange_seen]
  split <;> omega

/-- The window is as large as asked for or as the private copies allow. -/
theorem readableRange_amount
    (consuming : Consuming order channel)
    (batchSize : UInt32) :
    (channel.readableRange batchSize).1.amount.toNat =
      min batchSize.toNat
        ((channel.readableRange batchSize).2.seen - channel.taken) := by
  have after := (consuming.readableRange batchSize).cachedEntries_toNat
  rw [readableRange_taken] at after
  rw [← after]
  change
    (if (channel.readableRange batchSize).2.ring.cachedProd -
          (channel.readableRange batchSize).2.ring.cachedCons >
        batchSize then
      batchSize
    else
      (channel.readableRange batchSize).2.ring.cachedProd -
        (channel.readableRange batchSize).2.ring.cachedCons).toNat = _
  split
  · next more =>
      rw [gt_iff_lt, UInt32.lt_iff_toNat_lt] at more
      omega
  · next fits =>
      rw [gt_iff_lt, UInt32.lt_iff_toNat_lt] at fits
      omega

/-- Releasing a prefix of the known window keeps the endpoint's invariant. -/
theorem releaseConsumedEntries
    (consuming : Consuming order channel)
    {amount : UInt32}
    (known : channel.taken + amount.toNat ≤ channel.seen) :
    Consuming order (channel.releaseConsumedEntries amount) := by
  have stale := consuming.stale
  have bounded := consuming.bounded
  have index :
      channel.ring.cachedCons + amount =
        stored (channel.taken + amount.toNat) := by
    rw [consuming.cachedCons, stored_add]
  refine
    { consuming with
      consumer := index
      cachedCons := index
      ordered := Nat.le_trans known stale
      bounded := ?_
      slots := ?_
      window := known }
  · simp only [Channel.releaseConsumedEntries]
    omega
  · intro slot desc unreleased published
    simp only [Channel.releaseConsumedEntries] at unreleased
    exact consuming.slots (by omega) published

/-- The peer may publish any prefix of what it has staged. -/
theorem peerPublish
    (consuming : Consuming order channel)
    {entries : List DescT}
    (staged : Staged order channel.taken channel entries)
    {amount : Nat}
    (atMost : amount ≤ entries.length) :
    Consuming order (channel.peerPublish amount) ∧
      (channel.peerPublish amount).log =
        channel.log ++ entries.take amount := by
  have published :
      (channel.peerPublish amount).log =
        channel.log ++ entries.take amount := by
    simp only [Channel.peerPublish, peerNextEntries,
      consuming.producer,
      staged.entries_from consuming.toLinked atMost]
  have index :
      channel.ring.producer + stored amount =
        stored (channel.log.length + amount) := by
    rw [consuming.producer, stored_add_stored]
  refine ⟨?_, published⟩
  refine
    { toLinked :=
        staged.publish_linked consuming.toLinked atMost
          rfl rfl rfl rfl rfl index published
      cachedCons := consuming.cachedCons
      cachedProd := consuming.cachedProd
      window := consuming.window
      stale := ?_ }
  rw [published, List.length_append]
  exact Nat.le_add_right_of_le consuming.stale

/-- The peer may put one entry into a ring that is not full. -/
theorem peerPut
    (consuming : Consuming order channel)
    (room : channel.log.length < channel.taken + 2 ^ order)
    (desc : DescT) :
    Consuming order (channel.peerPut desc) ∧
      (channel.peerPut desc).log = channel.log ++ [desc] := by
  have empty : Staged order channel.taken channel [] :=
    .nil (Nat.le_refl _) consuming.bounded
  have index :
      channel.ring.producer =
        stored (channel.log.length + ([] : List DescT).length) :=
    consuming.producer
  have staged := empty.push consuming.toLinked room desc
  have linked := empty.push_linked consuming.toLinked room desc
  rw [← index] at staged linked
  have written :
      Consuming order
        (channel.setDescAt channel.ring.producer desc) :=
    { consuming with toLinked := linked }
  exact written.peerPublish staged (Nat.le_refl 1)

end Consuming

end Facts

end Channel

end AfXdp
