import AfXdp.RingEndpoints

namespace AfXdp

open SequenceIndex

/-!
# The private copies of the indices are invisible

A query goes by possibly stale copies and loads a shared index only when they
do not suffice.  This module compares it with the true state of the ring: a
producer gets exactly what a query that always loads would give it, and a
consumer is never told that the ring is empty while it is not.
-/

/-- `writable_range` without its shortcut: it always loads the consumer index. -/
def MmapRing.writableRangeReloading
    {DescT : Type}
    (ring : MmapRing DescT)
    (wanted : UInt32) :
    Range × MmapRing DescT :=
  let ring := { ring with cachedCons := ring.consumer }
  let freeN := ring.cachedFree
  let amount := if freeN < wanted then freeN else wanted
  ({ amount := amount, start := ring.cachedProd }, ring)

namespace Channel

variable {DescT : Type}
variable {order : Nat} {channel : Channel DescT}

/-- A query that loads nothing is granted all it asked for. -/
theorem writableRange_unloaded
    {wanted : UInt32}
    (unloaded : channel.ring.loadsConsumer wanted = false) :
    (channel.ring.writableRange wanted).1.amount = wanted := by
  have enough : ¬ channel.ring.cachedFree < wanted := by
    simpa [MmapRing.loadsConsumer] using unloaded
  simp only [MmapRing.writableRange, unloaded, Bool.false_eq_true,
    ↓reduceIte]
  exact if_neg enough

namespace Producing

/-- The window is cut by the true free space only, stale copy or not. -/
theorem writableRange_exact
    (producing : Producing order channel)
    (wanted : UInt32) :
    (channel.ring.writableRange wanted).1.amount.toNat =
      min wanted.toNat
        (2 ^ order - (channel.log.length - channel.taken)) := by
  have amount := producing.writableRange_amount wanted
  have after := (producing.writableRange wanted).stale
  have ordered := producing.ordered
  have known :
      (channel.writableRange wanted).2.seen ≤ channel.taken := after
  change (channel.writableRange wanted).1.amount.toNat = _
  by_cases cut :
      (channel.writableRange wanted).1.amount.toNat < wanted.toNat
  · have fresh := producing.writableRange_fresh cut
    omega
  · omega

/-- A query for the whole ring is granted everything that is free. -/
theorem writableRange_capacity (producing : Producing order channel) :
    (channel.ring.writableRange
        channel.ring.capacity).1.amount.toNat =
      2 ^ order - (channel.log.length - channel.taken) := by
  have capacity : channel.ring.capacity.toNat = 2 ^ order :=
    producing.capacity_toNat
  rw [producing.writableRange_exact, capacity]
  exact Nat.min_eq_right (Nat.sub_le _ _)

/-- Always loading the consumer index gives the same window. -/
theorem writableRange_eq_reloading
    (producing : Producing order channel)
    (wanted : UInt32) :
    (channel.ring.writableRange wanted).1 =
      (channel.ring.writableRangeReloading wanted).1 := by
  have exactly := producing.writableRange_exact wanted
  -- The same ring with the copy brought up to date.
  have fresh :
      Producing order
        { channel with
          ring :=
            { channel.ring with cachedCons := channel.ring.consumer }
          seen := channel.taken } :=
    { producing with
      cachedCons := producing.consumer
      stale := Nat.le_refl _
      window := producing.bounded }
  have free :
      (channel.ring.writableRangeReloading wanted).2.cachedFree.toNat =
        channel.taken + 2 ^ order - channel.log.length :=
    fresh.cachedFree_toNat
  have ordered := producing.ordered
  have amounts :
      (channel.ring.writableRange wanted).1.amount =
        (channel.ring.writableRangeReloading wanted).1.amount := by
    apply UInt32.toNat_inj.mp
    change _ =
      (if (channel.ring.writableRangeReloading wanted).2.cachedFree <
          wanted then
        (channel.ring.writableRangeReloading wanted).2.cachedFree
      else
        wanted).toNat
    rw [exactly]
    split
    · next cut =>
        rw [UInt32.lt_iff_toNat_lt] at cut
        omega
    · next fits =>
        rw [UInt32.lt_iff_toNat_lt] at fits
        omega
  exact congrArg (Range.mk · channel.ring.cachedProd) amounts

end Producing

namespace Consuming

/-- A query never promises entries that are not there. -/
theorem readableRange_le
    (consuming : Consuming order channel)
    (batchSize : UInt32) :
    (channel.ring.readableRange batchSize).1.amount.toNat ≤
      min batchSize.toNat (channel.log.length - channel.taken) := by
  have amount := consuming.readableRange_amount batchSize
  have stale := (consuming.readableRange batchSize).stale
  rw [readableRange_log] at stale
  change (channel.readableRange batchSize).1.amount.toNat ≤ _
  omega

/-- Nothing is readable only if the ring is empty where its index is loaded. -/
theorem readableRange_zero_iff
    (consuming : Consuming order channel)
    {batchSize : UInt32}
    (positive : 0 < batchSize.toNat) :
    (channel.ring.readableRange batchSize).1.amount = 0 ↔
      channel.ring.loadsProducer = true ∧
        channel.log.length = channel.taken := by
  have amount := consuming.readableRange_amount batchSize
  have window := consuming.window
  have ordered := consuming.ordered
  rw [consuming.readableRange_seen] at amount
  rw [consuming.loadsProducer_iff, ← UInt32.toNat_inj]
  change
    (channel.readableRange batchSize).1.amount.toNat =
      (0 : UInt32).toNat ↔ _
  rw [UInt32.toNat_zero, amount]
  split <;> omega

end Consuming

end Channel

namespace RingEndpoints

variable {width : Nat} {Word : Type}

/-- Entries that are published and not released. -/
def Link.occupied (link : Link width Word) : Nat :=
  link.published.length - link.released.length

namespace Event

/-- The program's own index stays where it is: no publish, or no release. -/
def keepsOwnIndex (side : Side) : Event Word width → Bool
  | .publish _ =>
      side == .consumer
  | .release _ =>
      side == .producer
  | _ =>
      true

/-- Steps of the peer. -/
def byPeer (side : Side) : Event Word width → Bool
  | .query _ =>
      false
  | .write _ _ _ =>
      side == .consumer
  | .publish _ =>
      side == .consumer
  | .read _ _ =>
      side == .producer
  | .release _ =>
      side == .producer

/-- The other end does not move this end's index. -/
theorem keepsOwnIndex_of_byPeer
    {side : Side}
    {event : Event Word width}
    (peer : event.byPeer side = true) :
    event.keepsOwnIndex side = true := by
  cases event with
  | query =>
      cases peer
  | write =>
      rfl
  | publish =>
      exact peer
  | read =>
      rfl
  | release =>
      exact peer

end Event

namespace Link

/-- What a producing program learns about the ring. -/
structure ProducerTransparent
    (order : Nat)
    (link : Link width Word) : Prop where
  amount :
    ∀ wanted,
      (link.channel.ring.writableRange wanted).1.amount.toNat =
        min wanted.toNat (2 ^ order - link.occupied)
  unloaded :
    ∀ wanted,
      link.channel.ring.loadsConsumer wanted = false →
        (link.channel.ring.writableRange wanted).1.amount = wanted ∧
          min wanted.toNat (2 ^ order - link.occupied) = wanted.toNat
  reloading :
    ∀ wanted,
      (link.channel.ring.writableRange wanted).1 =
        (link.channel.ring.writableRangeReloading wanted).1
  repeated :
    ∀ wanted between later,
      Link.run (.query wanted :: between) link = some later →
      (∀ event ∈ between, event.keepsOwnIndex .producer = true) →
        (later.channel.ring.writableRange wanted).1.start =
            (link.channel.ring.writableRange wanted).1.start ∧
          (link.channel.ring.writableRange wanted).1.amount.toNat ≤
            (later.channel.ring.writableRange wanted).1.amount.toNat
  queued :
    ∀ between later,
      Link.run between link = some later →
      (∀ event ∈ between, event.byPeer .producer = true) →
        (MmapRing.queuedEntryCount link.channel.ring.producer
            later.channel.ring.consumer).toNat = later.occupied ∧
          later.occupied ≤ 2 ^ order

/-- What a consuming program learns about the ring. -/
structure ConsumerTransparent (link : Link width Word) : Prop where
  amount :
    ∀ batchSize,
      (link.channel.ring.readableRange batchSize).1.amount.toNat ≤
        min batchSize.toNat link.occupied
  zero :
    ∀ batchSize : UInt32,
      0 < batchSize.toNat →
        ((link.channel.ring.readableRange batchSize).1.amount = 0 ↔
          link.channel.ring.loadsProducer = true ∧
            link.occupied = 0)
  repeated :
    ∀ batchSize between later,
      Link.run (.query batchSize :: between) link = some later →
      (∀ event ∈ between, event.keepsOwnIndex .consumer = true) →
        (later.channel.ring.readableRange batchSize).1.start =
            (link.channel.ring.readableRange batchSize).1.start ∧
          (link.channel.ring.readableRange batchSize).1.amount.toNat ≤
            (later.channel.ring.readableRange batchSize).1.amount.toNat

/-! ## What quiet steps leave alone -/

/-- What holds between two states with no move of the program's own index. -/
structure Later (earlier later : Link width Word) : Prop where
  side :
    later.side = earlier.side
  learned :
    earlier.channel.seen ≤ later.channel.seen
  unpublished :
    earlier.side = .producer →
      later.channel.log = earlier.channel.log ∧
        earlier.channel.taken ≤ later.channel.taken
  unreleased :
    earlier.side = .consumer →
      later.channel.taken = earlier.channel.taken

/-- Nothing has happened. -/
theorem Later.refl (link : Link width Word) : Later link link where
  side := rfl
  learned := Nat.le_refl _
  unpublished _ := ⟨rfl, Nat.le_refl _⟩
  unreleased _ := rfl

/-- One thing after another. -/
theorem Later.trans
    {first second third : Link width Word}
    (earlier : Later first second)
    (later : Later second third) :
    Later first third where
  side := later.side.trans earlier.side
  learned := Nat.le_trans earlier.learned later.learned
  unpublished producer := by
    obtain ⟨log, taken⟩ := earlier.unpublished producer
    obtain ⟨laterLog, laterTaken⟩ :=
      later.unpublished (earlier.side.trans producer)
    exact ⟨laterLog.trans log, Nat.le_trans taken laterTaken⟩
  unreleased consumer :=
    (later.unreleased (earlier.side.trans consumer)).trans
      (earlier.unreleased consumer)

namespace Sound

variable {order : Nat} {link : Link width Word}

/-- The producer's channel is one that is produced into. -/
theorem producing
    (sound : link.Sound order)
    (side : link.side = .producer) :
    Channel.Producing order link.channel := by
  have endpoint := sound.endpoint
  simp only [Endpoint, side] at endpoint
  exact endpoint.1

/-- The consumer's channel is one that is consumed from. -/
theorem consuming
    (sound : link.Sound order)
    (side : link.side = .consumer) :
    Channel.Consuming order link.channel := by
  have endpoint := sound.endpoint
  simp only [Endpoint, side] at endpoint
  exact endpoint.1

/-- What is occupied, in terms of the channel's own history. -/
theorem occupied_eq (sound : link.Sound order) :
    link.occupied = link.channel.log.length - link.channel.taken := by
  rw [occupied, sound.released_length, sound.published]

/-- A query reads an index, and moves nothing. -/
theorem query_later
    (sound : link.Sound order)
    (amount : UInt32) :
    Later link (link.query amount) := by
  unfold Link.query
  split
  · next side =>
      exact
        { side := rfl
          learned := (sound.producing side).le_writableRange_seen amount
          unpublished := fun _ => ⟨rfl, Nat.le_refl _⟩
          unreleased := fun _ => rfl }
  · next side =>
      exact
        { side := rfl
          learned := (sound.consuming side).le_readableRange_seen amount
          unpublished := fun _ => ⟨rfl, Nat.le_refl _⟩
          unreleased := fun _ => rfl }

/-- One step that does not move the program's own index. -/
theorem step_later
    (sound : link.Sound order)
    {event : Event Word width}
    (keeps : event.keepsOwnIndex link.side = true)
    {after : Link width Word}
    (stepped : link.step event = some after) :
    Later link after := by
  cases step_cases stepped with
  | query amount =>
      exact sound.query_later amount
  | write =>
      exact { Later.refl link with }
  | publish =>
      have side : link.side = .consumer := by
        simpa [Event.keepsOwnIndex] using keeps
      simp only [Link.publish, side]
      exact
        { side := side.symm
          learned := Nat.le_refl _
          unpublished := fun producer => by
            rw [side] at producer
            cases producer
          unreleased := fun _ => rfl }
  | read =>
      exact { Later.refl link with }
  | release =>
      have side : link.side = .producer := by
        simpa [Event.keepsOwnIndex] using keeps
      simp only [Link.release, side]
      exact
        { side := side.symm
          learned := Nat.le_refl _
          unpublished := fun _ => ⟨rfl, Nat.le_add_right _ _⟩
          unreleased := fun consumer => by
            rw [side] at consumer
            cases consumer }

/-- Any number of such steps. -/
theorem run_later
    {events : List (Event Word width)}
    {after : Link width Word}
    (sound : link.Sound order)
    (keeps : ∀ event ∈ events, event.keepsOwnIndex link.side = true)
    (ran : Link.run events link = some after) :
    Later link after := by
  induction events generalizing link with
  | nil =>
      cases ran
      exact Later.refl _
  | cons event rest inductionHypothesis =>
      simp only [Link.run, Option.bind_eq_some_iff] at ran
      obtain ⟨middle, first, later⟩ := ran
      have head :=
        sound.step_later (keeps event List.mem_cons_self) first
      refine head.trans
        (inductionHypothesis (sound.step first) ?_ later)
      intro other member
      rw [head.side]
      exact keeps other (List.mem_cons_of_mem event member)

end Sound

/-- No step changes which end the program owns. -/
theorem step_side
    {link after : Link width Word}
    {event : Event Word width}
    (stepped : link.step event = some after) :
    after.side = link.side := by
  cases step_cases stepped with
  | query amount =>
      unfold Link.query
      split <;> rfl
  | write =>
      rfl
  | publish =>
      unfold Link.publish
      simp only
      split <;> rfl
  | read =>
      rfl
  | release =>
      unfold Link.release
      simp only
      split <;> rfl

/-- The end in question stays the same. -/
theorem run_side
    {events : List (Event Word width)}
    {link after : Link width Word}
    (ran : Link.run events link = some after) :
    after.side = link.side := by
  induction events generalizing link with
  | nil =>
      cases ran
      rfl
  | cons event rest inductionHypothesis =>
      simp only [Link.run, Option.bind_eq_some_iff] at ran
      obtain ⟨middle, first, later⟩ := ran
      rw [inductionHypothesis later, step_side first]

namespace Sound

variable {order : Nat} {link : Link width Word}

variable {later : Link width Word}

/-- Without a publication the same query grants at least the same window. -/
theorem writableRange_grows
    (sound : link.Sound order)
    (side : link.side = .producer)
    (since : Later link later)
    (laterSound : later.Sound order)
    (wanted : UInt32) :
    (later.channel.ring.writableRange wanted).1.start =
        (link.channel.ring.writableRange wanted).1.start ∧
      (link.channel.ring.writableRange wanted).1.amount.toNat ≤
        (later.channel.ring.writableRange wanted).1.amount.toNat := by
  have producing := sound.producing side
  have laterProducing := laterSound.producing (since.side.trans side)
  obtain ⟨log, taken⟩ := since.unpublished side
  constructor
  · change later.channel.ring.cachedProd = link.channel.ring.cachedProd
    rw [laterProducing.cachedProd, producing.cachedProd, log]
  · rw [producing.writableRange_exact,
      laterProducing.writableRange_exact, log]
    omega

/-- With the consumer index of a later moment, the count is that moment's. -/
theorem queuedEntryCount_exact
    (sound : link.Sound order)
    (side : link.side = .producer)
    (since : Later link later)
    (laterSound : later.Sound order) :
    (MmapRing.queuedEntryCount link.channel.ring.producer
        later.channel.ring.consumer).toNat = later.occupied ∧
      later.occupied ≤ 2 ^ order := by
  have producing := sound.producing side
  have linked := laterSound.endpoint.linked
  have occupied := laterSound.occupied_eq
  have ordered := linked.ordered
  have bounded := linked.bounded
  have small := linked.two_pow_lt
  obtain ⟨log, _⟩ := since.unpublished side
  constructor
  · rw [MmapRing.queuedEntryCount, producing.producer, ← log,
      linked.consumer, toNat_stored_sub ordered (by omega), occupied]
  · omega

/-- The facts about the producer's query. -/
theorem producerTransparent
    (sound : link.Sound order)
    (side : link.side = .producer) :
    link.ProducerTransparent order := by
  have producing := sound.producing side
  have occupied := sound.occupied_eq
  constructor
  · intro wanted
    rw [occupied]
    exact producing.writableRange_exact wanted
  · intro wanted unloaded
    have amount := Channel.writableRange_unloaded unloaded
    refine ⟨amount, ?_⟩
    rw [occupied, ← producing.writableRange_exact, amount]
  · exact producing.writableRange_eq_reloading
  · intro wanted between later ran keeps
    have since : Later link later := by
      refine sound.run_later ?_ ran
      rw [side]
      intro event member
      rcases List.mem_cons.mp member with rfl | inBetween
      · rfl
      · exact keeps event inBetween
    exact sound.writableRange_grows side since (sound.run ran) wanted
  · intro between later ran peers
    have since : Later link later := by
      refine sound.run_later ?_ ran
      rw [side]
      intro event member
      exact Event.keepsOwnIndex_of_byPeer (peers event member)
    exact sound.queuedEntryCount_exact side since (sound.run ran)

/-- Without a release the same query finds at least the same entries. -/
theorem readableRange_grows
    (sound : link.Sound order)
    (side : link.side = .consumer)
    {batchSize : UInt32}
    (since : Later (link.query batchSize) later)
    (laterSound : later.Sound order) :
    (later.channel.ring.readableRange batchSize).1.start =
        (link.channel.ring.readableRange batchSize).1.start ∧
      (link.channel.ring.readableRange batchSize).1.amount.toNat ≤
        (later.channel.ring.readableRange batchSize).1.amount.toNat := by
  have consuming := sound.consuming side
  have queriedSide : (link.query batchSize).side = .consumer :=
    (sound.query_later batchSize).side.trans side
  have laterConsuming :=
    laterSound.consuming (since.side.trans queriedSide)
  have taken := since.unreleased queriedSide
  have learned := since.learned
  have queriedChannel :
      (link.query batchSize).channel =
        (link.channel.readableRange batchSize).2 := by
    rw [Link.query, side]
  rw [queriedChannel] at taken learned
  rw [Channel.readableRange_taken] at taken
  constructor
  · change later.channel.ring.cachedCons = link.channel.ring.cachedCons
    rw [laterConsuming.cachedCons, consuming.cachedCons, taken]
  · have before := consuming.readableRange_amount batchSize
    have after := laterConsuming.readableRange_amount batchSize
    have more := laterConsuming.le_readableRange_seen batchSize
    change
      (link.channel.readableRange batchSize).1.amount.toNat ≤
        (later.channel.readableRange batchSize).1.amount.toNat
    omega

/-- The facts about the consumer's query. -/
theorem consumerTransparent
    (sound : link.Sound order)
    (side : link.side = .consumer) :
    link.ConsumerTransparent := by
  have consuming := sound.consuming side
  have occupied := sound.occupied_eq
  constructor
  · intro batchSize
    rw [occupied]
    exact consuming.readableRange_le batchSize
  · intro batchSize positive
    have ordered := consuming.ordered
    rw [consuming.readableRange_zero_iff positive]
    refine and_congr_right fun _ => ?_
    omega
  · intro batchSize between later ran keeps
    -- The query itself teaches the program something; split it off.
    simp only [Link.run, Link.step, Option.bind_some] at ran
    have queried := sound.query batchSize
    have since : Later (link.query batchSize) later := by
      refine queried.run_later ?_ ran
      rw [(sound.query_later batchSize).side, side]
      exact keeps
    exact sound.readableRange_grows side since (queried.run ran)

end Sound

end Link

/--
Index caching is transparent.  In every reachable state of a ring of
`2 ^ order` entries, whatever the private copies missed and however often the
indices wrapped, the queries of the program tell it the truth about the ring.
-/
theorem index_caching_transparent
    (side : Side)
    (order : Fin 32)
    (memory : Nat → Entry width Word)
    {events : List (Event Word width)}
    {link : Link width Word}
    (ran :
      Link.run events
        (Link.create side memory (stored (2 ^ order.val))) =
          some link) :
    (side = .producer → link.ProducerTransparent order.val) ∧
      (side = .consumer → link.ConsumerTransparent) := by
  have sound := (Link.Sound.create order.isLt side memory).run ran
  have sameSide : link.side = side := Link.run_side ran
  constructor
  · intro producer
    exact sound.producerTransparent (sameSide.trans producer)
  · intro consumer
    exact sound.consumerTransparent (sameSide.trans consumer)

/-- A full ring of two with a stale copy, then one entry released. -/
theorem index_caching_transparent_stale :
    ∃ link : Link 1 Nat,
      Link.run
          [.query 2, .write 0 0 7, .write 1 0 8, .publish 2,
            .read 0 0, .release 1]
          (Link.create .producer (fun _ _ => 0) (stored (2 ^ 1))) =
        some link ∧
        link.occupied = 1 ∧
        link.channel.ring.cachedFree = 0 ∧
        (link.channel.ring.writableRange 2).1.amount.toNat = 1 := by
  have ran :
      Link.run
          [.query 2, .write 0 0 7, .write 1 0 8, .publish 2,
            .read 0 0, .release 1]
          (Link.create .producer (fun _ _ => 0) (stored (2 ^ 1))) =
        some (_ : Link 1 Nat) := rfl
  refine ⟨_, ran, rfl, rfl, ?_⟩
  exact
    ((index_caching_transparent .producer 1 _ ran).1 rfl).amount 2

end RingEndpoints

end AfXdp
