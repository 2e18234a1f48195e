import AfXdp.AnyCaller
import AfXdp.RingTransparency

namespace AfXdp

open Interleaving
open SequenceIndex

/-!
# `send_in_place` neither overruns nor spuriously rejects

The TX window is reserved lazily, kept across calls and asked for again only
when it is used up, and it is compared with what was used by equality.  This
module says when a call is accepted, in terms of the ring at the moment of the
call's last load of the consumer index, and what the call changes.
-/

/-- Everything that a call may change and the kernel may not. -/
structure Visible where
  txDescs : Nat → XdpDesc
  txProducer : UInt32
  txUsed : UInt32
  sendLog : List Packet
  fillDescs : Nat → UInt64
  fillProducer : UInt32
  rxConsumer : UInt32
  completionConsumer : UInt32
  allocator : FrameAllocator
  framesRejected : UInt64

/-- What a caller of `send_in_place` can see. -/
def World.visible (world : World) : Visible where
  txDescs := world.tx.ring.descs
  txProducer := world.tx.ring.producer
  txUsed := world.transmitter.txUsed
  sendLog := world.aux.sendLog
  fillDescs := world.fill.ring.descs
  fillProducer := world.fill.ring.producer
  rxConsumer := world.rx.ring.consumer
  completionConsumer := world.completion.ring.consumer
  allocator := world.allocator
  framesRejected := world.transmitter.framesRejected

/-- Staged and published, unconsumed TX entries. -/
def World.txInUse (world : World) : Nat :=
  world.transmitter.txUsed.toNat + world.tx.ring.occupancy.toNat

namespace Transmitter

/-- The first query of the call loads the consumer index. -/
def reserveLoads (world : World) : Bool :=
  !world.transmitter.reserved &&
    world.tx.ring.loadsConsumer world.tx.ring.capacity

/-- The second query of the call loads the consumer index. -/
def refreshLoads (world : World) : Bool :=
  world.transmitter.txUsed = world.transmitter.txAvail &&
    world.tx.ring.loadsConsumer world.tx.ring.capacity

/-- Where a call last loads the consumer index, or where it starts. -/
def lastLoad (call atReserve atRefresh : World) : World :=
  if refreshLoads atRefresh then
    atRefresh
  else if reserveLoads atReserve then
    atReserve
  else
    call

end Transmitter

/-! ## What each step leaves alone -/

section Visibility

variable {config : Config}
variable {world : World}

/-- The kernel changes nothing of that. -/
theorem KernelStep.visible_unchanged
    {admits : List UInt8 → Bool}
    {step : KernelStep}
    {before after : World}
    (performed : step.perform config admits before = some after) :
    after.visible = before.visible := by
  obtain ⟨_, rfl⟩ := perform_eq_some.mp performed
  cases step <;> rfl

/-- Opening a window is not visible. -/
theorem visible_reserve (rings : RingsInOrder config world) :
    (Transmitter.reserve world).visible = world.visible := by
  rw [Transmitter.reserve]
  split
  · rfl
  · next notOpen =>
      have unused :=
        rings.txWindow.closed (by simpa using notOpen)
      simp only [World.visible, unused]
      rfl

/-- Nor is widening it. -/
theorem visible_refresh :
    (Transmitter.refresh world).2.visible = world.visible := by
  rw [Transmitter.refresh]
  split
  · rfl
  · rfl

/-- Widening the window writes no entry. -/
theorem refresh_log :
    (Transmitter.refresh world).2.tx.log = world.tx.log :=
  Transmitter.refresh_branches rfl rfl

/-- A rejection is visible in its counter alone. -/
theorem visible_rejectFrame :
    (Transmitter.rejectFrame world).visible =
      { world.visible with
        framesRejected := world.visible.framesRejected + 1 } :=
  rfl

end Visibility

/-! ## What the kernel may do in between -/

/-- Two states with nothing but steps of the kernel between them. -/
structure Waited (config : Config) (before after : World) : Prop where
  rings :
    RingsInOrder config after
  staging :
    after.staging = before.staging
  visible :
    after.visible = before.visible
  taken :
    before.tx.taken ≤ after.tx.taken

namespace Waited

variable {scenario : Scenario}
variable {before after : World}

/-- Waiting lets the kernel take entries, and nothing else. -/
theorem of_interference
    (rings : RingsInOrder scenario.config before)
    (interference :
      Relation.ReflTransGen scenario.Interferes before after) :
    Waited scenario.config before after := by
  induction interference with
  | refl =>
      exact ⟨rings, rfl, rfl, Nat.le_refl _⟩
  | tail _ last inductionHypothesis =>
      obtain ⟨step, performed⟩ := last
      have forward := KernelStep.perform_eq_some.mp performed
      refine
        { rings := inductionHypothesis.rings.kernelStep performed
          staging :=
            (KernelStep.staging_unchanged performed).trans
              inductionHypothesis.staging
          visible :=
            (KernelStep.visible_unchanged performed).trans
              inductionHypothesis.visible
          taken := Nat.le_trans inductionHypothesis.taken ?_ }
      obtain ⟨_, rfl⟩ := forward
      cases step with
      | takeTx =>
          exact Nat.le_succ _
      | _ =>
          exact Nat.le_refl _

variable {config : Config}

/-- No entry is written meanwhile. -/
theorem log (waited : Waited config before after) :
    after.tx.log = before.tx.log :=
  congrArg Staging.txLog waited.staging

/-- No index is read meanwhile. -/
theorem seen (waited : Waited config before after) :
    after.tx.seen = before.tx.seen :=
  congrArg Staging.txSeen waited.staging

/-- The transmitter does not change meanwhile. -/
theorem transmitter (waited : Waited config before after) :
    after.transmitter = before.transmitter :=
  congrArg Staging.transmitter waited.staging

/-- Nor does the window. -/
theorem txStaged (waited : Waited config before after) :
    after.txStaged = before.txStaged :=
  congrArg
    (fun staging : Staging =>
      (staging.sendLog.drop staging.txLog.length).map Prod.fst)
    waited.staging

end Waited

/-! ## The two queries -/

section Queries

variable {config : Config}
variable {world : World}

/-- A query for the whole ring loads unless the ring is known to be empty. -/
theorem loadsConsumer_iff
    {DescT : Type}
    {order : Nat}
    {channel : Channel DescT}
    (producing : Channel.Producing order channel) :
    channel.ring.loadsConsumer channel.ring.capacity = true ↔
      channel.seen < channel.log.length := by
  have free := producing.cachedFree_toNat
  have capacity : channel.ring.capacity.toNat = 2 ^ order :=
    producing.capacity_toNat
  have window := producing.window
  rw [MmapRing.loadsConsumer, decide_eq_true_iff,
    UInt32.lt_iff_toNat_lt, free, capacity]
  omega

/-- The first query is made only if nothing is reserved. -/
theorem reserveLoads_iff (rings : RingsInOrder config world) :
    Transmitter.reserveLoads world = true ↔
      world.transmitter.reserved = false ∧
        world.tx.seen < world.tx.log.length := by
  rw [Transmitter.reserveLoads, Bool.and_eq_true,
    loadsConsumer_iff rings.tx, Bool.not_eq_true']

/-- The second query is made only if the window is used up. -/
theorem refreshLoads_iff (rings : RingsInOrder config world) :
    Transmitter.refreshLoads world = true ↔
      world.transmitter.txUsed.toNat =
          world.transmitter.txAvail.toNat ∧
        world.tx.seen < world.tx.log.length := by
  rw [Transmitter.refreshLoads, Bool.and_eq_true, decide_eq_true_iff,
    loadsConsumer_iff rings.tx, UInt32.toNat_inj]

/-- What the first part of a call leaves. -/
structure Reserved (config : Config) (world after : World) : Prop where
  rings :
    RingsInOrder config after
  isOpen :
    after.transmitter.reserved = true
  used :
    after.transmitter.txUsed = world.transmitter.txUsed
  log :
    after.tx.log = world.tx.log
  taken :
    after.tx.taken = world.tx.taken
  kept :
    world.transmitter.reserved = true →
      after.transmitter.txAvail = world.transmitter.txAvail ∧
        after.tx.seen = world.tx.seen
  fresh :
    world.transmitter.reserved = false →
      world.transmitter.txUsed.toNat = 0 ∧
        after.transmitter.txAvail.toNat =
          2 ^ config.txOrder.val -
            (world.tx.log.length - world.tx.taken)

/-- After `reserve` there is a window. -/
theorem reserve_reserved (rings : RingsInOrder config world) :
    Reserved config world (Transmitter.reserve world) := by
  have after := rings.reserve
  rw [Transmitter.reserve] at after ⊢
  split at after
  · next isOpen =>
      rw [if_pos isOpen]
      exact
        { rings := after
          isOpen := isOpen
          used := rfl
          log := rfl
          taken := rfl
          kept := fun _ => ⟨rfl, rfl⟩
          fresh := fun notOpen => by
            rw [isOpen] at notOpen
            cases notOpen }
  · next notOpen =>
      rw [if_neg notOpen]
      have unused :=
        rings.txWindow.closed (by simpa using notOpen)
      exact
        { rings := after
          isOpen := rfl
          used := unused.symm
          log := rfl
          taken := rfl
          kept := fun isOpen => absurd isOpen notOpen
          fresh := fun _ =>
            ⟨congrArg UInt32.toNat unused, rings.tx.writableRange_capacity⟩ }

/-- The window is used up after the second query only if the ring is full. -/
theorem refresh_full_iff
    (rings : RingsInOrder config world)
    (isOpen : world.transmitter.reserved = true) :
    (Transmitter.refresh world).1 = false ↔
      world.transmitter.txUsed ≠ world.transmitter.txAvail ∨
        world.transmitter.txUsed.toNat <
          2 ^ config.txOrder.val -
            (world.tx.log.length - world.tx.taken) := by
  have amount :
      (world.tx.writableRange
        world.tx.ring.capacity).1.amount.toNat = _ :=
    rings.tx.writableRange_capacity
  have fits := (rings.txWindow.refresh rings.tx isOpen).fits isOpen
  rw [Transmitter.refresh]
  split
  · next usedUp =>
      have atMost :
          world.transmitter.txUsed.toNat ≤
            (world.tx.writableRange
              world.tx.ring.capacity).1.amount.toNat :=
        fits.1
      rw [amount] at atMost
      rw [decide_eq_false_iff_not, ← UInt32.toNat_inj, amount]
      constructor
      · intro different
        exact .inr (Nat.lt_of_le_of_ne atMost different)
      · rintro (left | room)
        · exact absurd usedUp left
        · exact Nat.ne_of_lt room
  · next left =>
      simp [left]

end Queries

/-- The entries in use are those staged and those the kernel has not taken. -/
theorem txInUse_eq
    {config : Config}
    {world : World}
    (rings : RingsInOrder config world) :
    world.txInUse =
      world.transmitter.txUsed.toNat +
        (world.tx.log.length - world.tx.taken) := by
  rw [World.txInUse, rings.tx.occupancy_toNat]

/-- What a call finds when it comes to its second query. -/
structure Refreshing
    (config : Config)
    (start atReserve atRefresh : World) : Prop where
  isOpen :
    atRefresh.transmitter.reserved = true
  used :
    atRefresh.transmitter.txUsed = start.transmitter.txUsed
  log :
    atRefresh.tx.log = start.tx.log
  known :
    atRefresh.tx.seen ≤ atReserve.tx.taken
  consumed :
    atReserve.tx.taken ≤ atRefresh.tx.taken
  kept :
    start.transmitter.reserved = true →
      atRefresh.transmitter.txAvail = start.transmitter.txAvail ∧
        atRefresh.tx.seen = start.tx.seen
  fresh :
    start.transmitter.reserved = false →
      start.transmitter.txUsed.toNat = 0 ∧
        atRefresh.transmitter.txAvail.toNat =
          2 ^ config.txOrder.val -
            (start.tx.log.length - atReserve.tx.taken)

/-- The two waits before the window is refreshed. -/
theorem Waited.refreshing
    {config : Config}
    {start atReserve atRefresh : World}
    (toReserve : Waited config start atReserve)
    (toRefresh :
      Waited config (Transmitter.reserve atReserve) atRefresh) :
    Refreshing config start atReserve atRefresh := by
  have reserved := reserve_reserved toReserve.rings
  have kept := reserved.kept
  have fresh := reserved.fresh
  rw [toReserve.transmitter, toReserve.seen] at kept
  rw [toReserve.transmitter, toReserve.log] at fresh
  refine
    { isOpen := ?_
      used := ?_
      log := ?_
      known := ?_
      consumed := ?_
      kept := ?_
      fresh := ?_ }
  · rw [toRefresh.transmitter]
    exact reserved.isOpen
  · rw [toRefresh.transmitter, reserved.used, toReserve.transmitter]
  · rw [toRefresh.log, reserved.log, toReserve.log]
  · rw [toRefresh.seen, ← reserved.taken]
    exact reserved.rings.tx.stale
  · rw [← reserved.taken]
    exact toRefresh.taken
  · rw [toRefresh.transmitter, toRefresh.seen]
    exact kept
  · rw [toRefresh.transmitter]
    exact fresh

/--
The call is accepted exactly if there is room at its last load.  A window that
was open already has room in any case unless it is used up; a window that is
used up is asked for again, and then it is the second query that decides.
-/
theorem refresh_iff_room
    {config : Config}
    {start atReserve atRefresh : World}
    (rings : RingsInOrder config start)
    (toReserve : Waited config start atReserve)
    (toRefresh :
      Waited config (Transmitter.reserve atReserve) atRefresh) :
    (Transmitter.refresh atRefresh).1 = false ↔
      (Transmitter.lastLoad start atReserve atRefresh).txInUse <
        2 ^ config.txOrder.val := by
  have found := toReserve.refreshing toRefresh
  have positive : 0 < 2 ^ config.txOrder.val := Nat.two_pow_pos _
  have stale := rings.tx.stale
  have ordered := toRefresh.rings.tx.ordered
  have known := found.known
  have consumed := found.consumed
  have earlier := toReserve.taken
  have refreshLoads := refreshLoads_iff toRefresh.rings
  have reserveLoads := reserveLoads_iff toReserve.rings
  rw [found.used, found.log] at refreshLoads
  rw [toReserve.transmitter, toReserve.seen, toReserve.log]
    at reserveLoads
  rw [found.log] at ordered
  rw [refresh_full_iff toRefresh.rings found.isOpen, found.used,
    found.log, ne_eq, ← UInt32.toNat_inj, Transmitter.lastLoad]
  split
  · next second =>
      obtain ⟨usedUp, _⟩ := refreshLoads.mp second
      rw [txInUse_eq toRefresh.rings, found.used, found.log]
      omega
  next noSecond =>
  rw [refreshLoads] at noSecond
  split
  · next first =>
      -- A fresh window with room; without it, the second query loads too.
      obtain ⟨notOpen, _⟩ := reserveLoads.mp first
      obtain ⟨unused, available⟩ := found.fresh notOpen
      rw [txInUse_eq toReserve.rings, toReserve.transmitter,
        toReserve.log]
      omega
  · next noFirst =>
      rw [reserveLoads] at noFirst
      rw [txInUse_eq rings]
      cases isReserved : start.transmitter.reserved with
      | true =>
          obtain ⟨sameAvail, sameSeen⟩ := found.kept isReserved
          obtain ⟨atMost, room⟩ := rings.txWindow.fits isReserved
          rw [sameAvail, sameSeen] at noSecond
          rw [sameAvail]
          omega
      | false =>
          -- Nothing is loaded only if the ring is known to be empty.
          obtain ⟨unused, available⟩ := found.fresh isReserved
          have empty : ¬ start.tx.seen < start.tx.log.length :=
            fun known => noFirst ⟨isReserved, known⟩
          omega

/-! ## The runs of a call -/

/-- The descriptor that `send_in_place` writes. -/
def sentDesc (addr : UInt64) (length : UInt32) : XdpDesc where
  addr := addr
  len := length
  options := 0

/-- The slot behind everything published and staged. -/
def World.nextTxSlot (world : World) : Nat :=
  world.tx.ring.slotOf
    (world.tx.ring.producer + world.transmitter.txUsed)

/-- What an accepted call changes, and the slot that it may write. -/
structure StagedOne
    (start atWrite after : World)
    (desc : XdpDesc) : Prop where
  visible :
    after.visible =
      { start.visible with
        txDescs :=
          Function.update start.tx.ring.descs start.nextTxSlot desc
        txUsed := start.transmitter.txUsed + 1
        sendLog :=
          start.aux.sendLog ++ [(desc, desc.bytes atWrite.memory)] }
  counted :
    after.transmitter.txUsed.toNat =
      start.transmitter.txUsed.toNat + 1
  unpublished :
    ∀ entry,
      entry < atWrite.tx.ring.occupancy.toNat →
      start.tx.ring.slotOf (atWrite.tx.ring.consumer + stored entry) ≠
        start.nextTxSlot
  unstaged :
    ∀ offset,
      offset < start.transmitter.txUsed.toNat →
      start.tx.ring.slotOf (start.tx.ring.producer + stored offset) ≠
        start.nextTxSlot

/-- What a rejected call changes. -/
def RejectedOne (start after : World) : Prop :=
  after.visible =
    { start.visible with
      framesRejected := start.transmitter.framesRejected + 1 }

section Runs

variable {scenario : Scenario}
variable {start after : World}

/-- A rejected call is visible in its counter alone. -/
theorem rejectFrame_run
    {atReject : World}
    (rings : RingsInOrder scenario.config atReject)
    (visible : atReject.visible = start.visible)
    (interference :
      Relation.ReflTransGen scenario.Interferes
        (Transmitter.rejectFrame atReject) after) :
    RejectedOne start after := by
  have afterRings :
      RingsInOrder scenario.config (Transmitter.rejectFrame atReject) :=
    { rings with txWindow := { rings.txWindow with } }
  rw [RejectedOne,
    (Waited.of_interference afterRings interference).visible,
    visible_rejectFrame, visible]
  rfl

/-- The next slot is the one behind the last staged entry. -/
theorem nextTxSlot_eq
    {config : Config}
    {world : World}
    (rings : RingsInOrder config world) :
    world.nextTxSlot =
      (world.tx.log.length + world.transmitter.txUsed.toNat) %
        2 ^ config.txOrder.val := by
  rw [World.nextTxSlot, rings.tx.producer, stored_add,
    rings.tx.slotOf_stored]

/-- Staging writes one slot and counts it. -/
theorem visible_stage
    {config : Config}
    {world : World}
    (rings : RingsInOrder config world)
    (isOpen : world.transmitter.reserved = true)
    (addr : UInt64)
    (length : UInt32) :
    (Transmitter.stage addr length world).visible =
      { world.visible with
        txDescs :=
          Function.update world.visible.txDescs world.nextTxSlot
            (sentDesc addr length)
        txUsed := world.visible.txUsed + 1
        sendLog :=
          world.visible.sendLog ++
            [(sentDesc addr length,
              (sentDesc addr length).bytes world.memory)] } := by
  rw [World.nextTxSlot, rings.tx.producer,
    ← rings.txWindow.start isOpen]
  rfl

/-- A window with room is written behind what is published and staged. -/
theorem stage_run
    {atWrite : World}
    {addr : UInt64}
    {length : UInt32}
    (startRings : RingsInOrder scenario.config start)
    (rings : RingsInOrder scenario.config atWrite)
    (visible : atWrite.visible = start.visible)
    (log : atWrite.tx.log = start.tx.log)
    (isOpen : atWrite.transmitter.reserved = true)
    (room :
      atWrite.transmitter.txUsed.toNat <
        atWrite.transmitter.txAvail.toNat)
    (interference :
      Relation.ReflTransGen scenario.Interferes
        (Transmitter.stage addr length atWrite) after) :
    StagedOne start atWrite after (sentDesc addr length) := by
  have waited :=
    Waited.of_interference
      (rings.stage isOpen room addr length) interference
  have used :
      atWrite.transmitter.txUsed = start.transmitter.txUsed :=
    congrArg Visible.txUsed visible
  obtain ⟨_, fits⟩ := rings.txWindow.fits isOpen
  have stale := rings.tx.stale
  have linked := startRings.tx.toLinked
  have slot := nextTxSlot_eq startRings
  have sameSlot : atWrite.nextTxSlot = start.nextTxSlot := by
    rw [nextTxSlot_eq rings, slot, log, used]
  have afterVisible :=
    waited.visible.trans (visible_stage rings isOpen addr length)
  rw [visible, sameSlot] at afterVisible
  have ordered := rings.tx.ordered
  have occupancy := rings.tx.occupancy_toNat
  rw [log] at fits ordered occupancy
  rw [used] at room
  refine
    { visible := afterVisible
      counted := ?_
      unpublished := ?_
      unstaged := ?_ }
  · have count :
        after.transmitter.txUsed = start.transmitter.txUsed + 1 :=
      congrArg Visible.txUsed afterVisible
    have bound := atWrite.transmitter.txAvail.toNat_lt
    rw [count, UInt32.toNat_add, UInt32.toNat_one, Nat.mod_eq_of_lt]
    omega
  · intro entry occupied
    rw [occupancy] at occupied
    rw [rings.tx.consumer, stored_add_stored, linked.slotOf_stored, slot]
    intro same
    have equal := slot_injective (by omega) (by omega) same
    omega
  · intro offset isStaged
    rw [linked.producer, stored_add_stored, linked.slotOf_stored, slot]
    intro same
    have equal := slot_injective (by omega) (by omega) same
    omega

/-- A call with a length that does not fit is rejected at once. -/
theorem sendInPlace_badLength_run
    {addr : UInt64}
    {length : UInt32}
    {moments : List World}
    {result : Bool}
    (rings : RingsInOrder scenario.config start)
    (bad : length = 0 ∨ length > scenario.config.frameSize)
    (runs :
      Runs scenario.Interferes
        (Transmitter.sendInPlace scenario.config addr length)
        start moments result after) :
    result = false ∧ RejectedOne start after := by
  rw [Transmitter.sendInPlace, if_pos bad] at runs
  obtain ⟨_, _, middle, _, reject, returned, _⟩ := runs.bind_inv
  obtain ⟨atReject, reached, _, _, rest⟩ := reject.act_inv
  obtain ⟨_, rfl, quiet⟩ := returned.done_inv
  have waited := Waited.of_interference rings reached
  exact ⟨rfl,
    rejectFrame_run waited.rings waited.visible (rest.trans quiet)⟩

/-- The three moments of any other call, and what decides it. -/
theorem sendInPlace_run
    {addr : UInt64}
    {length : UInt32}
    {moments : List World}
    {result : Bool}
    (rings : RingsInOrder scenario.config start)
    (good : ¬ (length = 0 ∨ length > scenario.config.frameSize))
    (runs :
      Runs scenario.Interferes
        (Transmitter.sendInPlace scenario.config addr length)
        start moments result after) :
    ∃ atReserve atRefresh atEnd,
      moments = [atReserve, atRefresh, atEnd] ∧
        (result = true ↔
          (Transmitter.lastLoad start atReserve atRefresh).txInUse <
            2 ^ scenario.config.txOrder.val) ∧
        (result = true →
          StagedOne start atEnd after (sentDesc addr length)) ∧
        (result = false → RejectedOne start after) := by
  rw [Transmitter.sendInPlace, if_neg good] at runs
  obtain ⟨_, _, afterReserve, _, reserve, afterFirst, rfl⟩ := runs.bind_inv
  obtain ⟨atReserve, reached, rfl, _, toRefresh⟩ := reserve.act_inv
  obtain ⟨_, full, afterRefresh, _, refresh, afterSecond, rfl⟩ :=
    afterFirst.bind_inv
  obtain ⟨atRefresh, reachedRefresh, rfl, rfl, toEnd⟩ := refresh.act_inv
  have firstWait := Waited.of_interference rings reached
  have reserved := reserve_reserved firstWait.rings
  have secondWait :=
    Waited.of_interference reserved.rings
      (toRefresh.trans reachedRefresh)
  have found := firstWait.refreshing secondWait
  have isOpen := found.isOpen
  have decided := refresh_iff_room rings firstWait secondWait
  have refreshed := secondWait.rings.refresh isOpen
  have visible :
      (Transmitter.refresh atRefresh).2.visible = start.visible := by
    rw [visible_refresh, secondWait.visible,
      visible_reserve firstWait.rings, firstWait.visible]
  split at afterSecond
  · next isFull =>
      obtain ⟨_, _, _, _, reject, returned, rfl⟩ := afterSecond.bind_inv
      obtain ⟨atEnd, reachedEnd, rfl, _, rest⟩ := reject.act_inv
      obtain ⟨rfl, rfl, quiet⟩ := returned.done_inv
      have thirdWait :=
        Waited.of_interference refreshed (toEnd.trans reachedEnd)
      refine ⟨atReserve, atRefresh, atEnd, rfl, ?_, ?_, ?_⟩
      · rw [← decided, isFull]
        simp
      · intro accepted
        cases accepted
      · intro _
        exact rejectFrame_run thirdWait.rings
          (thirdWait.visible.trans visible) (rest.trans quiet)
  · next notFull =>
      obtain ⟨_, _, _, _, stage, returned, rfl⟩ := afterSecond.bind_inv
      obtain ⟨atEnd, reachedEnd, rfl, _, rest⟩ := stage.act_inv
      obtain ⟨rfl, rfl, quiet⟩ := returned.done_inv
      have thirdWait :=
        Waited.of_interference refreshed (toEnd.trans reachedEnd)
      have hasRoom : (Transmitter.refresh atRefresh).1 = false := by
        simpa using notFull
      refine ⟨atReserve, atRefresh, atEnd, rfl, ?_, ?_, ?_⟩
      · simp [← decided, hasRoom]
      · intro _
        refine stage_run rings thirdWait.rings
          (thirdWait.visible.trans visible) ?_ ?_ ?_
          (rest.trans quiet)
        · rw [thirdWait.log, refresh_log, found.log]
        · rw [thirdWait.transmitter]
          exact Transmitter.refresh_branches isOpen isOpen
        · rw [thirdWait.transmitter]
          exact secondWait.rings.refresh_room isOpen hasRoom
      · intro rejected
        cases rejected

end Runs

/-- What holds of the reserved window at any time. -/
structure WindowInOrder (config : Config) (world : World) : Prop where
  used :
    world.transmitter.txUsed.toNat ≤ world.transmitter.txAvail.toNat
  avail :
    world.transmitter.txAvail.toNat ≤
      2 ^ config.txOrder.val - world.tx.ring.occupancy.toNat
  start :
    world.transmitter.txStart = world.tx.ring.cachedProd

/-- An open window is where the ring says. -/
theorem RingsInOrder.windowInOrder
    {config : Config}
    {world : World}
    (rings : RingsInOrder config world)
    (isOpen : world.transmitter.reserved = true) :
    WindowInOrder config world := by
  obtain ⟨used, room⟩ := rings.txWindow.fits isOpen
  have stale := rings.tx.stale
  have ordered := rings.tx.ordered
  refine
    { used := used
      avail := ?_
      start := ?_ }
  · rw [rings.tx.occupancy_toNat]
    omega
  · rw [rings.txWindow.start isOpen, rings.tx.cachedProd]

namespace Scenario

/--
In every reachable state the reserved window is in order, and every call of
`send_in_place` from there returns.  With a length that fits into a frame it is
accepted if and only if there was room at its last load of the consumer index;
an accepted call writes the slot behind what is published and staged and stages
it, and a rejected call counts a rejected frame and changes nothing else.
-/
theorem send_in_place_exact
    (scenario : Scenario)
    {events : List (Event AnyCall KernelStep)}
    {final : Configuration World}
    (reaches : scenario.AnyReaches events final) :
    (final.state.transmitter.reserved = true →
        WindowInOrder scenario.config final.state) ∧
      (final.AtBoundary →
        ∀ (addr : UInt64) (length : UInt32),
          (∃ moments result after,
            Runs scenario.Interferes
              (Transmitter.sendInPlace scenario.config addr length)
              final.state moments result after) ∧
          ∀ moments result after,
            Runs scenario.Interferes
                (Transmitter.sendInPlace scenario.config addr length)
                final.state moments result after →
              (0 < length ∧ length ≤ scenario.config.frameSize →
                ∃ atReserve atRefresh atEnd,
                  moments = [atReserve, atRefresh, atEnd] ∧
                    (result = true ↔
                      (Transmitter.lastLoad final.state
                          atReserve atRefresh).txInUse <
                        2 ^ scenario.config.txOrder.val) ∧
                    (result = true →
                      StagedOne final.state atEnd after
                        (sentDesc addr length))) ∧
              (length = 0 ∨ scenario.config.frameSize < length →
                result = false) ∧
              (result = false → RejectedOne final.state after)) := by
  have rings := (anyReaches_sound reaches).invariant
  refine ⟨rings.windowInOrder, ?_⟩
  intro _ addr length
  refine ⟨Runs.total _ _ _, ?_⟩
  intro moments result after runs
  by_cases bad : length = 0 ∨ length > scenario.config.frameSize
  · obtain ⟨rejected, changes⟩ :=
      sendInPlace_badLength_run rings bad runs
    refine ⟨?_, fun _ => rejected, fun _ => changes⟩
    rintro ⟨positive, fits⟩
    rcases bad with rfl | long
    · exact absurd positive (UInt32.lt_irrefl 0)
    · exact absurd long (UInt32.not_lt.mpr fits)
  · obtain ⟨atReserve, atRefresh, atEnd, shape, decided, staged,
        rejected⟩ :=
      sendInPlace_run rings bad runs
    refine ⟨?_, fun isBad => absurd isBad bad, rejected⟩
    intro _
    exact ⟨atReserve, atRefresh, atEnd, shape, decided, staged⟩

/-- The TX ring of two was filled and published. -/
def txFull : List (Event AnyCall KernelStep) :=
  List.flatten
    [[.call (.client (.sendInPlace 64 42))],
      List.replicate 3 .work,
      [.call (.client (.sendInPlace 0 42))],
      List.replicate 3 .work,
      [.call (.client .publishAndServiceTx)],
      List.replicate 9 .work]

/-- The kernel takes one of the two just before the first query of a call. -/
theorem send_in_place_exact_sample :
    ∃ final moments after,
      sample.AnyReaches txFull final ∧
        final.AtBoundary ∧
        final.state.txInUse = 2 ∧
        Runs sample.Interferes
          (Transmitter.sendInPlace sample.config 64 42)
          final.state moments true after ∧
        after.transmitter.txUsed.toNat =
          final.state.transmitter.txUsed.toNat + 1 := by
  obtain ⟨final, reaches, boundary, full, moments, after, runs⟩ :
      ∃ final,
        sample.AnyReaches txFull final ∧
          final.AtBoundary ∧
          final.state.txInUse = 2 ∧
          ∃ moments after,
            Runs sample.Interferes
              (Transmitter.sendInPlace sample.config 64 42)
              final.state moments true after :=
    ⟨_, rfl, rfl, rfl, _, _, .interfered ⟨.takeTx, rfl⟩
      (.step (.step (.step (.done _ _))))⟩
  obtain ⟨_, _, _, _, _, staged⟩ :=
    (((send_in_place_exact sample reaches).2 boundary 64 42).2
      moments true after runs).1 (by decide)
  exact ⟨final, moments, after, reaches, boundary, full, runs,
    (staged rfl).counted⟩

end Scenario

end AfXdp
