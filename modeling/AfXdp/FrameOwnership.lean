import Mathlib.Data.List.Nodup
import Mathlib.Data.List.Pairwise
import AfXdp.ReceiverRuns

namespace AfXdp

open Interleaving
open SequenceIndex

/-!
# Frame ownership is a partition

The places where a frame can be, read off the allocator, the ring slots and
the kernel, and the theorem that in every reachable state every frame is in
exactly one of them.
-/

/-- Where a frame can be. -/
inductive Place where
  | allocator : Place
  | fillWindow : Place
  | fill : Place
  | kernelRx : Place
  | rx : Place
  | callback : Place
  | txWindow : Place
  | tx : Place
  | kernelTx : Place
  | completion : Place
  deriving Repr, DecidableEq

namespace Place

/-- Every place once. -/
def all : List Place :=
  [.allocator, .fillWindow, .fill, .kernelRx, .rx, .callback,
    .txWindow, .tx, .kernelTx, .completion]

/-- No place is missing. -/
theorem mem_all (place : Place) : place ∈ all := by
  cases place <;> decide

end Place

/--
The frames in a place.  Entries of RX and Completion count until the worker
has handled them; they are released only at the end of a batch.
-/
def World.framesAt
    (config : Config)
    (world : World) :
    Place → List UInt64
  | .allocator =>
      world.allocator.frames
  | .fillWindow =>
      world.aux.fillWindow
  | .fill =>
      world.fill.ring.published
  | .kernelRx =>
      world.kernel.rxHeld
  | .rx =>
      (world.rx.ring.published.drop world.aux.rxDone).map
        (XdpDesc.base config.frameSize)
  | .callback =>
      world.aux.hand.map fun packet =>
        packet.1.base config.frameSize
  | .txWindow =>
      (world.tx.ring.entriesFrom world.transmitter.txStart
        world.transmitter.txUsed.toNat).map
          (XdpDesc.base config.frameSize)
  | .tx =>
      world.tx.ring.published.map (XdpDesc.base config.frameSize)
  | .kernelTx =>
      world.kernel.txHeld.map (XdpDesc.base config.frameSize)
  | .completion =>
      (world.completion.ring.published.drop
        world.aux.completionDone).map (frameBase config.frameSize)

/-- All places together. -/
def World.census (config : Config) (world : World) : List UInt64 :=
  Place.all.flatMap (world.framesAt config)

namespace Core

variable {config : Config} {world : World}

/-- The slots of an open TX window hold the staged descriptors. -/
theorem txWindow_entries (core : Core config world) :
    world.tx.ring.entriesFrom world.transmitter.txStart
        world.transmitter.txUsed.toNat =
      world.txStaged := by
  have length := core.txWindow.staged_length
  have slots :=
    core.txWindow.staged.entriesFrom_eq core.tx.toLinked
  rw [length] at slots
  cases reserved : world.transmitter.reserved with
  | true =>
      rw [core.txWindow.start reserved]
      exact slots
  | false =>
      have unused := core.txWindow.closed reserved
      rw [unused] at length ⊢
      rw [World.txStaged, List.eq_nil_of_length_eq_zero length]
      rfl

/-- What was sent and not consumed is published or staged. -/
theorem txPending_fst (core : Core config world) :
    world.txPending.map Prod.fst =
      world.tx.pending ++ world.txStaged := by
  have ordered := core.tx.ordered
  have used := core.txWindow.used
  have split :
      world.aux.sendLog.drop world.tx.taken =
        (world.aux.sendLog.take world.tx.log.length).drop
            world.tx.taken ++
          world.aux.sendLog.drop world.tx.log.length := by
    rw [← List.drop_append_of_le_length
      (by rw [List.length_take]; omega), List.take_append_drop]
  rw [World.txPending, split, List.map_append, List.map_drop,
    core.txWindow.published, World.txStaged, Channel.pending]

/-- The places hold what the invariant accounts for. -/
theorem census_perm (core : Core config world) :
    (world.census config).Perm config.frames := by
  refine List.Perm.trans ?_ (List.perm_iff_count.mpr core.partition)
  have sent :
      world.txPending.map
          (fun packet => packet.1.base config.frameSize) =
        (world.tx.pending ++ world.txStaged).map
          (XdpDesc.base config.frameSize) := by
    rw [← core.txPending_fst, List.map_map]
    rfl
  rw [List.perm_iff_count]
  intro frame
  simp only [World.census, Place.all, World.framesAt,
    List.flatMap_cons, List.flatMap_nil, World.roster,
    core.fill.published_eq, core.rx.published_eq,
    core.tx.published_eq, core.completion.published_eq,
    core.txWindow_entries, sent, World.rxPending,
    World.completionPending, Channel.pending, List.drop_drop,
    List.map_append, List.count_append, List.count_nil]
  omega

/-- Every frame is in exactly one place, and only once there. -/
theorem framesAt_partition (core : Core config world) :
    (∀ frame,
      frame ∈ config.frames →
      ∃! place, frame ∈ world.framesAt config place) ∧
      (∀ place, (world.framesAt config place).Nodup) ∧
      (∀ place frame,
        frame ∈ world.framesAt config place →
        frame ∈ config.frames) := by
  have perm := core.census_perm
  have nodup : (world.census config).Nodup :=
    perm.nodup_iff.mpr
      (frameOffsets_nodup config.frameOrder.isLt config.numFrames)
  obtain ⟨once, apart⟩ := List.nodup_flatMap.mp nodup
  have unique :
      ∀ {frame first second},
        frame ∈ world.framesAt config first →
        frame ∈ world.framesAt config second →
        first = second := by
    intro frame first second inFirst inSecond
    by_contra different
    have symmetric :
        Std.Symm
          (Function.onFun List.Disjoint (world.framesAt config)) :=
      ⟨fun _ _ disjoint _ inSecond inFirst =>
        disjoint inFirst inSecond⟩
    exact apart.forall first.mem_all second.mem_all different
      inFirst inSecond
  refine ⟨?_, fun place => once place place.mem_all, ?_⟩
  · intro frame member
    obtain ⟨place, _, inPlace⟩ :=
      List.mem_flatMap.mp (perm.mem_iff.mpr member)
    exact ⟨place, inPlace, fun other inOther =>
      unique inOther inPlace⟩
  · intro place frame inPlace
    exact perm.mem_iff.mp
      (List.mem_flatMap.mpr ⟨place, place.mem_all, inPlace⟩)

end Core

/-! ## Nothing is left in the hand -/

/-- The caller holds at most the packet that was handed to it last. -/
def World.OneInHand (world : World) : Prop :=
  ∀ packet ∈ world.aux.hand,
    world.aux.hand = [packet] ∧
      (world.aux.handed.getLast?.map fun last => last.1) = some packet.1

namespace World.OneInHand

variable {config : Config}
variable {rewrite : Rewrite}
variable {world : World}

/-- What leaves the hand leaves nothing else behind. -/
theorem leaveHand
    (one : world.OneInHand)
    (addr : UInt64) :
    (world.leaveHand addr).OneInHand := by
  intro packet member
  have before := Core.mem_of_mem_leaveHand member
  obtain ⟨alone, last⟩ := one packet before
  have sublist :
      (world.leaveHand addr).aux.hand.Sublist [packet] := by
    rw [← alone]
    exact List.eraseP_sublist
  refine ⟨?_, last⟩
  rcases List.sublist_singleton.mp sublist with gone | stays
  · rw [gone] at member
    cases member
  · exact stays

/-- The callback's bytes change, not the packet that they are of. -/
theorem rewritePacket
    (one : world.OneInHand)
    (packet : PacketView)
    (accepted : Bool)
    (output : List UInt8) :
    (Main.rewritePacket packet accepted output world).OneInHand := by
  intro held member
  simp only [Main.rewritePacket, World.progress, List.mem_map]
    at member
  obtain ⟨old, inHand, rewritten⟩ := member
  obtain ⟨alone, last⟩ := one old inHand
  have sameDesc : held.1 = old.1 := by
    rw [← rewritten]
    split
    · rfl
    · rfl
  refine ⟨?_, last.trans (congrArg some sameDesc.symm)⟩
  simp only [Main.rewritePacket, World.progress, alone, List.map_cons,
    List.map_nil, rewritten]

/-- A packet is handed out only into an empty hand. -/
theorem workerStep
    {before after : World}
    (one : before.OneInHand)
    (step : WorkerStep config rewrite false before after) :
    after.OneInHand := by
  cases step with
  | takeDesc _ _ isDirect =>
      cases isDirect
  | handOut _ _ _ empty =>
      intro packet member
      simp only [Receiver.handOut, Receiver.takeDesc, empty,
        List.mem_singleton] at member
      subst member
      refine ⟨?_, ?_⟩
      · simp only [Receiver.handOut, Receiver.takeDesc, empty]
      · simp only [Receiver.handOut, Receiver.takeDesc,
          List.getLast?_concat, Option.map_some]
  | stage =>
      exact one.leaveHand _
  | giveBack =>
      exact one.leaveHand _
  | rewritePacket =>
      exact one.rewritePacket _ _ _
  | fillPush =>
      exact Xsk.fillPush_branches one fun _ _ => one
  | reserve =>
      exact Transmitter.reserve_branches one one
  | refresh =>
      exact Transmitter.refresh_branches one one
  | publishStaged =>
      exact Transmitter.publishStaged_branches (fun _ => one) fun _ => one
  | _ =>
      exact one

/-- The kernel takes nothing out of the hand and puts nothing into it. -/
theorem kernelStep
    {admits : List UInt8 → Bool}
    {step : KernelStep}
    {before after : World}
    (one : before.OneInHand)
    (performed : step.perform config admits before = some after) :
    after.OneInHand := by
  obtain ⟨_, rfl⟩ := KernelStep.perform_eq_some.mp performed
  cases step <;> exact one

end World.OneInHand

namespace Scenario

variable {scenario : Scenario}
variable {events : List (Event WorkerCall KernelStep)}
variable {final : Configuration World}

/-- The callback never holds more than one packet. -/
theorem reaches_oneInHand
    (reaches : scenario.Reaches events final) :
    final.state.OneInHand :=
  reaches_invariant
    (by
      intro packet member
      cases member)
    (fun _ performed one => one.kernelStep performed)
    (fun _ step one => one.workerStep step)
    reaches

/--
In every reachable state, also in the middle of a pass, every frame of the
pool is in exactly one place, no place has a frame twice or one that is not of
the pool, and no assertion has failed.  The callback holds at most the packet
that was handed out last.  Between two passes it holds nothing, nothing is on
its way to Fill or TX, and no entry of RX or Completion is half handled.
-/
theorem frames_partitioned
    (scenario : Scenario)
    (reaches : scenario.Reaches events final) :
    (∀ frame,
      frame ∈ scenario.config.frames →
      ∃! place,
        frame ∈ final.state.framesAt scenario.config place) ∧
      (∀ place,
        (final.state.framesAt scenario.config place).Nodup) ∧
      (∀ place frame,
        frame ∈ final.state.framesAt scenario.config place →
        frame ∈ scenario.config.frames) ∧
      final.state.aux.assertsHeld = true ∧
      (∀ frame,
        frame ∈ final.state.framesAt scenario.config .callback →
        final.state.framesAt scenario.config .callback = [frame] ∧
          ∃ packet,
            final.state.aux.handed.getLast? = some packet ∧
              packet.1.base scenario.config.frameSize = frame) ∧
      (final.AtBoundary →
        final.state.framesAt scenario.config .callback = [] ∧
          final.state.framesAt scenario.config .fillWindow = [] ∧
          final.state.framesAt scenario.config .txWindow = [] ∧
          final.state.framesAt scenario.config .rx =
            final.state.rx.ring.published.map
              (XdpDesc.base scenario.config.frameSize) ∧
          final.state.framesAt scenario.config .completion =
            final.state.completion.ring.published.map
              (frameBase scenario.config.frameSize)) := by
  have core := reaches_core reaches
  obtain ⟨exactlyOne, once, ofPool⟩ := core.framesAt_partition
  refine ⟨exactlyOne, once, ofPool, core.asserts, ?_, ?_⟩
  · intro frame inHand
    obtain ⟨held, member, rfl⟩ := List.mem_map.mp inHand
    obtain ⟨alone, last⟩ := reaches_oneInHand reaches held member
    obtain ⟨packet, isLast, same⟩ := Option.map_eq_some_iff.mp last
    refine ⟨?_, packet, isLast, by rw [same]⟩
    simp only [World.framesAt, alone, List.map_cons, List.map_nil]
  · intro boundary
    have between := reaches_between reaches boundary
    have hand : final.state.aux.hand = [] := between.hand
    have unused : final.state.transmitter.txUsed = 0 := between.txUsed
    have rxDone : final.state.aux.rxDone = 0 := between.rxDone
    have completionDone : final.state.aux.completionDone = 0 :=
      between.completionDone
    refine ⟨?_, between.fillWindow, ?_, ?_, ?_⟩
    · simp only [World.framesAt, hand, List.map_nil]
    · simp only [World.framesAt, unused]
      rfl
    · simp only [World.framesAt, rxDone, List.drop_zero]
    · simp only [World.framesAt, completionDone, List.drop_zero]

/-- The small instance with a callback that accepts no packet. -/
def refusing : Scenario :=
  { sample with rewrite := fun _ frame => (false, frame) }

/-- One packet in, and the first steps of the turn that recycles it. -/
def refusedRun (steps : Nat) : List (Event WorkerCall KernelStep) :=
  List.replicate 7 .work ++
    [.env .takeFill,
      .env (.dma 64 0 samplePacket),
      .env (.deliver { addr := 64, len := 42, options := 0 }),
      .call .turn] ++
    List.replicate steps .work

/-- A sent frame is with the kernel; a refused one is free after the turn. -/
theorem frames_partitioned_sample :
    ∃ sent middle final,
      sample.Reaches sampleRun sent ∧
        sent.state.framesAt sample.config .kernelTx = [64] ∧
        (∀ frame,
          frame ∈ sample.config.frames →
          ∃! place,
            frame ∈ sent.state.framesAt sample.config place) ∧
        refusing.Reaches (refusedRun 6) middle ∧
        64 ∈ middle.state.framesAt refusing.config .callback ∧
        middle.state.framesAt refusing.config .callback = [64] ∧
        refusing.Reaches (refusedRun 14) final ∧
        final.state.aux.handed.length = 1 ∧
        final.state.framesAt refusing.config .allocator = [64] ∧
        final.state.framesAt refusing.config .callback = [] := by
  obtain ⟨sent, ran, held⟩ :
      ∃ sent,
        sample.Reaches sampleRun sent ∧
          sent.state.framesAt sample.config .kernelTx = [64] :=
    ⟨_, rfl, rfl⟩
  obtain ⟨middle, working, inHand⟩ :
      ∃ middle,
        refusing.Reaches (refusedRun 6) middle ∧
          64 ∈ middle.state.framesAt refusing.config .callback :=
    ⟨_, rfl, .head _⟩
  obtain ⟨final, recycled, boundary, handed, free⟩ :
      ∃ final,
        refusing.Reaches (refusedRun 14) final ∧ final.AtBoundary ∧
          final.state.aux.handed.length = 1 ∧
          final.state.framesAt refusing.config .allocator = [64] :=
    ⟨_, rfl, rfl, rfl, rfl⟩
  have alone := (frames_partitioned refusing working).2.2.2.2.1 64 inHand
  have done := (frames_partitioned refusing recycled).2.2.2.2.2 boundary
  exact ⟨sent, middle, final, ran, held,
    (frames_partitioned sample ran).1, working, inHand, alone.1,
    recycled, handed, free, done.1⟩

end Scenario

end AfXdp
