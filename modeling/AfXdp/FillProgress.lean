import AfXdp.FrameOwnership

namespace AfXdp

open Interleaving
open SequenceIndex

/-!
# The receive path does not starve itself

One pass over RX during which the kernel leaves the rings alone empties the
Completion ring and tops up Fill, so that no frame is left idle on the user's
side while Fill is empty.
-/

/--
With nothing free, staged or at the callback, and both Fill and Completion
empty, a frame is with the kernel, in RX or in TX.
-/
theorem Core.frames_busy
    {config : Config}
    {world : World}
    {frame : UInt64}
    (core : Core config world)
    (noHand : world.aux.hand = [])
    (noFillWindow : world.aux.fillWindow = [])
    (unused : world.transmitter.txUsed = 0)
    (nothingFree : world.allocator.frames = [])
    (starved : world.fill.ring.published = [])
    (emptied : world.completion.ring.published = [])
    (member : frame ∈ config.frames) :
    frame ∈ world.framesAt config .kernelRx ∨
      frame ∈ world.framesAt config .kernelTx ∨
      frame ∈ world.framesAt config .rx ∨
      frame ∈ world.framesAt config .tx := by
  obtain ⟨place, inPlace, _⟩ := core.framesAt_partition.1 frame member
  cases place with
  | allocator =>
      rw [World.framesAt, nothingFree] at inPlace
      cases inPlace
  | fillWindow =>
      rw [World.framesAt, noFillWindow] at inPlace
      cases inPlace
  | fill =>
      rw [World.framesAt, starved] at inPlace
      cases inPlace
  | kernelRx =>
      exact .inl inPlace
  | rx =>
      exact .inr (.inr (.inl inPlace))
  | callback =>
      rw [World.framesAt, noHand] at inPlace
      cases inPlace
  | txWindow =>
      rw [World.framesAt, unused] at inPlace
      cases inPlace
  | tx =>
      exact .inr (.inr (.inr inPlace))
  | kernelTx =>
      exact .inr (.inl inPlace)
  | completion =>
      rw [World.framesAt, emptied, List.drop_nil] at inPlace
      cases inPlace

namespace Scenario

/-- One call of `process_rx_and_maintain_io`. -/
def pass (scenario : Scenario) : Task Unit := do
  let _ ←
    Receiver.processRxAndMaintainIo scenario.config
      (Main.strategy scenario.config scenario.rewrite)
      (Transmitter.publishAndServiceTx scenario.config)
  return ()

/-- The worker steps or the kernel does something that is no ring step. -/
def Calm : Event WorkerCall KernelStep → Prop
  | .call _ =>
      False
  | .work =>
      True
  | .env step =>
      step.isRingStep = false

/-- How far the kernel is in a state. -/
def floorOf (world : World) : Floor where
  completed := world.completion.log.length
  filled := world.fill.taken

variable {scenario : Scenario}

/-- A calm event changes nothing on the kernel's side. -/
theorem kernelSide_of_calm
    {setting : Setting World Own}
    {event : Event WorkerCall KernelStep}
    {before after : World}
    (guarantee :
      setting.guarantee =
        WorkerStep scenario.config scenario.rewrite false)
    (calm : Calm event)
    (moved : scenario.machine.Moves setting event before after) :
    after.kernelSide = before.kernelSide := by
  cases moved with
  | @interference step _ _ performed _ =>
      obtain ⟨_, rfl⟩ := KernelStep.perform_eq_some.mp performed
      cases step <;> first | rfl | cases calm
  | issue =>
      rfl
  | worked step =>
      rw [guarantee] at step
      exact step.kernelSide_unchanged

section Pass

variable {events quiet : List (Event WorkerCall KernelStep)}
variable {start : Configuration World}
variable {after : World}

/-- What a whole pass leaves behind, if it started between two passes. -/
theorem pass_meets
    {floor : Floor}
    {own : Own}
    (idle : Idle own)
    (near :
      floor.completed ≤
        own.completionTaken +
          2 ^ scenario.config.completionOrder.val) :
    Meets (scenario.setting floor) (· = own) scenario.pass
      (fun _ after =>
        ∃ amount, Passed scenario.config floor own amount after) := by
  refine Meets.bind _ (processRxAndMaintainIo_meets idle near) ?_
  intro amount after passed
  exact Meets.done ⟨amount, passed⟩

/-- What a pass leaves if the kernel makes no ring step meanwhile. -/
theorem quiet_pass
    (reaches : scenario.Reaches events start)
    (boundary : start.AtBoundary)
    (calm : ∀ event, event ∈ quiet → Calm event)
    (passed :
      scenario.machine.run quiet ⟨scenario.pass, start.state⟩ =
        some ⟨.done (), after⟩) :
    Core scenario.config after ∧
      after.kernelSide = start.state.kernelSide ∧
      ∃ amount,
        Passed scenario.config (floorOf start.state)
          start.state.own amount after.own := by
  have core := reaches_core reaches
  have idle := reaches_between reaches boundary
  let setting := scenario.setting (floorOf start.state)
  let finished : Assertion setting :=
    .own setting fun own =>
      ∃ amount,
        Passed scenario.config (floorOf start.state)
          start.state.own amount own
  have invariant : setting.invariant start.state :=
    ⟨core, ⟨Nat.le_refl _, Nat.le_refl _⟩⟩
  have initially :
      scenario.machine.Sound setting finished
        ⟨scenario.pass, start.state⟩ :=
    { invariant := invariant
      promise :=
        pass_meets idle.toIdle core.completion.bounded
          start.state invariant rfl }
  have noCalls :
      ∀ issued world,
        .call issued ∈ quiet →
        setting.invariant world →
        finished.holds world →
        scenario.machine.ready issued world = true →
        Guaranteed setting (fun _ => finished)
          (scenario.machine.code issued) world :=
    fun issued _ member => (calm _ member).elim
  have sound :=
    Machine.run_sound (fun stepped => stepped) noCalls passed
      initially
  have unchanged :=
    Machine.run_invariant (fun stepped => stepped) noCalls
      (fun world => world.kernelSide = start.state.kernelSide)
      (fun member moved _ same =>
        (kernelSide_of_calm rfl (calm _ member) moved).trans same)
      passed initially rfl
  exact ⟨sound.invariant.1, unchanged, sound.between_holds rfl⟩

/-- The thresholds that `ReceiverConfig` admits. -/
def ThresholdSet (config : Config) : Prop :=
  (config.fillRefillThreshold = 0 ∧ 0 < config.fillOrder.val) ∨
    (0 < config.fillRefillThreshold.toNat ∧
      config.fillRefillThreshold.toNat ≤ 2 ^ config.fillOrder.val)

/-- Half of a ring of at least two entries, or the configured number. -/
theorem fillThreshold_bounds
    {config : Config}
    (threshold : ThresholdSet config) :
    0 < config.fillThreshold.toNat ∧
      config.fillThreshold.toNat ≤ 2 ^ config.fillOrder.val := by
  rw [Config.fillThreshold]
  rcases threshold with ⟨unset, two⟩ | ⟨positive, fits⟩
  · have even : 2 ^ config.fillOrder.val =
        2 * 2 ^ (config.fillOrder.val - 1) := by
      rw [← Nat.pow_succ']
      congr 1
      omega
    have half := Nat.two_pow_pos (config.fillOrder.val - 1)
    rw [if_neg (by rw [unset]; decide), UInt32.toNat_div,
      toNat_stored_two_pow config.fillOrder.isLt]
    change 0 < _ / 2 ∧ _ / 2 ≤ _
    omega
  · have configured : config.fillRefillThreshold > 0 := by
      rw [gt_iff_lt, UInt32.lt_iff_toNat_lt]
      exact positive
    rw [if_pos configured]
    exact ⟨positive, fits⟩

/-- After a quiet pass Completion is empty and Fill is topped up. -/
theorem quiet_pass_feeds_fill
    (threshold : ThresholdSet scenario.config)
    (reaches : scenario.Reaches events start)
    (boundary : start.AtBoundary)
    (calm : ∀ event, event ∈ quiet → Calm event)
    (passed :
      scenario.machine.run quiet ⟨scenario.pass, start.state⟩ =
        some ⟨.done (), after⟩) :
    after.completion.ring.published = [] ∧
      (scenario.config.fillThreshold ≤ after.fill.ring.occupancy ∨
        after.allocator.frames = []) ∧
      (after.fill.ring.published = [] →
        ∀ frame,
          frame ∈ scenario.config.frames →
          frame ∈ after.framesAt scenario.config .kernelRx ∨
            frame ∈ after.framesAt scenario.config .kernelTx ∨
            frame ∈ after.framesAt scenario.config .rx ∨
            frame ∈ after.framesAt scenario.config .tx) := by
  obtain ⟨core, unchanged, amount, left⟩ :=
    quiet_pass reaches boundary calm passed
  have bounds := fillThreshold_bounds threshold
  have log : after.completion.log = start.state.completion.log :=
    congrArg KernelSide.completionLog unchanged
  have taken : after.fill.taken = start.state.fill.taken :=
    congrArg KernelSide.fillTaken unchanged
  have completed :
      start.state.completion.log.length ≤ after.completion.taken :=
    left.completed
  have filled :
      after.allocator.frames = [] ∨
        start.state.fill.taken +
            min scenario.config.fillThreshold.toNat
              (2 ^ scenario.config.fillOrder.val) ≤
          after.fill.log.length :=
    left.filled
  have emptied : after.completion.ring.published = [] := by
    rw [core.completion.published_eq, Channel.pending,
      List.drop_eq_nil_iff, log]
    exact completed
  have enough :
      scenario.config.fillThreshold ≤ after.fill.ring.occupancy ∨
        after.allocator.frames = [] := by
    rcases filled with nothingFree | toppedUp
    · exact .inr nothingFree
    · left
      rw [UInt32.le_iff_toNat_le, core.fill.occupancy_toNat]
      omega
  refine ⟨emptied, enough, ?_⟩
  intro starved frame member
  have nothingFree : after.allocator.frames = [] := by
    rcases enough with occupied | free
    · have occupancy := core.fill.occupancy_toNat
      have none := congrArg List.length core.fill.published_eq
      rw [starved, Channel.pending, List.length_drop] at none
      rw [UInt32.le_iff_toNat_le] at occupied
      simp only [List.length_nil] at none
      omega
    · exact free
  exact core.frames_busy left.hand left.fillWindow left.txUsed
    nothingFree starved emptied member

/--
From every pass boundary a pass comes to its end.  If the kernel made no ring
step meanwhile, the Completion ring is then empty, and Fill has reached its
threshold or the pool is empty.  If Fill is empty even so, every frame is with
the kernel, in RX beyond the batch, or in TX.
-/
theorem pass_feeds_fill
    (scenario : Scenario)
    {events : List (Event WorkerCall KernelStep)}
    {start : Configuration World}
    (threshold : ThresholdSet scenario.config)
    (reaches : scenario.Reaches events start)
    (boundary : start.AtBoundary) :
    (∃ count after,
      scenario.machine.run (List.replicate count .work)
          ⟨scenario.pass, start.state⟩ =
        some ⟨.done (), after⟩) ∧
      ∀ quiet after,
        (∀ event, event ∈ quiet → Calm event) →
        scenario.machine.run quiet ⟨scenario.pass, start.state⟩ =
          some ⟨.done (), after⟩ →
        after.completion.ring.published = [] ∧
          (scenario.config.fillThreshold ≤
              after.fill.ring.occupancy ∨
            after.allocator.frames = []) ∧
          (after.fill.ring.published = [] →
            ∀ frame,
              frame ∈ scenario.config.frames →
              frame ∈ after.framesAt scenario.config .kernelRx ∨
                frame ∈ after.framesAt scenario.config .kernelTx ∨
                frame ∈ after.framesAt scenario.config .rx ∨
                frame ∈ after.framesAt scenario.config .tx) :=
  ⟨Machine.run_finishes scenario.pass start.state,
    fun _ _ calm passed =>
      quiet_pass_feeds_fill threshold reaches boundary calm passed⟩

/-- The one frame in use was sent, and the kernel has emptied Fill. -/
def sampleStarved : List (Event WorkerCall KernelStep) :=
  sampleRun ++
    [.env .takeFill,
      .env (.complete { addr := 64, len := 42, options := 0 })]

theorem pass_feeds_fill_sample :
    ∃ start after,
      sample.Reaches sampleStarved start ∧
        start.state.completion.ring.published = [64] ∧
        start.state.fill.ring.published = [] ∧
        sample.machine.run (List.replicate 19 .work)
            ⟨sample.pass, start.state⟩ =
          some ⟨.done (), after⟩ ∧
        after.completion.ring.published = [] ∧
        after.fill.ring.published = [64] ∧
        (sample.config.fillThreshold ≤ after.fill.ring.occupancy ∨
          after.allocator.frames = []) := by
  obtain ⟨start, after, ran, boundary, reclaimable, starved, passed,
      refilled⟩ :
      ∃ start after,
        sample.Reaches sampleStarved start ∧
          start.AtBoundary ∧
          start.state.completion.ring.published = [64] ∧
          start.state.fill.ring.published = [] ∧
          sample.machine.run (List.replicate 19 .work)
              ⟨sample.pass, start.state⟩ =
            some ⟨.done (), after⟩ ∧
          after.fill.ring.published = [64] :=
    ⟨_, _, rfl, rfl, rfl, rfl, rfl, rfl⟩
  have threshold : ThresholdSet sample.config :=
    .inr ⟨by decide, by decide⟩
  have calm :
      ∀ event,
        event ∈ List.replicate 19 Event.work →
        Calm event := by
    intro event member
    rw [List.eq_of_mem_replicate member]
    trivial
  obtain ⟨emptied, filled, _⟩ :=
    (pass_feeds_fill sample threshold ran boundary).2 _ after calm passed
  exact ⟨start, after, ran, reclaimable, starved, passed, emptied,
    refilled, filled⟩

end Pass

end Scenario

end AfXdp
