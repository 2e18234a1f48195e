import Mathlib.Data.List.Infix
import AfXdp.FrameOwnership
import AfXdp.SendInPlace

namespace AfXdp

open Interleaving
open SequenceIndex

/-!
# One pass of `publish_and_service_tx`

A pass publishes what is staged, reclaims what is complete, asks the kernel for
progress and reclaims again with what is left of its budget.  The first
reclamation may see only what an earlier pass left in its cached window; this
module shows that the two together reach everything that was complete when the
pass began, and no more than one ring of it.
-/

/-! ## Reclaiming -/

/-- What the worker has freed since `start`, in the order of the ring. -/
def World.reclaimedSince (start world : World) : List UInt64 :=
  (world.completion.log.take
    (world.completion.taken + world.aux.completionDone)).drop
      start.completion.taken

/-- The allocator has exactly these frames more. -/
structure Reclaimed (config : Config) (start world : World) : Prop where
  grown :
    start.completion.log <+: world.completion.log
  further :
    start.completion.taken ≤
      world.completion.taken + world.aux.completionDone
  frames :
    world.allocator.frames =
      ((start.reclaimedSince world).map
          (frameBase config.frameSize)).reverse ++
        start.allocator.frames

/-- A step of the worker frees the next completed frame or none. -/
theorem WorkerStep.frees
    {config : Config}
    {rewrite : Rewrite}
    {direct : Bool}
    {before after : World}
    (step : WorkerStep config rewrite direct before after) :
    after.completion.taken + after.aux.completionDone =
        before.completion.taken + before.aux.completionDone ∨
      before.completion.taken + before.aux.completionDone <
          before.completion.seen ∧
        after =
          Transmitter.freeCompleted config
            (stored
              (before.completion.taken + before.aux.completionDone))
            before := by
  cases step with
  | freeCompleted next inWindow =>
      subst next
      exact .inr ⟨inWindow, rfl⟩
  | releaseCompleted all =>
      left
      simp only [Transmitter.releaseCompleted,
        Channel.releaseConsumedEntries, all, Nat.add_zero]
  | fillPush =>
      exact .inl (Xsk.fillPush_branches rfl fun _ _ => rfl)
  | reserve =>
      exact .inl (Transmitter.reserve_branches rfl rfl)
  | refresh =>
      exact .inl (Transmitter.refresh_branches rfl rfl)
  | publishStaged =>
      exact .inl (Transmitter.publishStaged_branches
        (fun _ => rfl) (fun _ => rfl))
  | _ =>
      exact .inl rfl

namespace Reclaimed

variable {config : Config}
variable {start world : World}

/-- Nothing was reclaimed yet. -/
theorem refl
    (settled : start.aux.completionDone = 0) :
    Reclaimed config start start := by
  refine
    { grown := List.prefix_refl _
      further := Nat.le_add_right _ _
      frames := ?_ }
  rw [World.reclaimedSince, settled, Nat.add_zero,
    List.drop_eq_nil_of_le (List.length_take_le _ _)]
  rfl

/-- What neither frees nor releases nor completes changes nothing here. -/
theorem congr
    {after : World}
    (reclaimed : Reclaimed config start world)
    (log : after.completion.log = world.completion.log)
    (freed :
      after.completion.taken + after.aux.completionDone =
        world.completion.taken + world.aux.completionDone)
    (frames : after.allocator.frames = world.allocator.frames) :
    Reclaimed config start after := by
  refine
    { grown := log ▸ reclaimed.grown
      further := freed ▸ reclaimed.further
      frames := ?_ }
  rw [World.reclaimedSince, log, freed, frames]
  exact reclaimed.frames

/-- The kernel completes an entry meanwhile. -/
theorem complete
    (reclaimed : Reclaimed config start world)
    (core : Core config world)
    {after : World}
    {entry : UInt64}
    (log : after.completion.log = world.completion.log ++ [entry])
    (taken : after.completion.taken = world.completion.taken)
    (done : after.aux.completionDone = world.aux.completionDone)
    (frames : after.allocator.frames = world.allocator.frames) :
    Reclaimed config start after := by
  have known := core.completionDone
  have stale := core.completion.stale
  refine
    { grown := ?_
      further := ?_
      frames := ?_ }
  · rw [log]
    exact reclaimed.grown.trans (List.prefix_append _ _)
  · rw [taken, done]
    exact reclaimed.further
  · rw [World.reclaimedSince, log, taken, done, frames,
      List.take_append_of_le_length (by omega)]
    exact reclaimed.frames

/-- Whatever the kernel does meanwhile. -/
theorem kernelStep
    (reclaimed : Reclaimed config start world)
    (core : Core config world)
    {admits : List UInt8 → Bool}
    {step : KernelStep}
    {after : World}
    (performed : step.perform config admits world = some after) :
    Reclaimed config start after := by
  obtain ⟨_, rfl⟩ := KernelStep.perform_eq_some.mp performed
  cases step with
  | complete desc =>
      exact reclaimed.complete core rfl rfl rfl rfl
  | _ =>
      exact reclaimed.congr rfl rfl rfl

/-- The kernel cannot falsify the account. -/
def account
    (rewrite : Rewrite)
    (admits : List UInt8 → Bool)
    (floor : Floor)
    (start : World) :
    Assertion (workerSetting config rewrite admits true floor) where
  holds :=
    Reclaimed config start
  stable := by
    rintro before after ⟨step, performed⟩ ⟨core, _⟩ reclaimed
    exact reclaimed.kernelStep core performed

/-- Freeing the next entry puts its frame on top of the stack. -/
theorem freeNext
    (reclaimed : Reclaimed config start world)
    (core : Core config world)
    (inWindow :
      world.completion.taken + world.aux.completionDone <
        world.completion.seen) :
    Reclaimed config start
      (Transmitter.freeCompleted config
        (stored
          (world.completion.taken + world.aux.completionDone))
        world) := by
  obtain ⟨addr, found, shown⟩ :=
    core.completion_entry (Nat.le_add_right _ _) inWindow
  have further := reclaimed.further
  have stale := core.completion.stale
  have longer :
      start.reclaimedSince
          (Transmitter.freeCompleted config
            (stored
              (world.completion.taken + world.aux.completionDone))
            world) =
        start.reclaimedSince world ++ [addr] := by
    change
      (world.completion.log.take
          (world.completion.taken +
            (world.aux.completionDone + 1))).drop _ =
        _
    rw [← Nat.add_assoc, List.take_add_one, found,
      List.drop_append_of_le_length
        (by rw [List.length_take]; omega)]
    rfl
  refine
    { grown := reclaimed.grown
      further := Nat.le_succ_of_le further
      frames := ?_ }
  rw [longer, List.map_append, List.reverse_append, List.append_assoc,
    ← reclaimed.frames, ← shown]
  rfl

/-- The publication reclaims nothing. -/
theorem publishStaged (reclaimed : Reclaimed config start world) :
    Reclaimed config start (Transmitter.publishStaged world) :=
  Transmitter.publishStaged_branches
    (fun _ => reclaimed.congr rfl rfl rfl)
    (fun _ => reclaimed.congr rfl rfl rfl)

/-- Every step of servicing TX keeps the account. -/
theorem serviceStep
    (reclaimed : Reclaimed config start world)
    (core : Core config world)
    {effect : World → World}
    (serviced : ServiceEffect config effect)
    {rewrite : Rewrite}
    {direct : Bool}
    (step : WorkerStep config rewrite direct world (effect world)) :
    Reclaimed config start (effect world) := by
  cases serviced with
  | freeCompleted index =>
      -- The step is one of the worker, so it frees the next entry.
      rcases step.frees with same | ⟨inWindow, next⟩
      · have grown :
            world.completion.taken + (world.aux.completionDone + 1) =
              world.completion.taken + world.aux.completionDone :=
          same
        omega
      · rw [next]
        exact reclaimed.freeNext core inWindow
  | releaseCompleted amount =>
      rcases step.frees with same | ⟨_, next⟩
      · exact reclaimed.congr rfl same rfl
      · have shorter :=
          congrArg (fun world => world.allocator.frames.length) next
        exact absurd shorter (Nat.ne_of_lt (Nat.lt_succ_self _))
  | _ =>
      exact reclaimed.congr rfl rfl rfl

end Reclaimed

/-! ## Publishing -/

/-- Publishing appends what is staged and nothing else. -/
theorem RingsInOrder.publishStaged_log
    {config : Config}
    {world : World}
    (rings : RingsInOrder config world) :
    (Transmitter.publishStaged world).tx.log =
      world.tx.log ++ world.txStaged := by
  refine Transmitter.publishStaged_branches ?_ ?_
  · intro _
    exact rings.txWindow.publish_log rings.tx
  · intro unused
    have none : world.txStaged.length = 0 :=
      rings.txWindow.staged_length.trans
        (congrArg UInt32.toNat (Transmitter.txUsed_eq_zero unused))
    rw [List.eq_nil_of_length_eq_zero none, List.append_nil]

/-- What was staged is on TX afterwards. -/
theorem RingsInOrder.publishStaged_published
    {config : Config}
    {world : World}
    (rings : RingsInOrder config world) :
    (Transmitter.publishStaged world).tx.ring.published =
      world.tx.ring.published ++ world.txStaged := by
  have taken :
      (Transmitter.publishStaged world).tx.taken = world.tx.taken :=
    Transmitter.publishStaged_branches (fun _ => rfl) (fun _ => rfl)
  rw [rings.publishStaged.tx.published_eq, rings.tx.published_eq,
    Channel.pending, Channel.pending, taken, rings.publishStaged_log,
    List.drop_append_of_le_length rings.tx.ordered]

/-- The staged descriptors, as their slots show them. -/
def World.stagedSlots (world : World) : List XdpDesc :=
  world.tx.ring.entriesFrom world.transmitter.txStart
    world.transmitter.txUsed.toNat

/--
The pass publishes at `atPublish`.  Until then only the kernel has acted; then
everything staged becomes visible, and nothing is published after it.
-/
structure PublishedOnce
    (start atPublish : World)
    (later : List World)
    (after : World) : Prop where
  before :
    atPublish.visible = start.visible
  visible :
    (Transmitter.publishStaged atPublish).tx.ring.published =
      atPublish.tx.ring.published ++ start.stagedSlots
  log :
    ∀ world ∈ after :: later,
      world.tx.log = start.tx.log ++ start.stagedSlots
  producer :
    ∀ world ∈ after :: later,
      world.tx.ring.producer =
        start.tx.ring.producer + start.transmitter.txUsed

/-- What the pass reclaims, in the order of the Completion ring. -/
structure Reclaims
    (config : Config)
    (start after : World)
    (reclaimed : List UInt64) : Prop where
  everything :
    start.completion.ring.published <+: reclaimed
  withinBudget :
    reclaimed.length ≤ 2 ^ config.completionOrder.val
  released :
    after.completion.ring.consumer =
      start.completion.ring.consumer + stored reclaimed.length
  freed :
    after.allocator.frames =
      (reclaimed.map (frameBase config.frameSize)).reverse ++
        start.allocator.frames

/-! ## Asking for progress -/

namespace Transmitter

/-- A pass from its publication up to its request, if it gets there. -/
def reclaimFirst (config : Config) : Task (UInt32 × UInt32) := do
  let _ ← Prog.ask fun world => world.transmitter.outstanding == 0
  let budget ← Prog.ask fun world => world.completion.ring.capacity
  let reaped ← reclaimCompletedFrames config budget
  let _ ← Prog.ask fun world => world.transmitter.outstanding == 0
  return (budget, reaped)

/-- A pass after its request. -/
def reclaimAgain
    (config : Config)
    (budget reaped : UInt32)
    (result : Option Errno) :
    Task Unit := do
  Prog.update (noteTxWakeup result)
  Prog.when (reaped < budget) do
    let _ ← reclaimCompletedFrames config (budget - reaped)
    return ()

end Transmitter

/-- After its publication the pass calls `request_tx_progress`. -/
inductive Requested
    (scenario : Scenario)
    (published : World)
    (later : List World)
    (after : World) : Prop where
  | intro
      {earlier attempt rest : List World}
      {before requested : World}
      {budget reaped : UInt32}
      {result : Option Errno}
      (shape : later = earlier ++ (attempt ++ rest))
      (first :
        Runs scenario.Interferes
          (Transmitter.reclaimFirst scenario.config)
          published earlier (budget, reaped) before)
      (request :
        Runs scenario.Interferes
          (Xsk.requestTxProgress scenario.config)
          before attempt result requested)
      (again :
        Runs scenario.Interferes
          (Transmitter.reclaimAgain scenario.config
            budget reaped result)
          requested rest () after) :
      Requested scenario published later after

section Requests

variable {scenario : Scenario}
variable {published after : World}

/-- The kernel does not touch the transmitter. -/
theorem transmitter_of_interference
    {before : World}
    (interference :
      Relation.ReflTransGen scenario.Interferes before after) :
    after.transmitter = before.transmitter := by
  induction interference with
  | refl =>
      rfl
  | tail _ last inductionHypothesis =>
      obtain ⟨step, performed⟩ := last
      rw [← inductionHypothesis]
      exact congrArg Own.transmitter (KernelStep.own_unchanged performed)

/-- A pass that ends early has found nothing outstanding. -/
theorem idle_of_ends
    {asked : List World}
    {middle : World}
    {moments : List World}
    (ask :
      Runs scenario.Interferes
        (Prog.ask fun world : World =>
          world.transmitter.outstanding == 0)
        published asked true middle)
    (ends :
      Runs scenario.Interferes (Prog.done ()) middle moments () after) :
    after.transmitter.outstanding = 0 := by
  obtain ⟨moment, _, _, isIdle, toMiddle⟩ := ask.act_inv
  obtain ⟨_, _, toAfter⟩ := ends.done_inv
  rw [transmitter_of_interference (toMiddle.trans toAfter)]
  exact beq_iff_eq.mp isIdle.symm

/-- A service pass asks for a wakeup if something is outstanding. -/
theorem serviceTx_requests
    {later : List World}
    (runs :
      Runs scenario.Interferes
        (Transmitter.serviceTx scenario.config)
        published later () after)
    (busy : after.transmitter.outstanding ≠ 0) :
    Requested scenario published later after := by
  obtain ⟨_, idle, _, _, firstAsk, afterAsk, rfl⟩ := runs.bind_inv
  cases idle with
  | true =>
      exact absurd (idle_of_ends firstAsk afterAsk) busy
  | false =>
      obtain ⟨_, budget, _, _, askBudget, afterBudget, rfl⟩ :=
        afterAsk.bind_inv
      obtain ⟨_, reaped, _, _, reclaim, afterReclaim, rfl⟩ :=
        afterBudget.bind_inv
      obtain ⟨_, idle, _, _, secondAsk, afterSecond, rfl⟩ :=
        afterReclaim.bind_inv
      cases idle with
      | true =>
          exact absurd (idle_of_ends secondAsk afterSecond) busy
      | false =>
          obtain ⟨_, result, _, _, request, again, rfl⟩ :=
            afterSecond.bind_inv
          refine .intro ?_
            (firstAsk.bind (askBudget.bind (reclaim.bind
              (secondAsk.bind (.done _ _)))))
            request again
          simp only [List.append_assoc, List.append_nil]

end Requests

/-! ## The whole pass -/

/-- What holds from the publication of a pass to its end. -/
structure InService
    (config : Config)
    (start published world : World) : Prop where
  log :
    world.tx.log = published.tx.log
  producer :
    world.tx.ring.producer = published.tx.ring.producer
  reclaimed :
    Reclaimed config start world

namespace InService

variable {config : Config}
variable {start published world : World}

/-- The kernel may take and complete entries during the pass. -/
theorem kernelStep
    (inService : InService config start published world)
    (core : Core config world)
    {admits : List UInt8 → Bool}
    {step : KernelStep}
    {after : World}
    (performed : step.perform config admits world = some after) :
    InService config start published after where
  log :=
    (congrArg Staging.txLog
      (KernelStep.staging_unchanged performed)).trans inService.log
  producer :=
    (congrArg Visible.txProducer
      (KernelStep.visible_unchanged performed)).trans
        inService.producer
  reclaimed :=
    inService.reclaimed.kernelStep core performed

/-- A service effect reclaims, or asks for a wakeup. -/
theorem serviceStep
    (inService : InService config start published world)
    (core : Core config world)
    {effect : World → World}
    (serviced : ServiceEffect config effect)
    {rewrite : Rewrite}
    {direct : Bool}
    (step : WorkerStep config rewrite direct world (effect world)) :
    InService config start published (effect world) := by
  have reclaimed :=
    inService.reclaimed.serviceStep core serviced step
  cases serviced <;> exact { inService with reclaimed := reclaimed }

end InService

/-- The account of a finished pass. -/
theorem Reclaimed.reclaims
    {config : Config}
    {start after : World}
    (reclaimed : Reclaimed config start after)
    (startCore : Core config start)
    (core : Core config after)
    (settled : after.aux.completionDone = 0)
    (reached : start.completion.log.length ≤ after.completion.taken)
    (withinBudget :
      after.completion.taken ≤
        start.completion.taken + 2 ^ config.completionOrder.val) :
    Reclaims config start after (start.reclaimedSince after) := by
  have ordered := core.completion.ordered
  have further := reclaimed.further
  rw [settled, Nat.add_zero] at further
  have length :
      (start.reclaimedSince after).length =
        after.completion.taken - start.completion.taken := by
    rw [World.reclaimedSince, settled, List.length_drop,
      List.length_take]
    omega
  refine
    { everything := ?_
      withinBudget := by omega
      released := ?_
      freed := reclaimed.frames }
  · rw [startCore.completion.published_eq, Channel.pending,
      World.reclaimedSince, settled]
    refine List.IsPrefix.drop ?_ _
    exact List.prefix_take_iff.mpr ⟨reclaimed.grown, reached⟩
  · rw [core.completion.consumer, startCore.completion.consumer,
      length, stored_add_stored, Nat.add_sub_of_le further]

/-- Whatever is reclaimed is in the allocator. -/
theorem Reclaims.inAllocator
    {config : Config}
    {start after : World}
    {reclaimed : List UInt64}
    (reclaims : Reclaims config start after reclaimed)
    {addr : UInt64}
    (complete : addr ∈ start.completion.ring.published) :
    frameBase config.frameSize addr ∈ after.allocator.frames := by
  rw [reclaims.freed]
  refine List.mem_append_left _ (List.mem_reverse.mpr ?_)
  exact List.mem_map_of_mem (reclaims.everything.subset complete)

section Pass

variable {scenario : Scenario}
variable {start atPublish after : World}
variable {later : List World}

/-- Publishing after steps of the kernel shows what was staged before them. -/
theorem Waited.publishStaged_log
    {config : Config}
    (waited : Waited config start atPublish) :
    (Transmitter.publishStaged atPublish).tx.log =
      start.tx.log ++ start.txStaged := by
  rw [waited.rings.publishStaged_log, waited.txStaged, waited.log]

/-- If nothing is published later, the pass publishes what was staged. -/
theorem Waited.publishedOnce
    {config : Config}
    (core : Core config start)
    (waited : Waited config start atPublish)
    (quiet :
      ∀ world ∈ after :: later,
        InService config start
          (Transmitter.publishStaged atPublish) world) :
    PublishedOnce start atPublish later after := by
  have staged : start.stagedSlots = start.txStaged :=
    core.txWindow_entries
  have log := waited.publishStaged_log
  have producer :
      (Transmitter.publishStaged atPublish).tx.ring.producer =
        start.tx.ring.producer + start.transmitter.txUsed := by
    rw [waited.rings.publishStaged.tx.producer, log,
      List.length_append, World.txStaged, core.txWindow.staged_length,
      core.tx.producer, stored_add]
  exact
    { before := waited.visible
      visible := by
        rw [waited.rings.publishStaged_published, waited.txStaged,
          staged]
      log := fun world member => by
        rw [(quiet world member).log, log, staged]
      producer := fun world member => by
        rw [(quiet world member).producer, producer] }

/-- Nothing is published and nothing gets lost in the rest of a pass. -/
theorem serviceTx_inService
    {floor : Floor}
    {published : World}
    {post :
      Unit →
        Assertion
          (workerSetting scenario.config scenario.rewrite
            scenario.admits true floor)}
    (runs :
      Runs scenario.Interferes
        (Transmitter.serviceTx scenario.config)
        published later () after)
    (invariant :
      Core scenario.config published ∧ floor.Reached published)
    (promise :
      Guaranteed
        (workerSetting scenario.config scenario.rewrite
          scenario.admits true floor)
        post (Transmitter.serviceTx scenario.config) published)
    (reclaimed : Reclaimed scenario.config start published) :
    ∀ world ∈ after :: later,
      InService scenario.config start published world := by
  obtain ⟨atEnd, atMoments⟩ :
      InService scenario.config start published after ∧
        ∀ moment ∈ later,
          InService scenario.config start published moment := by
    refine Runs.preserves (InService scenario.config start published)
      ?_ ?_ runs serviceTx_uses invariant promise
      { log := rfl
        producer := rfl
        reclaimed := reclaimed }
    · rintro before after ⟨step, performed⟩ ⟨core, _⟩ inService
      exact inService.kernelStep core performed
    · rintro effect world serviced ⟨core, _⟩ step inService
      exact inService.serviceStep core serviced step
  intro world member
  rcases List.mem_cons.mp member with rfl | isMoment
  · exact atEnd
  · exact atMoments world isMoment

/-- What a pass does from any state between two operations. -/
theorem publishAndServiceTx_run
    {moments : List World}
    (core : Core scenario.config start)
    (idle : ClientIdle start.own)
    (runs :
      Runs scenario.Interferes
        (Transmitter.publishAndServiceTx scenario.config)
        start moments () after) :
    ∃ atPublish later reclaimed,
      moments = atPublish :: later ∧
        PublishedOnce start atPublish later after ∧
        Reclaims scenario.config start after reclaimed ∧
        (after.transmitter.outstanding ≠ 0 →
          Requested scenario (Transmitter.publishStaged atPublish)
            later after) := by
  let floor : Floor :=
    { completed := start.completion.log.length
      filled := 0 }
  let setting :=
    workerSetting scenario.config scenario.rewrite scenario.admits
      true floor
  have invariant : setting.invariant start :=
    ⟨core, { completed := Nat.le_refl _, filled := Nat.zero_le _ }⟩
  have meets :
      Meets setting (· = start.own)
        (Transmitter.publishAndServiceTx scenario.config) _ :=
    publishAndServiceTx_meets idle.completionDone idle.current
      idle.sendtoNoted core.completion.bounded
  have promise := meets start invariant rfl
  obtain ⟨⟨afterCore, _⟩, serviced, withinBudget⟩ :=
    Runs.keeps runs invariant promise
  rw [Transmitter.publishAndServiceTx_eq] at runs promise
  obtain ⟨atPublish, later, reached, shape, rest⟩ := runs.step_inv
  obtain ⟨publishedInvariant, _, restPromise⟩ :=
    promise atPublish reached
  have waited := Waited.of_interference core.ringsInOrder reached
  obtain ⟨_, untouched⟩ :=
    Setting.interference_keeps
      (Reclaimed.account scenario.rewrite scenario.admits floor start)
      reached invariant (.refl idle.completionDone)
  have inService :=
    serviceTx_inService rest publishedInvariant restPromise
      untouched.publishStaged
  have settled : after.aux.completionDone = 0 :=
    serviced.completionDone_eq.trans idle.completionDone
  have reclaims :=
    (inService after List.mem_cons_self).reclaimed.reclaims
      core afterCore settled serviced.completed withinBudget
  exact ⟨atPublish, later, _, shape,
    waited.publishedOnce core inService, reclaims,
    serviceTx_requests rest⟩

end Pass

namespace Scenario

/--
From every reachable state `publish_and_service_tx` returns.  It publishes what
is staged once, before it reclaims anything; it reclaims everything that was
complete when it was called, and at most one Completion ring in all; what it
reclaims is in the allocator; and if something is still outstanding, it has
asked the kernel for progress after its publication.
-/
theorem publish_and_service_tx_reclaims
    (scenario : Scenario)
    {events : List (Event ClientCall KernelStep)}
    {final : Configuration World}
    (reaches : scenario.ClientReaches events final)
    (boundary : final.AtBoundary) :
    (∃ moments after,
        Runs scenario.Interferes
          (Transmitter.publishAndServiceTx scenario.config)
          final.state moments () after) ∧
      ∀ moments after,
        Runs scenario.Interferes
            (Transmitter.publishAndServiceTx scenario.config)
            final.state moments () after →
          ∃ atPublish later reclaimed,
            moments = atPublish :: later ∧
              PublishedOnce final.state atPublish later after ∧
              Reclaims scenario.config final.state after reclaimed ∧
              (∀ addr ∈ final.state.completion.ring.published,
                frameBase scenario.config.frameSize addr ∈
                  after.allocator.frames) ∧
              (after.transmitter.outstanding ≠ 0 →
                Requested scenario
                  (Transmitter.publishStaged atPublish)
                  later after) := by
  have sound := clientReaches_sound reaches
  have idle := sound.between_holds boundary
  refine ⟨?_, ?_⟩
  · obtain ⟨moments, _, after, runs⟩ :=
      Runs.total scenario.Interferes
        (Transmitter.publishAndServiceTx scenario.config) final.state
    exact ⟨moments, after, runs⟩
  · intro moments after runs
    obtain ⟨atPublish, later, reclaimed, shape, published, reclaims,
        requested⟩ :=
      publishAndServiceTx_run sound.invariant.1 idle runs
    exact ⟨atPublish, later, reclaimed, shape, published, reclaims,
      fun _ => reclaims.inAllocator, requested⟩

/-- Two frames were sent, and one of them is complete. -/
def oneComplete : List (Event ClientCall KernelStep) :=
  List.flatten
    [[.call .refillFill],
      List.replicate 4 .work,
      [.env .takeFill,
        .env .takeFill,
        .env (.dma 64 0 samplePacket),
        .env (.deliver { addr := 64, len := 42, options := 0 }),
        .env (.dma 0 0 samplePacket),
        .env (.deliver { addr := 0, len := 42, options := 0 }),
        .call (.receive 2)],
      List.replicate 4 .work,
      [.call (.sendInPlace 64 42)],
      List.replicate 3 .work,
      [.call (.sendInPlace 0 42)],
      List.replicate 3 .work,
      [.call .publishAndServiceTx],
      List.replicate 9 .work,
      [.env .takeTx,
        .env .takeTx,
        .env (.complete { addr := 64, len := 42, options := 0 })]]

/-- One frame comes back; for the other one the kernel is asked. -/
theorem publish_and_service_tx_reclaims_sample :
    ∃ final moments after,
      sample.ClientReaches oneComplete final ∧
        final.AtBoundary ∧
        final.state.completion.ring.published = [64] ∧
        Runs sample.Interferes
          (Transmitter.publishAndServiceTx sample.config)
          final.state moments () after ∧
        64 ∈ after.allocator.frames ∧
        ∃ published later,
          Requested sample published later after := by
  obtain ⟨final, reaches, boundary, complete, moments, after, runs,
      busy⟩ :
      ∃ final,
        sample.ClientReaches oneComplete final ∧
          final.AtBoundary ∧
          final.state.completion.ring.published = [64] ∧
          ∃ moments after,
            Runs sample.Interferes
                (Transmitter.publishAndServiceTx sample.config)
                final.state moments () after ∧
              after.transmitter.outstanding = 1 :=
    ⟨_, rfl, rfl, rfl, _, _,
      .step (.step (.step (.step (.step (.step (.step (.step
        (.step (.step (.step (.step (.done _ _)))))))))))), rfl⟩
  obtain ⟨_, later, _, _, _, _, freed, requested⟩ :=
    (publish_and_service_tx_reclaims sample reaches boundary).2
      moments after runs
  refine ⟨final, moments, after, reaches, boundary, complete, runs,
    freed 64 ?_, _, later, requested ?_⟩
  · rw [complete]
    exact List.mem_singleton_self 64
  · rw [busy]
    decide

end Scenario

end AfXdp
