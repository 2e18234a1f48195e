import AfXdp.Counters
import AfXdp.RunReceiverExit

namespace AfXdp

open TextStream

/-!
# Which callbacks are in the samples

The worker asks before each callback whether to time it, `main` opens the
window once from the other thread, and after the join the buffer is sorted and
exported.  The auxiliary list of all callbacks with their times says what the
buffer is to be compared with.
-/

/-! ## Callbacks -/

/-- A callback has begun and has not ended. -/
def World.inCallback (world : World) : Bool :=
  world.aux.current.any fun inFlight => !inFlight.untouched

/-- What a step of the worker means to the callbacks. -/
inductive CallbackStep (before after : World) : Prop where
  | begun
      (outside : before.inCallback = false)
      (counted : after.bench.callbacks ≠ before.bench.callbacks)
      (verdicts : after.aux.verdicts = before.aux.verdicts)
      (inside : after.inCallback = true) :
      CallbackStep before after
  | ended
      (inside : before.inCallback = true)
      (counted : after.bench.callbacks = before.bench.callbacks)
      (verdicts :
        after.aux.verdicts.length = before.aux.verdicts.length + 1)
      (outside : after.inCallback = false) :
      CallbackStep before after
  | other
      (counted : after.bench.callbacks = before.bench.callbacks)
      (verdicts : after.aux.verdicts = before.aux.verdicts)
      (same : after.inCallback = before.inCallback) :
      CallbackStep before after

section Callbacks

variable {config : Config}
variable {rewrite : Rewrite}
variable {before after : World}

/-- A calm effect neither begins nor ends a callback. -/
theorem CallbackStep.of_calm
    {effect : World → World}
    (calm : Calm effect)
    (world : World) :
    CallbackStep world (effect world) := by
  obtain ⟨_, bench, verdicts, current⟩ := calm world
  exact .other (congrArg BenchStats.callbacks bench) verdicts
    (by rw [World.inCallback, current]; rfl)

/-- A callback has begun once its packet was touched. -/
theorem inCallback_of
    {world : World}
    {inFlight : InFlight}
    (current : world.aux.current = some inFlight) :
    world.inCallback = !inFlight.untouched := by
  rw [World.inCallback, current]
  rfl

/-- The packet in work moves on. -/
theorem inCallback_progress
    {inFlight : InFlight}
    (next : Progress → Progress)
    (current : before.aux.current = some inFlight)
    (moved :
      after.aux.current =
        before.aux.current.map fun inFlight =>
          { inFlight with progress := next inFlight.progress }) :
    after.inCallback = !decide (next inFlight.progress = .taken) := by
  rw [current] at moved
  exact inCallback_of moved

/-- Every step of the worker begins a callback, ends one, or does neither. -/
theorem WorkerStep.callback
    (step : WorkerStep config rewrite false before after) :
    CallbackStep before after := by
  cases step with
  | openPacket current =>
      refine .begun ?_ ?_ rfl ?_
      · rw [World.inCallback, current]
        rfl
      · intro same
        change before.bench.callbacks + 1 = before.bench.callbacks at same
        simp at same
      · exact inCallback_progress (fun _ => .opened) current rfl
  | settle current =>
      refine .ended ?_ rfl ?_ rfl
      · rw [World.inCallback, current]
        split <;> rfl
      · simp [Main.settle]
  | takeDesc _ _ isDirect =>
      cases isDirect
  | handOut next inWindow between =>
      refine .other rfl rfl ?_
      simp [World.inCallback, Receiver.handOut, between,
        InFlight.untouched]
  | rejectFrame offering =>
      obtain ⟨packet, output, current, _⟩ := offering
      refine .other rfl rfl ?_
      rw [inCallback_of current]
      exact inCallback_progress (Progress.offer false) current rfl
  | stage _ _ _ offering =>
      obtain ⟨packet, output, current, _⟩ := offering
      refine .other rfl rfl ?_
      rw [inCallback_of current]
      exact inCallback_progress (Progress.offer true) current rfl
  | rewritePacket current =>
      refine .other rfl rfl ?_
      rw [inCallback_of current]
      exact inCallback_progress (fun _ => .decided _ _) current rfl
  | fillPush =>
      exact Xsk.fillPush_branches (.other rfl rfl rfl)
        fun _ _ => .other rfl rfl rfl
  | reserve =>
      exact Transmitter.reserve_branches (.other rfl rfl rfl)
        (.other rfl rfl rfl)
  | refresh =>
      exact Transmitter.refresh_branches (.other rfl rfl rfl)
        (.other rfl rfl rfl)
  | publishStaged =>
      exact .of_calm publishStaged_calm before
  | _ =>
      exact .other rfl rfl rfl

end Callbacks

/-! ## What a step does with the samples -/

namespace MainPc

/-- The buffer is sorted, and `main` goes on to its end. -/
def sorted : MainPc → Bool
  | .exporting | .describing =>
      true
  | _ =>
      false

/-- The export has been tried. -/
def exported : MainPc → Bool
  | .describing | .finished _ =>
      true
  | _ =>
      false

end MainPc

/-- The buffer and the callbacks are as before. -/
structure Process.Untimed (before after : Process) : Prop where
  samples : after.samples = before.samples
  timed : after.timed = before.timed
  opened : after.opened = before.opened
  spans : after.spans = before.spans
  verdicts : after.world.aux.verdicts = before.world.aux.verdicts
  current : after.world.aux.current = before.world.aux.current

/-- The export is as before. -/
structure Process.Unexported (before after : Process) : Prop where
  csv : after.csv = before.csv
  csvExported : after.run.csvExported = before.run.csvExported
  samplesRecorded :
    after.run.samplesRecorded = before.run.samplesRecorded
  calibration :
    after.calibration = before.calibration ∨
      before.main = .checkingStartup
  exported : before.main.exported = true → after.main.exported = true
  sorted : after.main.sorted = true → before.main.sorted = true

/-- What one step does with the buffer, the callbacks and the export. -/
inductive Deployment.SampleMove
    (deployment : Deployment)
    (before after : Process) : Prop where
  | aside
      (same : before.Untimed after)
      (kept : before.Unexported after) :
      SampleMove deployment before after
  | worked
      (clocked : before.Clocked after)
      (frame : before.WorkerFrame after) :
      SampleMove deployment before after
  | opened
      (same : { before with samples := before.samples.start }.Untimed after)
      (kept : before.Unexported after) :
      SampleMove deployment before after
  | sorted
      (at_ : before.main = .sorting)
      (same :
        { before with
          samples :=
            (before.samples.report before.calibration.nsPerTick).2 }
          |>.Untimed after)
      (unexported : after.run.csvExported = before.run.csvExported) :
      SampleMove deployment before after
  | exported
      (answer : MainAnswer)
      (at_ : before.main = .exporting)
      (moved : after = deployment.exportSamples answer before) :
      SampleMove deployment before after

namespace Process

variable {before after : Process}

/-- Nothing of this has changed. -/
theorem Untimed.of_same
    (samples : after.samples = before.samples)
    (callback :
      after.timed = before.timed ∧ after.opened = before.opened ∧
        after.spans = before.spans)
    (aux : after.world.aux = before.world.aux) :
    before.Untimed after where
  samples := samples
  timed := callback.1
  opened := callback.2.1
  spans := callback.2.2
  verdicts := congrArg Aux.verdicts aux
  current := congrArg Aux.current aux

/-- `main` goes from one place before the end to another. -/
theorem Unexported.of_main
    {pc : MainPc}
    (at_ : before.main = pc)
    (export_ :
      after.csv = before.csv ∧
        after.run.csvExported = before.run.csvExported ∧
        after.run.samplesRecorded = before.run.samplesRecorded ∧
        after.calibration = before.calibration)
    (ongoing : pc.exported = false)
    (unsorted : after.main.sorted = false) :
    before.Unexported after where
  csv := export_.1
  csvExported := export_.2.1
  samplesRecorded := export_.2.2.1
  calibration := .inl export_.2.2.2
  exported done := by
    rw [at_, ongoing] at done
    cases done
  sorted late := by
    rw [unsorted] at late
    cases late

end Process

namespace Deployment

variable {deployment : Deployment}
variable {before after : Process}

/-- A step of `main` that has nothing to do with the samples. -/
theorem SampleMove.of_main
    {pc : MainPc}
    (at_ : before.main = pc)
    (samples : after.samples = before.samples)
    (callback :
      after.timed = before.timed ∧ after.opened = before.opened ∧
        after.spans = before.spans)
    (aux : after.world.aux = before.world.aux)
    (export_ :
      after.csv = before.csv ∧
        after.run.csvExported = before.run.csvExported ∧
        after.run.samplesRecorded = before.run.samplesRecorded ∧
        after.calibration = before.calibration)
    (ongoing : pc.exported = false)
    (unsorted : after.main.sorted = false) :
    deployment.SampleMove before after :=
  .aside (.of_same samples callback aux)
    (.of_main at_ export_ ongoing unsorted)

/-- A wakeup of the worker is no matter of the samples. -/
theorem notifyActivated_samples
    {pc next : MainPc}
    (at_ : before.main = pc)
    (ongoing : pc.exported = false)
    (unsorted : next.sorted = false) :
    deployment.SampleMove before
      { before.notifyActivated with main := next } := by
  unfold Process.notifyActivated
  split
  · exact .of_main at_ rfl ⟨rfl, rfl, rfl⟩ rfl ⟨rfl, rfl, rfl, rfl⟩
      ongoing unsorted
  · exact .of_main at_ rfl ⟨rfl, rfl, rfl⟩ rfl ⟨rfl, rfl, rfl, rfl⟩
      ongoing unsorted

/-- Nor is a control round. -/
theorem judge_samples
    {rejected : UInt64}
    {answer : MainAnswer}
    (at_ : before.main = .judging rejected) :
    deployment.SampleMove before (judge rejected answer before) := by
  obtain ⟨csv, _, recorded⟩ :=
    before.run.noteKernelStats_others (Xsk.kernelStats answer.statistics)
  unfold judge
  dsimp only
  split
  · split
    · exact .of_main at_ rfl ⟨rfl, rfl, rfl⟩ rfl
        ⟨rfl, csv, recorded, rfl⟩ rfl rfl
    · exact .of_main at_ rfl ⟨rfl, rfl, rfl⟩ rfl
        ⟨rfl, csv, recorded, rfl⟩ rfl rfl
  · exact .of_main at_ rfl ⟨rfl, rfl, rfl⟩ rfl
      ⟨rfl, csv, recorded, rfl⟩ rfl rfl

/-- `main` is inside code on the packet objects, outside callbacks. -/
theorem calm_samples
    {pc : MainPc}
    {effect : World → World}
    (calm : Calm effect)
    (at_ : before.main = pc)
    (ongoing : pc.exported = false)
    (unsorted : pc.sorted = false)
    (code : Code) :
    deployment.SampleMove before
      { before with
        world := effect before.world
        code := code
        main := pc } := by
  obtain ⟨_, _, verdicts, current⟩ := calm before.world
  refine .aside ?_
    (.of_main at_ ⟨rfl, rfl, rfl, rfl⟩ ongoing unsorted)
  exact
    { samples := rfl
      timed := rfl
      opened := rfl
      spans := rfl
      verdicts := verdicts
      current := current }

/-- Three steps of `main` are: the opening, the sorting and the export. -/
theorem mainStep_samples
    {answer : MainAnswer}
    (inCode : before.InCode)
    (stepped : deployment.mainStep answer before = some after) :
    deployment.SampleMove before after := by
  cases at_ : before.main with
  | filling =>
      obtain ⟨rest, code, uses⟩ := inCode.filling at_
      rw [mainStep, at_, code] at stepped
      cases rest with
      | step effect later =>
          cases stepped
          exact calm_samples uses.1 at_ rfl rfl _
      | done result =>
          cases stepped
          exact .of_main at_ rfl ⟨rfl, rfl, rfl⟩ rfl ⟨rfl, rfl, rfl, rfl⟩
            rfl rfl
  | draining =>
      obtain ⟨rest, code, uses⟩ := inCode.draining at_
      rw [mainStep, at_, code] at stepped
      cases rest with
      | step effect later =>
          cases stepped
          exact calm_samples uses.1 at_ rfl rfl _
      | done remaining =>
          dsimp only at stepped
          split at stepped
          · cases stepped
            exact .of_main at_ rfl ⟨rfl, rfl, rfl⟩ rfl
              ⟨rfl, rfl, rfl, rfl⟩ rfl rfl
          · split at stepped
            · cases stepped
              exact .of_main at_ rfl ⟨rfl, rfl, rfl⟩ rfl
                ⟨rfl, rfl, rfl, rfl⟩ rfl rfl
            · cases stepped
              exact .of_main at_ rfl ⟨rfl, rfl, rfl⟩ rfl
                ⟨rfl, rfl, rfl, rfl⟩ rfl rfl
  | opening now =>
      rw [mainStep, at_] at stepped
      cases stepped
      exact .opened (.of_same rfl ⟨rfl, rfl, rfl⟩ rfl)
        (.of_main at_ ⟨rfl, rfl, rfl, rfl⟩ rfl rfl)
  | sorting =>
      rw [mainStep, at_] at stepped
      dsimp only at stepped
      split at stepped
      · cases stepped
        exact .of_main at_ rfl ⟨rfl, rfl, rfl⟩ rfl ⟨rfl, rfl, rfl, rfl⟩
          rfl rfl
      · cases stepped
        exact .sorted at_ (.of_same rfl ⟨rfl, rfl, rfl⟩ rfl) rfl
  | exporting =>
      rw [mainStep, at_] at stepped
      cases stepped
      exact .exported answer at_ rfl
  | describing =>
      rw [mainStep, at_] at stepped
      cases stepped
      unfold describeRun
      dsimp only
      split
      · exact .aside (.of_same rfl ⟨rfl, rfl, rfl⟩ rfl)
          ⟨rfl, rfl, rfl, .inl rfl, fun _ => rfl,
            fun late => by cases late⟩
      · exact .aside (.of_same rfl ⟨rfl, rfl, rfl⟩ rfl)
          ⟨rfl, rfl, rfl, .inl rfl, fun _ => rfl,
            fun late => by cases late⟩
  | checkingStartup =>
      rw [mainStep, at_] at stepped
      dsimp only at stepped
      split at stepped
      · cases stepped
        exact .of_main at_ rfl ⟨rfl, rfl, rfl⟩ rfl ⟨rfl, rfl, rfl, rfl⟩
          rfl rfl
      · cases stepped
        refine .aside (.of_same rfl ⟨rfl, rfl, rfl⟩ rfl)
          ⟨rfl, rfl, rfl, .inr at_, ?_, fun late => by cases late⟩
        rw [at_]
        intro late
        cases late
  | judging rejected =>
      rw [mainStep, at_] at stepped
      cases stepped
      exact judge_samples at_
  | notifying =>
      rw [mainStep, at_] at stepped
      cases stepped
      exact notifyActivated_samples at_ rfl rfl
  | waking exit =>
      rw [mainStep, at_] at stepped
      cases stepped
      exact notifyActivated_samples at_ rfl rfl
  | creatingLoader =>
      rw [mainStep, at_] at stepped
      dsimp only at stepped
      split at stepped
      · cases stepped
        exact .of_main at_ rfl ⟨rfl, rfl, rfl⟩ rfl ⟨rfl, rfl, rfl, rfl⟩
          rfl rfl
      · cases stepped
        exact .of_main at_ rfl ⟨rfl, rfl, rfl⟩ rfl ⟨rfl, rfl, rfl, rfl⟩
          rfl rfl
  | cutting =>
      rw [mainStep, at_] at stepped
      obtain ⟨loader, _, rfl⟩ := Option.map_eq_some_iff.mp stepped
      unfold cutRedirect
      dsimp only
      split
      · exact .of_main at_ rfl ⟨rfl, rfl, rfl⟩ rfl ⟨rfl, rfl, rfl, rfl⟩
          rfl rfl
      · split
        · exact .of_main at_ rfl ⟨rfl, rfl, rfl⟩ rfl
            ⟨rfl, rfl, rfl, rfl⟩ rfl rfl
        · exact .of_main at_ rfl ⟨rfl, rfl, rfl⟩ rfl
            ⟨rfl, rfl, rfl, rfl⟩ rfl rfl
  | detaching remaining =>
      rw [mainStep, at_] at stepped
      obtain ⟨loader, _, rfl⟩ := Option.map_eq_some_iff.mp stepped
      unfold detachProgram
      dsimp only
      split
      · exact .of_main at_ rfl ⟨rfl, rfl, rfl⟩ rfl ⟨rfl, rfl, rfl, rfl⟩
          rfl rfl
      · exact .of_main at_ rfl ⟨rfl, rfl, rfl⟩ rfl ⟨rfl, rfl, rfl, rfl⟩
          rfl rfl
  | summarizing remaining =>
      rw [mainStep, at_] at stepped
      cases stepped
      obtain ⟨csv, _, recorded⟩ :=
        before.run.noteKernelStats_others
          (Xsk.kernelStats answer.statistics)
      exact .of_main at_ rfl ⟨rfl, rfl, rfl⟩ rfl
        ⟨rfl, csv, recorded, rfl⟩ rfl rfl
  | leaving exit =>
      rw [mainStep, at_] at stepped
      cases stepped
      cases exit with
      | none =>
          exact .of_main at_ rfl ⟨rfl, rfl, rfl⟩ rfl
            ⟨rfl, rfl, rfl, rfl⟩ rfl rfl
      | some exit =>
          exact .of_main at_ rfl ⟨rfl, rfl, rfl⟩ rfl
            ⟨rfl, rfl, rfl, rfl⟩ rfl rfl
  | activating | sleeping | unblocking exit =>
      rw [mainStep, at_] at stepped
      cases stepped
      exact .of_main at_ rfl ⟨rfl, rfl, rfl⟩ rfl ⟨rfl, rfl, rfl, rfl⟩
        rfl rfl
  | spawning | checkingStop | choosing | looping | announcing
  | warming now | reporting | stopping | requesting exit =>
      rw [mainStep, at_] at stepped
      dsimp only at stepped
      split at stepped
      · cases stepped
        exact .of_main at_ rfl ⟨rfl, rfl, rfl⟩ rfl ⟨rfl, rfl, rfl, rfl⟩
          rfl rfl
      · cases stepped
        exact .of_main at_ rfl ⟨rfl, rfl, rfl⟩ rfl ⟨rfl, rfl, rfl, rfl⟩
          rfl rfl
  | awaitingPrepared asleep =>
      rw [mainStep, at_] at stepped
      cases asleep with
      | true =>
          cases stepped
      | false =>
          dsimp only at stepped
          split at stepped
          · cases stepped
            exact .of_main at_ rfl ⟨rfl, rfl, rfl⟩ rfl
              ⟨rfl, rfl, rfl, rfl⟩ rfl rfl
          · cases stepped
            exact .of_main at_ rfl ⟨rfl, rfl, rfl⟩ rfl
              ⟨rfl, rfl, rfl, rfl⟩ rfl rfl
  | joining exit =>
      rw [mainStep, at_] at stepped
      dsimp only at stepped
      split at stepped
      · cases exit with
        | none =>
            cases stepped
            exact .of_main at_ rfl ⟨rfl, rfl, rfl⟩ rfl
              ⟨rfl, rfl, rfl, rfl⟩ rfl rfl
        | some exit =>
            cases stepped
            exact .of_main at_ rfl ⟨rfl, rfl, rfl⟩ rfl
              ⟨rfl, rfl, rfl, rfl⟩ rfl rfl
      · cases stepped
  | finished exit =>
      rw [mainStep, at_] at stepped
      cases stepped

/-- A step of the worker exports nothing. -/
theorem frame_unexported
    (frame : before.WorkerFrame after) :
    before.Unexported after := by
  obtain ⟨policy, priority, run⟩ := frame.run
  refine ⟨frame.csv, ?_, ?_, .inl frame.calibration, ?_, ?_⟩
  · rw [run]
  · rw [run]
  · rcases frame.main with same | ⟨asleep, _⟩
    · rw [same]
      exact id
    · rw [asleep]
      nofun
  · rcases frame.main with same | ⟨_, awake⟩
    · rw [same]
      exact id
    · rw [awake]
      nofun

/-- It records at most one sample. -/
theorem frame_samples
    (frame : before.WorkerFrame after) :
    deployment.SampleMove before after := by
  rcases frame.packets with unclocked | clocked
  · refine .aside ?_ (frame_unexported frame)
    exact .of_same unclocked.samples
      ⟨unclocked.timed, unclocked.opened, unclocked.spans⟩
      (congrArg World.aux unclocked.world)
  · exact .worked clocked frame

/-- Nobody else does anything with the samples. -/
theorem step_samples
    {event : ProcessEvent}
    (inCode : before.InCode)
    (stepped : deployment.step event before = some after) :
    deployment.SampleMove before after := by
  have unmoved
      {process : Process}
      (csv : process.csv = before.csv)
      (run : process.run = before.run)
      (calibration : process.calibration = before.calibration)
      (main : process.main = before.main) :
      before.Unexported process := by
    refine ⟨csv, ?_, ?_, .inl calibration, ?_, ?_⟩
    · rw [run]
    · rw [run]
    · rw [main]
      exact id
    · rw [main]
      exact id
  cases event with
  | main answer =>
      exact mainStep_samples inCode stepped
  | worker answer =>
      exact frame_samples (workerStep_frame stepped)
  | signal =>
      cases stepped
      exact .aside (.of_same rfl ⟨rfl, rfl, rfl⟩ rfl)
        (unmoved rfl rfl rfl rfl)
  | kernel kernelStep =>
      obtain ⟨world, performed, rfl⟩ := Option.map_eq_some_iff.mp stepped
      obtain ⟨_, rfl⟩ := KernelStep.perform_eq_some.mp performed
      have aux :
          (kernelStep.effect deployment.scenario.config
            before.world).aux = before.world.aux := by
        cases kernelStep <;> rfl
      exact .aside (.of_same rfl ⟨rfl, rfl, rfl⟩ aux)
        (unmoved rfl rfl rfl rfl)
  | wakeMain =>
      cases stepped
      exact frame_samples (.notifyPrepared before)
  | wakeWorker =>
      cases stepped
      exact frame_samples (.notifyActivated before)

end Deployment

/-! ## The samples are the first callbacks of the window -/

/-- The difference of the two time stamps. -/
def Span.duration (span : Span) : UInt64 :=
  span.ended - span.began

namespace Process

/-- How long the callbacks took that began in the window, in order. -/
def windowed (process : Process) : List UInt64 :=
  (process.spans.filter Span.windowOpen).map Span.duration

/-- The time stamp that the callback in progress keeps. -/
def timestamp (process : Process) : Option UInt64 :=
  process.opened.bind fun start =>
    if start.2 ∧
        process.samples.recorded.length < process.samples.capacity then
      some start.1
    else
      none

/-- What the buffer holds, and what the flags say about the callbacks. -/
structure Sampled (process : Process) : Prop where
  capacity :
    process.samples.capacity = Main.sampleCapacity
  undropped :
    process.samples.dropped = 0
  complete :
    process.spans.length = process.world.aux.verdicts.length
  inside :
    process.opened.isSome = process.world.inCallback
  timed :
    process.timed = process.timestamp
  enabled :
    (∃ span, span ∈ process.spans ∧ span.windowOpen = true) ∨
      (∃ began, process.opened = some (began, true)) →
    process.samples.enabled = true
  ordered :
    process.spans.Pairwise fun first second =>
      first.windowOpen = true → second.windowOpen = true
  since :
    ∀ began windowOpen,
      process.opened = some (began, windowOpen) →
      (∃ span, span ∈ process.spans ∧ span.windowOpen = true) →
      windowOpen = true
  recorded :
    process.samples.recorded =
        process.windowed.take Main.sampleCapacity ∨
      process.worker = .returned ∧
        process.samples.recorded.Perm
          (process.windowed.take Main.sampleCapacity)
  sorted :
    process.main.sorted = true →
    process.samples.recorded.Pairwise (· ≤ ·)

/-- What the exported file says, once it is there. -/
def Exported (deployment : Deployment) (process : Process) : Prop :=
  process.run.csvExported = true →
  process.main.exported = true ∧
    process.samples.recorded.Pairwise (· ≤ ·) ∧
    process.run.samplesRecorded = process.samples.recorded.length ∧
    process.csv =
      (process.samples.csvLines deployment.fixed
        process.calibration.nsPerTick).flatten

variable {before after : Process}

/-- Nothing has happened to the callbacks. -/
theorem Sampled.untimed
    (sampled : before.Sampled)
    (same : before.Untimed after)
    (returned : before.worker = .returned → after.worker = .returned)
    (sorted : after.main.sorted = true → before.main.sorted = true) :
    after.Sampled where
  capacity := by
    rw [same.samples]
    exact sampled.capacity
  undropped := by
    rw [same.samples]
    exact sampled.undropped
  complete := by
    rw [same.spans, same.verdicts]
    exact sampled.complete
  inside := by
    rw [same.opened, World.inCallback, same.current]
    exact sampled.inside
  timed := by
    rw [same.timed, timestamp, same.opened, same.samples]
    exact sampled.timed
  enabled := by
    rw [same.spans, same.opened, same.samples]
    exact sampled.enabled
  ordered := by
    rw [same.spans]
    exact sampled.ordered
  since := by
    rw [same.spans, same.opened]
    exact sampled.since
  recorded := by
    rw [same.samples, windowed, same.spans]
    rcases sampled.recorded with inOrder | ⟨gone, sorted⟩
    · exact .inl inOrder
    · exact .inr ⟨returned gone, sorted⟩
  sorted late := by
    rw [same.samples]
    exact sampled.sorted (sorted late)

/-- `samples.start()`. -/
theorem Sampled.started
    (sampled : before.Sampled) :
    { before with samples := before.samples.start }.Sampled :=
  { sampled with
    enabled := fun _ => rfl }

/-- `samples.report()` sorts the buffer. -/
theorem report_perm (nsPerTick : Float) (samples : Samples) :
    (samples.report nsPerTick).2.recorded.Perm samples.recorded ∧
      (samples.report nsPerTick).2.recorded.Pairwise (· ≤ ·) ∧
      (samples.report nsPerTick).2.capacity = samples.capacity ∧
      (samples.report nsPerTick).2.dropped = samples.dropped ∧
      (samples.report nsPerTick).2.enabled = samples.enabled := by
  unfold Samples.report
  split
  · next empty =>
      refine ⟨.refl _, ?_, rfl, rfl, rfl⟩
      rw [List.length_eq_zero_iff.mp empty]
      exact .nil
  · refine ⟨List.mergeSort_perm _ _, ?_, rfl, rfl, rfl⟩
    have sorted :
        samples.sorted.Pairwise fun first second =>
          decide (first ≤ second) = true := by
      refine List.pairwise_mergeSort ?_ ?_ _
      · intro first second third below above
        simp only [decide_eq_true_eq] at below above ⊢
        exact UInt64.le_trans below above
      · intro first second
        simp only [Bool.or_eq_true, decide_eq_true_eq]
        exact UInt64.le_total first second
    exact sorted.imp of_decide_eq_true

/-- Sorting permutes what was recorded. -/
theorem Sampled.reported
    (sampled : before.Sampled)
    (same :
      { before with
        samples :=
          (before.samples.report before.calibration.nsPerTick).2 }
        |>.Untimed after)
    (still : after.worker = .returned) :
    after.Sampled := by
  obtain ⟨perm, pairwise, capacity, dropped, enabled⟩ :=
    report_perm before.calibration.nsPerTick before.samples
  have within :
      (before.samples.report before.calibration.nsPerTick).2
          |>.recorded.Perm (before.windowed.take Main.sampleCapacity) := by
    rcases sampled.recorded with inOrder | ⟨_, sorted⟩
    · rw [← inOrder]
      exact perm
    · exact perm.trans sorted
  exact
    { capacity := by
        rw [same.samples]
        exact capacity.trans sampled.capacity
      undropped := by
        rw [same.samples]
        exact dropped.trans sampled.undropped
      complete := by
        rw [same.spans, same.verdicts]
        exact sampled.complete
      inside := by
        rw [same.opened, World.inCallback, same.current]
        exact sampled.inside
      timed := by
        rw [same.timed, timestamp, same.opened, same.samples]
        change before.timed = _
        rw [sampled.timed, timestamp, capacity, perm.length_eq]
      enabled := by
        rw [same.spans, same.opened, same.samples]
        exact fun seen => enabled.trans (sampled.enabled seen)
      ordered := by
        rw [same.spans]
        exact sampled.ordered
      since := by
        rw [same.spans, same.opened]
        exact sampled.since
      recorded := by
        rw [same.samples, windowed, same.spans]
        exact .inr ⟨still, within⟩
      sorted := by
        rw [same.samples]
        exact fun _ => pairwise }

/-! One step inside a turn: a callback begins, or ends, or neither. -/

variable {world : World}
variable {ticks : UInt64}

/-- The timer at the beginning of a callback. -/
theorem clockCallback_begun
    (counted :
      world.bench.callbacks ≠ before.world.bench.callbacks) :
    before.clockCallback ticks before.world world =
      { before with
        timed :=
          if before.samples.recording then some ticks else none
        opened := some (ticks, before.samples.enabled) } := by
  rw [clockCallback, if_pos counted]

/-- The timer at its end. -/
theorem clockCallback_ended
    {began : UInt64}
    {windowOpen : Bool}
    (uncounted :
      world.bench.callbacks = before.world.bench.callbacks)
    (settled :
      world.aux.verdicts.length ≠
        before.world.aux.verdicts.length)
    (opened : before.opened = some (began, windowOpen)) :
    before.clockCallback ticks before.world world =
      { before with
        samples :=
          before.timed.elim before.samples fun t0 =>
            before.samples.record (ticks - t0)
        timed := none
        opened := none
        spans :=
          before.spans ++ [Span.mk began ticks windowOpen] } := by
  rw [clockCallback, if_neg (not_not_intro uncounted), if_pos settled,
    opened]
  cases before.timed with
  | some t0 =>
      rfl
  | none =>
      rfl

/-- The timer at any other step. -/
theorem clockCallback_other
    (uncounted :
      world.bench.callbacks = before.world.bench.callbacks)
    (unsettled :
      world.aux.verdicts.length =
        before.world.aux.verdicts.length) :
    before.clockCallback ticks before.world world = before := by
  rw [clockCallback, if_neg (not_not_intro uncounted),
    if_neg (not_not_intro unsettled)]

/-- A callback that begins is not recorded yet. -/
theorem Sampled.begun
    (sampled : before.Sampled)
    (verdicts : world.aux.verdicts = before.world.aux.verdicts)
    (inside : world.inCallback = true)
    (code : Code) :
    { before with
      timed := if before.samples.recording then some ticks else none
      opened := some (ticks, before.samples.enabled)
      world := world
      code := code }.Sampled where
  capacity := sampled.capacity
  undropped := sampled.undropped
  complete := by
    rw [verdicts]
    exact sampled.complete
  inside := inside.symm
  timed := by
    simp only [timestamp, Option.bind_some, Samples.recording,
      Bool.and_eq_true, decide_eq_true_eq]
    exact if_congr and_comm rfl rfl
  enabled := by
    rintro (seen | ⟨began, opened⟩)
    · exact sampled.enabled (.inl seen)
    · exact (Prod.mk.inj (Option.some.inj opened)).2
  ordered := sampled.ordered
  since := by
    rintro began windowOpen opened seen
    rw [← (Prod.mk.inj (Option.some.inj opened)).2]
    exact sampled.enabled (.inl seen)
  recorded := sampled.recorded
  sorted := sampled.sorted

/-- The buffer after one more callback of the window. -/
theorem take_snoc {α : Type} (capacity : Nat) (items : List α) (item : α) :
    (items ++ [item]).take capacity =
      if (items.take capacity).length < capacity then
        items.take capacity ++ [item]
      else
        items.take capacity := by
  rw [List.length_take]
  split
  · next room =>
      have short : items.length < capacity := by omega
      rw [List.take_of_length_le (by simp; omega),
        List.take_of_length_le short.le]
  · next full =>
      rw [List.take_append_of_le_length (by omega)]

/-- What is recorded when a callback ends. -/
theorem Sampled.record
    {began : UInt64}
    {windowOpen : Bool}
    (ticks : UInt64)
    (sampled : before.Sampled)
    (turning : before.worker = .turning)
    (opened : before.opened = some (began, windowOpen)) :
    let span := Span.mk began ticks windowOpen
    let recorded :=
      before.timed.elim before.samples fun t0 =>
        before.samples.record (ticks - t0)
    recorded.capacity = before.samples.capacity ∧
      recorded.dropped = before.samples.dropped ∧
      recorded.enabled = before.samples.enabled ∧
      recorded.recorded =
        (((before.spans ++ [span]).filter Span.windowOpen).map
          Span.duration).take Main.sampleCapacity := by
  have inOrder :
      before.samples.recorded =
        before.windowed.take Main.sampleCapacity := by
    rcases sampled.recorded with inOrder | ⟨returned, _⟩
    · exact inOrder
    · exact absurd (turning.symm.trans returned) nofun
  intro span recorded
  have timed : before.timed = before.timestamp := sampled.timed
  rw [timestamp, opened, Option.bind_some, inOrder, sampled.capacity]
    at timed
  cases windowOpen with
  | false =>
      have untimed : before.timed = none := by
        rw [timed]
        exact if_neg nofun
      have same : recorded = before.samples := by
        simp only [recorded, untimed, Option.elim_none]
      have unseen :
          (before.spans ++ [span]).filter Span.windowOpen =
            before.spans.filter Span.windowOpen := by
        rw [List.filter_append, List.filter_cons_of_neg Bool.false_ne_true,
          List.filter_nil, List.append_nil]
      rw [same, unseen]
      exact ⟨rfl, rfl, rfl, inOrder⟩
  | true =>
      have seen :
          ((before.spans ++ [span]).filter Span.windowOpen).map
              Span.duration =
            before.windowed ++ [ticks - began] := by
        rw [List.filter_append, List.filter_cons_of_pos rfl,
          List.filter_nil, List.map_append]
        rfl
      rw [seen, take_snoc]
      simp only [true_and] at timed
      split
      · next room =>
          rw [if_pos room] at timed
          have fits :
              before.samples.recorded.length <
                before.samples.capacity := by
            rw [inOrder, sampled.capacity]
            exact room
          have next :
              recorded =
                { before.samples with
                  recorded :=
                    before.samples.recorded ++ [ticks - began] } := by
            simp only [recorded, timed, Option.elim_some, Samples.record,
              fits, ↓reduceIte]
          rw [next]
          exact ⟨rfl, rfl, rfl, by rw [inOrder]⟩
      · next full =>
          rw [if_neg full] at timed
          have same : recorded = before.samples := by
            simp only [recorded, timed, Option.elim_none]
          rw [same]
          exact ⟨rfl, rfl, rfl, inOrder⟩

/-- A callback that ends is recorded if it began in the window. -/
theorem Sampled.ended
    {began : UInt64}
    {windowOpen : Bool}
    (sampled : before.Sampled)
    (turning : before.worker = .turning)
    (unsorted : before.main.sorted = false)
    (opened : before.opened = some (began, windowOpen))
    (verdicts :
      world.aux.verdicts.length =
        before.world.aux.verdicts.length + 1)
    (outside : world.inCallback = false)
    (code : Code) :
    { before with
      samples :=
        before.timed.elim before.samples fun t0 =>
          before.samples.record (ticks - t0)
      timed := none
      opened := none
      spans := before.spans ++ [Span.mk began ticks windowOpen]
      world := world
      code := code }.Sampled := by
  obtain ⟨capacity, dropped, enabled, recorded⟩ :=
    Sampled.record ticks sampled turning opened
  have seen
      {span : Span}
      (member : span ∈ before.spans ++ [Span.mk began ticks windowOpen])
      (isOpen : span.windowOpen = true) :
      before.samples.enabled = true := by
    rcases List.mem_append.mp member with earlier | this_
    · exact sampled.enabled (.inl ⟨span, earlier, isOpen⟩)
    · rw [List.mem_singleton.mp this_] at isOpen
      refine sampled.enabled (.inr ⟨began, ?_⟩)
      rw [opened, show windowOpen = true from isOpen]
  exact
    { capacity := capacity.trans sampled.capacity
      undropped := dropped.trans sampled.undropped
      complete := by
        rw [List.length_append, sampled.complete, verdicts]
        rfl
      inside := outside.symm
      timed := rfl
      enabled := by
        rintro (⟨span, member, isOpen⟩ | ⟨_, impossible⟩)
        · exact enabled.trans (seen member isOpen)
        · cases impossible
      ordered := by
        refine List.pairwise_append.mpr
          ⟨sampled.ordered, List.pairwise_singleton _ _, ?_⟩
        intro first member second last isOpen
        rw [List.mem_singleton.mp last]
        exact sampled.since began windowOpen opened
          ⟨first, member, isOpen⟩
      since := nofun
      recorded := .inl recorded
      sorted := by
        intro late
        rw [show before.main.sorted = true from late] at unsorted
        cases unsorted }

end Process

namespace Deployment

variable {deployment : Deployment}
variable {before after : Process}

/-- The export was tried after the join. -/
theorem joined_of_exported
    {pc : MainPc}
    (late : pc.exported = true ∨ pc.sorted = true) :
    pc.stage.joined = true := by
  cases pc with
  | exporting | describing | finished exit =>
      rfl
  | _ =>
      rcases late with late | late
      · cases late
      · cases late

/-- One step of a turn keeps the books. -/
theorem Clocked.sampled
    (reachable : deployment.Reachable before)
    (clocked : before.Clocked after)
    (unsorted : before.main.sorted = false)
    (sampled : before.Sampled) :
    after.Sampled := by
  obtain ⟨turning, effect, later, ticks, turn, rfl⟩ := clocked
  cases (reachable.turnEffect turn).callback with
  | begun outside counted verdicts inside =>
      rw [Process.clockCallback_begun counted]
      exact sampled.begun verdicts inside _
  | ended inside uncounted verdicts outside =>
      have isOpen : before.opened.isSome = true :=
        sampled.inside.trans inside
      obtain ⟨⟨began, windowOpen⟩, opened⟩ :=
        Option.isSome_iff_exists.mp isOpen
      rw [Process.clockCallback_ended uncounted (by omega) opened]
      exact sampled.ended turning unsorted opened verdicts outside _
  | other uncounted verdicts same =>
      rw [Process.clockCallback_other uncounted (by rw [verdicts])]
      exact
        { sampled with
          complete := by
            rw [verdicts]
            exact sampled.complete
          inside := by
            rw [same]
            exact sampled.inside }

/-- An export that succeeds has the sorted samples. -/
theorem exportSamples_exported
    {answer : MainAnswer}
    (at_ : before.main = .exporting)
    (sampled : before.Sampled)
    (unexported : before.run.csvExported = false) :
    (deployment.exportSamples answer before).Exported deployment := by
  have sorted := sampled.sorted (by rw [at_]; rfl)
  unfold exportSamples
  dsimp only
  split
  · next succeeded =>
      obtain ⟨outcome, wrote, succeeds⟩ :=
        Samples.dumpCsv_wrote deployment.fixed
          before.calibration.nsPerTick before.samples (newFile answer)
      have whole := (wrote.complete (succeeds.mp succeeded)).1
      rw [show (newFile answer).text = [] from rfl, List.nil_append]
        at whole
      exact fun _ => ⟨rfl, sorted, rfl, whole⟩
  · intro exported
    exact absurd (unexported.symm.trans exported) nofun

/-- It leaves the samples as they are. -/
theorem exportSamples_untimed (answer : MainAnswer) :
    before.Untimed (deployment.exportSamples answer before) := by
  unfold exportSamples
  dsimp only
  split
  · exact .of_same rfl ⟨rfl, rfl, rfl⟩ rfl
  · exact .of_same rfl ⟨rfl, rfl, rfl⟩ rfl

/-- Every step keeps the account of the callbacks. -/
theorem step_sampled
    {event : ProcessEvent}
    (reachable : deployment.Reachable before)
    (stepped : deployment.step event before = some after)
    (sampled : before.Sampled)
    (exported : before.Exported deployment) :
    after.Sampled ∧ after.Exported deployment := by
  have inStep := reachable.inStep
  have returned :=
    inStep.stays_returned (step_move stepped)
  have running
      {pc : MainPc}
      (at_ : before.main = pc)
      (turning : before.worker = .turning)
      (late : pc.exported = true ∨ pc.sorted = true) :
      False := by
    have joined : before.main.stage.joined = true := by
      rw [at_]
      exact joined_of_exported late
    have present : before.worker ≠ .absent ∧ before.worker ≠ .returned := by
      rw [turning]
      simp
    rcases inStep.joined joined with absent | gone
    · exact present.1 absent
    · exact present.2 gone
  -- An export that is there already stays as it is.
  have keep
      {process : Process}
      (kept : before.Unexported process)
      (samples : process.samples.recorded = before.samples.recorded) :
      process.Exported deployment := by
    intro isExported
    obtain ⟨late, sorted, count, csv⟩ :=
      exported (kept.csvExported.symm.trans isExported)
    have calibration : process.calibration = before.calibration := by
      rcases kept.calibration with same | early
      · exact same
      · rw [early] at late
        cases late
    refine ⟨kept.exported late, by rw [samples]; exact sorted, ?_, ?_⟩
    · rw [kept.samplesRecorded, samples]
      exact count
    · rw [kept.csv, csv, Samples.csvLines, Samples.csvLines, samples,
        calibration]
  cases step_samples reachable.packets.1 stepped with
  | aside same kept =>
      exact ⟨sampled.untimed same returned kept.sorted,
        keep kept (congrArg Samples.recorded same.samples)⟩
  | worked clocked frame =>
      have unsorted : before.main.sorted = false :=
        Bool.eq_false_of_not_eq_true fun late =>
          running rfl clocked.turning (.inr late)
      refine ⟨Clocked.sampled reachable clocked unsorted sampled, ?_⟩
      intro isExported
      have kept := frame_unexported frame
      have late := (exported (kept.csvExported.symm.trans isExported)).1
      exact (running rfl clocked.turning (.inl late)).elim
  | opened same kept =>
      exact ⟨sampled.started.untimed same returned kept.sorted,
        keep kept (by rw [same.samples]; rfl)⟩
  | sorted at_ same unexported =>
      have gone : before.worker = .returned :=
        inStep.returned (by rw [Process.handshake, at_]; rfl)
          (by rw [Process.handshake, at_]; simp [MainPc.stage])
      refine ⟨sampled.reported same (returned gone), ?_⟩
      intro isExported
      have late := (exported (unexported.symm.trans isExported)).1
      rw [at_] at late
      cases late
  | exported answer at_ moved =>
      have unexported : before.run.csvExported = false := by
        refine Bool.eq_false_of_not_eq_true fun isExported => ?_
        have late := (exported isExported).1
        rw [at_] at late
        cases late
      subst moved
      refine ⟨sampled.untimed (exportSamples_untimed answer) returned
        (fun _ => by rw [at_]; rfl), ?_⟩
      exact exportSamples_exported at_ sampled unexported

/-- So it holds in every reachable state. -/
theorem Reachable.sampled
    (reachable : deployment.Reachable after) :
    after.Sampled ∧ after.Exported deployment := by
  induction reachable with
  | start =>
      refine ⟨?_, nofun⟩
      exact
        { capacity := rfl
          undropped := rfl
          complete := rfl
          inside := rfl
          timed := rfl
          enabled := by
            rintro (⟨_, member, _⟩ | ⟨_, opened⟩)
            · cases member
            · cases opened
          ordered := .nil
          since := nofun
          recorded := .inl rfl
          sorted := nofun }
  | step reachable stepped inductionHypothesis =>
      exact step_sampled reachable stepped inductionHypothesis.1
        inductionHypothesis.2

/-- A window that never closes splits the callbacks in two. -/
theorem split_window
    {spans : List Span}
    (ordered :
      spans.Pairwise fun first second =>
        first.windowOpen = true → second.windowOpen = true) :
    ∃ earlier,
      spans = earlier ++ spans.filter Span.windowOpen ∧
        ∀ span, span ∈ earlier → span.windowOpen = false := by
  induction spans with
  | nil =>
      exact ⟨[], rfl, nofun⟩
  | cons first rest inductionHypothesis =>
      obtain ⟨onward, later⟩ := List.pairwise_cons.mp ordered
      cases isOpen : first.windowOpen with
      | true =>
          have all : rest.filter Span.windowOpen = rest :=
            List.filter_eq_self.mpr fun span member =>
              onward span member isOpen
          refine ⟨[], ?_, nofun⟩
          rw [List.filter_cons_of_pos isOpen, all, List.nil_append]
      | false =>
          obtain ⟨earlier, split, shut⟩ := inductionHypothesis later
          refine ⟨first :: earlier, ?_, ?_⟩
          · rw [List.filter_cons_of_neg (by rw [isOpen]; nofun),
              List.cons_append, ← split]
          · intro span member
            rcases List.mem_cons.mp member with rfl | member
            · exact isOpen
            · exact shut span member

variable {process : Process}

/--
The callbacks fall into those that began before the window was opened and
those that began after.  The buffer has the durations of the first ones of the
window, as many as fit, in order until it is sorted for the export; nothing is
dropped; and an export that succeeded has exactly these, in ascending order,
with their number in the sidecar file.
-/
theorem samples_are_first_of_window
    (reachable : deployment.Reachable process) :
    ∃ earlier later,
      process.spans = earlier ++ later ∧
        process.spans.length = process.world.aux.verdicts.length ∧
        (∀ span, span ∈ earlier → span.windowOpen = false) ∧
        (∀ span, span ∈ later → span.windowOpen = true) ∧
        process.samples.dropped = 0 ∧
        process.samples.recorded.Perm
          ((later.map Span.duration).take Main.sampleCapacity) ∧
        (process.worker ≠ .returned →
          process.samples.recorded =
            (later.map Span.duration).take Main.sampleCapacity) ∧
        (process.run.csvExported = true →
          process.samples.recorded.Pairwise (· ≤ ·) ∧
            process.run.samplesRecorded =
              process.samples.recorded.length ∧
            process.csv =
              (process.samples.csvLines deployment.fixed
                process.calibration.nsPerTick).flatten ∧
            ∀ sidecar,
              process.described = some sidecar →
              process.metadata = render (Main.metadataLines sidecar) ∧
                ("samples_recorded",
                    MetaValue.natural
                      process.samples.recorded.length) ∈
                  Main.metadataFields sidecar) := by
  obtain ⟨sampled, exported⟩ := reachable.sampled
  obtain ⟨earlier, split, shut⟩ := split_window sampled.ordered
  refine ⟨earlier, _, split, sampled.complete, shut, ?_,
    sampled.undropped, ?_, ?_, ?_⟩
  · intro span member
    exact (List.mem_filter.mp member).2
  · rcases sampled.recorded with inOrder | ⟨_, sorted⟩
    · rw [inOrder]
      exact .refl _
    · exact sorted
  · intro running
    rcases sampled.recorded with inOrder | ⟨returned, _⟩
    · exact inOrder
    · exact absurd returned running
  · intro isExported
    obtain ⟨_, sorted, count, csv⟩ := exported isExported
    refine ⟨sorted, count, csv, ?_⟩
    intro sidecar described
    obtain ⟨rfl, written⟩ := reachable.describes described
    refine ⟨written, ?_⟩
    rw [← count]
    exact Main.samplesRecorded_mem_metadataFields _

/-- The window of the small instance is opened, and one packet arrives. -/
def sampleTiming : List ProcessEvent :=
  List.replicate 9 (sampleMain 0) ++
    List.replicate 6 (sampleWorker 0) ++
    List.replicate 9 (sampleMain 0) ++
    List.replicate 3 (sampleMain Main.sampleWarmup) ++
    [.kernel .takeFill,
      .kernel (.dma 64 0 Scenario.samplePacket),
      .kernel (.deliver { addr := 64, len := 42, options := 0 })] ++
    List.replicate 5 (sampleWorker 100) ++
    List.replicate 6 (sampleWorker 130)

/-- The callback of the packet begins at 100 and ends at 130 ticks. -/
theorem samples_are_first_of_window_sample :
    ∃ (process : Process) (later : List Span),
      sample.Reachable process ∧
        process.samples.recorded = [30] ∧
        process.samples.recorded =
          (later.map Span.duration).take Main.sampleCapacity := by
  obtain ⟨process, ran, turning, recorded⟩ :
      ∃ process,
        sample.run sampleTiming sample.start = some process ∧
          process.worker = .turning ∧
          process.samples.recorded = [30] :=
    ⟨_, rfl, rfl, rfl⟩
  have reachable := Reachable.start.run ran
  obtain ⟨_, later, _, _, _, _, _, _, inOrder, _⟩ :=
    samples_are_first_of_window reachable
  exact ⟨process, later, reachable, recorded,
    inOrder (by simp [turning])⟩

end Deployment

end AfXdp
