import AfXdp.RunReceiverLoader

namespace AfXdp

open TextStream

/-!
# The exit code and the sidecar file

The exit code is kept in a variable that several places of `run_receiver` set,
each together with a field of the run summary.  An assertion at every program
counter of `main` says how far the two agree; no step of either thread breaks
it.
-/

/-! ## Assertions -/

/-- What `main` has left to do, as far as the exit code is concerned. -/
inductive Phase where
  | early : Phase
  | working : Phase
  | drained : Phase
  | summed : Phase
  | leaving (exit : Exit) : Phase
  | describing : Phase
  | finished (exit : Exit) : Phase

/-- The phase that `main` is in. -/
def MainPc.phase : MainPc → Phase
  | .filling | .spawning | .awaitingPrepared _ | .checkingStop
  | .checkingStartup | .creatingLoader =>
      .early
  | .requesting (some exit) | .unblocking (some exit)
  | .waking (some exit) | .joining (some exit) | .leaving (some exit) =>
      .leaving exit
  | .detaching _ | .summarizing _ =>
      .drained
  | .leaving none | .sorting | .exporting =>
      .summed
  | .describing =>
      .describing
  | .finished exit =>
      .finished exit
  | _ =>
      .working

/-- The run summary is complete, and nobody works any more. -/
def Phase.settled : Phase → Bool
  | .summed | .describing | .finished _ =>
      true
  | _ =>
      false

/-- The worker was joined before. -/
theorem MainPc.joined_of_settled
    {pc : MainPc}
    (settled : pc.phase.settled = true) :
    pc.stage.joined = true := by
  cases pc with
  | requesting exit | unblocking exit | waking exit | joining exit =>
      cases exit <;> cases settled
  | leaving exit =>
      cases exit <;> rfl
  | summarizing remaining | detaching remaining | sorting | exporting
  | describing | finished exit =>
      rfl
  | _ =>
      cases settled

/-- Nothing in the summary says that something went wrong. -/
def RunRecord.Faultless (run : RunRecord) : Prop :=
  run.firstKernelStatsErrno = 0 ∧ run.stopRedirectErrno = 0 ∧
    run.txAbandoned = 0 ∧ run.stopReason = .signal

/-- The same, and the samples are in their file. -/
def RunRecord.Clean (run : RunRecord) : Prop :=
  run.Faultless ∧ run.csvExported = true

namespace Process

/-- The exit code so far says what the summary says; no file exists. -/
def Booked (process : Process) : Prop :=
  (process.exitCode = 0 ∨ process.exitCode = 1) ∧
    (process.exitCode = 0 ↔ process.run.Faultless) ∧
    process.run.csvExported = false

/-- An early exit with 0 is one before anything was loaded. -/
def Excused (exit : Exit) (process : Process) : Prop :=
  ∀ code,
    exit = .status code →
    code = 1 ∨
      code = 0 ∧ process.gStop = true ∧ process.session.trace = []

/-- The sidecar file is that of this run, complete, with this exit code. -/
def Described
    (deployment : Deployment)
    (exit : Exit)
    (process : Process) :
    Prop :=
  ∃ sidecar,
    process.described = some sidecar ∧
      sidecar = deployment.sidecar process ∧
      process.world.summary = some sidecar.summary ∧
      process.metadata = render (Main.metadataLines sidecar) ∧
      (sidecar.exitCode = 0 ∨ sidecar.exitCode = 1) ∧
      (sidecar.exitCode = 0 ↔ sidecar.run.Clean) ∧
      ∀ code, exit = .status code → code = sidecar.exitCode

/-- What holds in a phase. -/
def Outline
    (deployment : Deployment)
    (process : Process) :
    Phase → Prop
  | .early =>
      process.described = none ∧ process.Booked ∧
        process.run.txAbandoned = 0 ∧ process.session.trace = []
  | .working =>
      process.described = none ∧ process.Booked ∧
        process.run.txAbandoned = 0
  | .drained =>
      process.described = none ∧ process.Booked
  | .summed =>
      process.described = none ∧ process.Booked ∧
        process.world.summary.isSome = true
  | .leaving exit =>
      process.described = none ∧ process.Excused exit
  | .describing =>
      process.described = none ∧
        (process.exitCode = 0 ∨ process.exitCode = 1) ∧
        (process.exitCode = 0 ↔ process.run.Clean) ∧
        process.world.summary.isSome = true
  | .finished exit =>
      process.described = none ∧ process.Excused exit ∨
        process.Described deployment exit

end Process

/-! ## Small steps -/

/-- Noting statistics leaves the rest of the record alone. -/
theorem RunRecord.noteKernelStats_others
    (run : RunRecord)
    (result : Except Errno KernelStats) :
    (run.noteKernelStats result).csvExported = run.csvExported ∧
      (run.noteKernelStats result).txAbandoned = run.txAbandoned ∧
      (run.noteKernelStats result).samplesRecorded =
        run.samplesRecorded := by
  cases result with
  | ok _ =>
      exact ⟨rfl, rfl, rfl⟩
  | error _ =>
      exact ⟨rfl, rfl, rfl⟩

/-- What a sidecar file is written from, but for the exit code, is the same. -/
structure Process.SameAccount (before after : Process) : Prop where
  run : after.run = before.run
  calibration : after.calibration = before.calibration
  summary : after.world.summary = before.world.summary

namespace Process

variable {deployment : Deployment}
variable {process : Process}

/-- Nothing has happened. -/
theorem SameAccount.refl (process : Process) :
    process.SameAccount process :=
  ⟨rfl, rfl, rfl⟩

/-- The sidecar file would be the same. -/
theorem SameAccount.sidecar
    {after : Process}
    (same : process.SameAccount after)
    (exitCode : after.exitCode = process.exitCode) :
    deployment.sidecar after = deployment.sidecar process := by
  rw [Deployment.sidecar, same.run, same.calibration, same.summary,
    exitCode]
  rfl

/-- A wakeup of `main` changes nothing of that. -/
theorem notifyPrepared_account (process : Process) :
    process.SameAccount process.notifyPrepared := by
  unfold notifyPrepared
  split
  · exact ⟨rfl, rfl, rfl⟩
  · exact .refl process

/-- Nor does a wakeup of the worker. -/
theorem notifyActivated_account (process : Process) :
    process.SameAccount process.notifyActivated := by
  unfold notifyActivated
  split
  · exact ⟨rfl, rfl, rfl⟩
  · exact .refl process

/-- An exception returns no code. -/
theorem Excused.exception (process : Process) :
    process.Excused .exception :=
  nofun

/-- Nor does `std::terminate`. -/
theorem Excused.terminated (process : Process) :
    process.Excused .terminated :=
  nofun

/-- A code of 1 needs no excuse. -/
theorem Excused.failure (throws : Bool) (process : Process) :
    process.Excused (exitAfterMessage throws (.status 1)) := by
  cases throws with
  | true =>
      exact nofun
  | false =>
      rintro code ⟨⟩
      exact .inl rfl

/-- A result of `kernel_stats` is noted in both places. -/
theorem Booked.noted
    {result : Except Errno KernelStats}
    {noted : Process}
    (booked : process.Booked)
    (run : noted.run = process.run.noteKernelStats result)
    (exitCode :
      noted.exitCode = if result.isOk then process.exitCode else 1) :
    noted.Booked := by
  rw [Booked, run, exitCode]
  cases result with
  | ok stats =>
      exact booked
  | error error =>
      refine ⟨.inr rfl, ⟨nofun, ?_⟩, booked.2.2⟩
      intro faultless
      have positive := error.positive
      have first := faultless.1
      simp only [RunRecord.noteKernelStats] at first
      split at first
      · omega
      · contradiction

/-- Nothing that the assertions are about has changed, or a signal came. -/
theorem Outline.congr
    {after : Process}
    {phase : Phase}
    (outline : process.Outline deployment phase)
    (described : after.described = process.described)
    (metadata : after.metadata = process.metadata)
    (exitCode : after.exitCode = process.exitCode)
    (run :
      (after.run.Faultless ↔ process.run.Faultless) ∧
        after.run.csvExported = process.run.csvExported ∧
        after.run.txAbandoned = process.run.txAbandoned)
    (session : after.session = process.session)
    (gStop : process.gStop = true → after.gStop = true)
    (account : phase.settled = true → process.SameAccount after) :
    after.Outline deployment phase := by
  have booked (held : process.Booked) : after.Booked := by
    rw [Booked, exitCode, run.1, run.2.1]
    exact held
  have excused {exit : Exit} (held : process.Excused exit) :
      after.Excused exit := by
    intro code same
    rcases held code same with one | ⟨zero, stopped, empty⟩
    · exact .inl one
    · exact .inr ⟨zero, gStop stopped, session ▸ empty⟩
  cases phase with
  | early =>
      exact ⟨described.trans outline.1, booked outline.2.1,
        run.2.2.trans outline.2.2.1, session ▸ outline.2.2.2⟩
  | working =>
      exact ⟨described.trans outline.1, booked outline.2.1,
        run.2.2.trans outline.2.2⟩
  | drained =>
      exact ⟨described.trans outline.1, booked outline.2⟩
  | summed =>
      refine ⟨described.trans outline.1, booked outline.2.1, ?_⟩
      rw [(account rfl).summary]
      exact outline.2.2
  | leaving exit =>
      exact ⟨described.trans outline.1, excused outline.2⟩
  | describing =>
      rw [Outline, described, exitCode, RunRecord.Clean, run.1, run.2.1,
        (account rfl).summary]
      exact outline
  | finished exit =>
      rcases outline with
        ⟨none_, held⟩ | ⟨sidecar, some_, same, summary, written, held⟩
      · exact .inl ⟨described.trans none_, excused held⟩
      · exact .inr ⟨sidecar, described.trans some_,
          same.trans ((account rfl).sidecar exitCode).symm,
          (account rfl).summary.trans summary,
          metadata.trans written, held⟩

/-- A step of the worker, or a wakeup, keeps the assertion. -/
theorem WorkerFrame.outline
    {after : Process}
    (frame : process.WorkerFrame after)
    (outline : process.Outline deployment process.main.phase)
    (account :
      process.main.phase.settled = true →
      process.SameAccount after) :
    after.Outline deployment after.main.phase := by
  have same : after.main.phase = process.main.phase := by
    rcases frame.main with same | ⟨asleep, awake⟩
    · rw [same]
    · rw [asleep, awake]
      rfl
  obtain ⟨policy, priority, run⟩ := frame.run
  rw [same]
  refine outline.congr frame.described frame.metadata frame.exitCode ?_
    frame.session (fun stopped => frame.gStop.trans stopped) account
  rw [run]
  exact ⟨.rfl, rfl, rfl⟩

end Process

namespace Deployment

variable {deployment : Deployment}
variable {before after : Process}

/-- A failed statistics call and an anomaly are booked in both places. -/
theorem judge_outline
    {rejected : UInt64}
    {answer : MainAnswer}
    (outline : before.Outline deployment .working) :
    (judge rejected answer before).Outline deployment
      (judge rejected answer before).main.phase := by
  obtain ⟨undescribed, booked, unabandoned⟩ := outline
  obtain ⟨csv, abandoned, _⟩ :=
    before.run.noteKernelStats_others (Xsk.kernelStats answer.statistics)
  unfold judge
  dsimp only
  split
  · split
    · exact ⟨undescribed, .exception _⟩
    · refine ⟨undescribed, ⟨.inr rfl, ⟨nofun, fun faultless => ?_⟩,
        csv.trans booked.2.2⟩, abandoned.trans unabandoned⟩
      exact absurd faultless.2.2.2 nofun
  · exact ⟨undescribed, booked.noted rfl rfl,
      abandoned.trans unabandoned⟩

/-- So is a failed cut. -/
theorem cutRedirect_outline
    {loader : XdpLoader}
    {answer : MainAnswer}
    (outline : before.Outline deployment .working) :
    (cutRedirect loader answer before).Outline deployment
      (cutRedirect loader answer before).main.phase := by
  obtain ⟨undescribed, booked, unabandoned⟩ := outline
  unfold cutRedirect
  dsimp only
  split
  · exact ⟨undescribed, booked, unabandoned⟩
  · next error _ =>
      split
      · exact ⟨undescribed, .exception _⟩
      · refine ⟨undescribed, ⟨.inr rfl, ⟨nofun, fun faultless => ?_⟩,
          booked.2.2⟩, unabandoned⟩
        exact absurd faultless.2.1 error.positive.ne'

/-- A failed detach is an early way out. -/
theorem detachProgram_outline
    {loader : XdpLoader}
    {remaining : UInt32}
    {answer : MainAnswer}
    (outline : before.Outline deployment .drained) :
    (detachProgram loader remaining answer before).Outline deployment
      (detachProgram loader remaining answer before).main.phase := by
  obtain ⟨undescribed, booked⟩ := outline
  unfold detachProgram
  dsimp only
  split
  · exact ⟨undescribed, booked⟩
  · exact ⟨undescribed, .failure _ _⟩

/-- A failed export is booked in the exit code alone. -/
theorem exportSamples_outline
    {answer : MainAnswer}
    (outline : before.Outline deployment .summed) :
    (deployment.exportSamples answer before).Outline deployment
      (deployment.exportSamples answer before).main.phase := by
  obtain ⟨undescribed, ⟨exitCode, booked, unexported⟩, summed⟩ := outline
  unfold exportSamples
  dsimp only
  split
  · refine ⟨undescribed, exitCode, booked.trans ?_, summed⟩
    exact ⟨fun faultless => ⟨faultless, rfl⟩, And.left⟩
  · cases answer.throws with
    | true =>
        exact .inl ⟨undescribed, .exception _⟩
    | false =>
        refine ⟨undescribed, .inr rfl, ⟨nofun, fun clean => ?_⟩, summed⟩
        exact absurd (clean.2.symm.trans unexported) nofun

/-- The file that is completed is that of the run so far. -/
theorem describeRun_outline
    {answer : MainAnswer}
    (outline : before.Outline deployment .describing) :
    (deployment.describeRun answer before).Outline deployment
      (deployment.describeRun answer before).main.phase := by
  obtain ⟨undescribed, exitCode, clean, summed⟩ := outline
  obtain ⟨summary, summed⟩ := Option.isSome_iff_exists.mp summed
  have same : before.world.summary =
      some (deployment.sidecar before).summary := by
    rw [sidecar, summed]
    rfl
  unfold describeRun
  dsimp only
  split
  · next succeeded =>
      obtain ⟨outcome, wrote, succeeds⟩ :=
        @Main.dumpRunMetadata_wrote (deployment.sidecar before)
          (newFile answer)
      have whole := (wrote.complete (succeeds.mp succeeded)).1
      rw [show (newFile answer).text = [] from rfl, List.nil_append]
        at whole
      refine .inr ⟨_, rfl, rfl, same, whole, exitCode, clean, ?_⟩
      cases answer.throws with
      | true =>
          exact nofun
      | false =>
          rintro code ⟨⟩
          rfl
  · exact .inl ⟨undescribed, .failure _ _⟩

/-- Every step of `main` leads from assertion to assertion. -/
theorem mainStep_outline
    {answer : MainAnswer}
    (outline : before.Outline deployment before.main.phase)
    (unloaded : before.session.trace = [] → before.loader = none)
    (stepped : deployment.mainStep answer before = some after) :
    after.Outline deployment after.main.phase := by
  cases at_ : before.main with
  | filling =>
      rw [at_] at outline
      rw [mainStep, at_] at stepped
      dsimp only at stepped
      split at stepped
      · cases stepped
        exact outline
      · cases stepped
        exact outline
      · cases stepped
  | spawning =>
      rw [at_] at outline
      rw [mainStep, at_] at stepped
      dsimp only at stepped
      split at stepped
      · cases stepped
        exact .inl ⟨outline.1, .exception _⟩
      · cases stepped
        exact outline
  | awaitingPrepared asleep =>
      rw [at_] at outline
      rw [mainStep, at_] at stepped
      cases asleep with
      | true =>
          cases stepped
      | false =>
          dsimp only at stepped
          split at stepped
          · cases stepped
            exact outline
          · cases stepped
            exact outline
  | checkingStop =>
      rw [at_] at outline
      rw [mainStep, at_] at stepped
      dsimp only at stepped
      split at stepped
      · next stopped =>
          cases stepped
          refine ⟨outline.1, ?_⟩
          rintro code ⟨⟩
          exact .inr ⟨rfl, stopped, outline.2.2.2⟩
      · cases stepped
        exact outline
  | checkingStartup =>
      rw [at_] at outline
      rw [mainStep, at_] at stepped
      dsimp only at stepped
      split at stepped
      · cases stepped
        exact ⟨outline.1, .failure _ _⟩
      · cases stepped
        exact outline
  | creatingLoader =>
      rw [at_] at outline
      rw [mainStep, at_] at stepped
      dsimp only at stepped
      split at stepped
      · cases stepped
        exact ⟨outline.1, .failure _ _⟩
      · cases stepped
        exact ⟨outline.1, outline.2.1, outline.2.2.1⟩
  | choosing | looping =>
      rw [at_] at outline
      rw [mainStep, at_] at stepped
      dsimp only at stepped
      split at stepped
      · cases stepped
        exact outline
      · cases stepped
        exact outline
  | activating | sleeping | opening now =>
      rw [at_] at outline
      rw [mainStep, at_] at stepped
      cases stepped
      exact outline
  | notifying =>
      rw [at_] at outline
      rw [mainStep, at_] at stepped
      cases stepped
      have frame := Process.WorkerFrame.notifyActivated before
      obtain ⟨policy, priority, run⟩ := frame.run
      refine Process.Outline.congr outline frame.described frame.metadata
        frame.exitCode ?_ frame.session
        (fun stopped => frame.gStop.trans stopped) ?_
      · dsimp only
        rw [run]
        exact ⟨.rfl, rfl, rfl⟩
      · intro settled
        cases settled
  | announcing | stopping | reporting =>
      rw [at_] at outline
      rw [mainStep, at_] at stepped
      dsimp only at stepped
      split at stepped
      · cases stepped
        exact ⟨outline.1, .exception _⟩
      · cases stepped
        exact outline
  | warming now =>
      rw [at_] at outline
      rw [mainStep, at_] at stepped
      dsimp only at stepped
      split at stepped
      · cases stepped
        exact outline
      · cases stepped
        exact outline
  | judging rejected =>
      rw [at_] at outline
      rw [mainStep, at_] at stepped
      cases stepped
      exact judge_outline outline
  | cutting =>
      rw [at_] at outline
      rw [mainStep, at_] at stepped
      obtain ⟨loader, _, rfl⟩ := Option.map_eq_some_iff.mp stepped
      exact cutRedirect_outline outline
  | requesting exit =>
      rw [at_] at outline
      rw [mainStep, at_] at stepped
      dsimp only at stepped
      cases exit with
      | none =>
          split at stepped
          · cases stepped
            exact outline
          · cases stepped
            exact outline
      | some exit =>
          split at stepped
          · cases stepped
            exact outline
          · cases stepped
            exact outline
  | unblocking exit =>
      rw [at_] at outline
      rw [mainStep, at_] at stepped
      cases stepped
      cases exit with
      | none =>
          exact outline
      | some exit =>
          exact outline
  | waking exit =>
      rw [at_] at outline
      rw [mainStep, at_] at stepped
      cases stepped
      have frame := Process.WorkerFrame.notifyActivated before
      obtain ⟨policy, priority, run⟩ := frame.run
      have same : (MainPc.joining exit).phase = (MainPc.waking exit).phase := by
        cases exit with
        | none =>
            rfl
        | some exit =>
            rfl
      rw [← same] at outline
      refine Process.Outline.congr outline frame.described frame.metadata
        frame.exitCode ?_ frame.session
        (fun stopped => frame.gStop.trans stopped) ?_
      · dsimp only
        rw [run]
        exact ⟨.rfl, rfl, rfl⟩
      · intro settled
        have joined : (MainPc.joining exit).stage.joined = true :=
          MainPc.joined_of_settled settled
        cases joined
  | joining exit =>
      rw [at_] at outline
      rw [mainStep, at_] at stepped
      dsimp only at stepped
      split at stepped
      · cases exit with
        | none =>
            cases stepped
            exact outline
        | some exit =>
            cases stepped
            exact outline
      · cases stepped
  | draining =>
      rw [at_] at outline
      rw [mainStep, at_] at stepped
      obtain ⟨undescribed, booked, unabandoned⟩ := outline
      dsimp only at stepped
      split at stepped
      · cases stepped
        exact ⟨undescribed, booked, unabandoned⟩
      · split at stepped
        · next none_ =>
            cases stepped
            have same : _ = before.run.txAbandoned :=
              none_.trans unabandoned.symm
            refine ⟨undescribed, booked.1, booked.2.1.trans ?_, booked.2.2⟩
            simp only [RunRecord.Faultless, same]
        · next some_ =>
            split at stepped
            · cases stepped
              exact ⟨undescribed, .exception _⟩
            · cases stepped
              refine ⟨undescribed, .inr rfl, ⟨fun zero => absurd zero Nat.one_ne_zero,
                fun faultless => ?_⟩,
                booked.2.2⟩
              exact absurd faultless.2.2.1 some_
      · cases stepped
  | detaching remaining =>
      rw [at_] at outline
      rw [mainStep, at_] at stepped
      obtain ⟨loader, _, rfl⟩ := Option.map_eq_some_iff.mp stepped
      exact detachProgram_outline outline
  | summarizing remaining =>
      rw [at_] at outline
      rw [mainStep, at_] at stepped
      cases stepped
      exact ⟨outline.1, outline.2.noted rfl rfl, rfl⟩
  | leaving exit =>
      rw [at_] at outline
      rw [mainStep, at_] at stepped
      cases stepped
      cases exit with
      | none =>
          exact outline
      | some exit =>
          refine .inl ⟨outline.1, fun code same => ?_⟩
          rcases outline.2 code same with one | ⟨zero, stopped, empty⟩
          · exact .inl one
          · refine .inr ⟨zero, stopped, ?_⟩
            rw [unloaded empty]
            exact empty
  | sorting =>
      rw [at_] at outline
      rw [mainStep, at_] at stepped
      dsimp only at stepped
      split at stepped
      · cases stepped
        exact .inl ⟨outline.1, .terminated _⟩
      · cases stepped
        exact outline
  | exporting =>
      rw [at_] at outline
      rw [mainStep, at_] at stepped
      cases stepped
      exact exportSamples_outline outline
  | describing =>
      rw [at_] at outline
      rw [mainStep, at_] at stepped
      cases stepped
      exact describeRun_outline outline
  | finished exit =>
      rw [mainStep, at_] at stepped
      cases stepped

/-! ## Along a run -/

/-- Once the summary is complete, the worker is over. -/
theorem workerStep_settled
    {answer : WorkerAnswer}
    (inStep : before.handshake.InStep)
    (settled : before.main.phase.settled = true) :
    deployment.workerStep answer before = none := by
  unfold workerStep
  rcases inStep.joined (MainPc.joined_of_settled settled) with
    absent | returned
  · rw [show before.worker = .absent from absent]
  · rw [show before.worker = .returned from returned]

/-- So does every other step. -/
theorem step_outline
    {event : ProcessEvent}
    (inStep : before.handshake.InStep)
    (outline : before.Outline deployment before.main.phase)
    (unloaded : before.session.trace = [] → before.loader = none)
    (stepped : deployment.step event before = some after) :
    after.Outline deployment after.main.phase := by
  cases event with
  | main answer =>
      exact mainStep_outline outline unloaded stepped
  | worker answer =>
      refine (workerStep_frame stepped).outline outline ?_
      intro settled
      have stuck : deployment.workerStep answer before = none :=
        workerStep_settled inStep settled
      exact absurd (stuck.symm.trans stepped) nofun
  | signal =>
      cases stepped
      exact outline.congr rfl rfl rfl ⟨.rfl, rfl, rfl⟩ rfl (fun _ => rfl)
        (fun _ => ⟨rfl, rfl, rfl⟩)
  | kernel kernelStep =>
      obtain ⟨world, performed, rfl⟩ := Option.map_eq_some_iff.mp stepped
      exact outline.congr rfl rfl rfl ⟨.rfl, rfl, rfl⟩ rfl id
        (fun _ => ⟨rfl, rfl, kernel_unreported performed⟩)
  | wakeMain =>
      cases stepped
      exact (Process.WorkerFrame.notifyPrepared before).outline outline
        (fun _ => before.notifyPrepared_account)
  | wakeWorker =>
      cases stepped
      exact (Process.WorkerFrame.notifyActivated before).outline outline
        (fun _ => before.notifyActivated_account)

/-- Without effects there is no loader. -/
theorem Reachable.unloaded
    (reachable : deployment.Reachable after)
    (empty : after.session.trace = []) :
    after.loader = none := by
  cases stored : after.loader with
  | none =>
      rfl
  | some loader =>
      obtain ⟨object, installed, _⟩ := reachable.loading.serving stored
      have opened := Session.mem_history_open.mp installed.started
      rw [empty] at opened
      cases opened

/-- The assertion of its phase holds in every reachable state. -/
theorem Reachable.outline
    (reachable : deployment.Reachable after) :
    after.Outline deployment after.main.phase := by
  induction reachable with
  | start =>
      exact ⟨rfl, ⟨.inl rfl, ⟨fun _ => ⟨rfl, rfl, rfl, rfl⟩, fun _ => rfl⟩,
        rfl⟩, rfl, rfl⟩
  | step reachable stepped inductionHypothesis =>
      exact step_outline reachable.inStep inductionHypothesis
        reachable.unloaded stepped

/-! ## What the exit code says -/

variable {process : Process}
variable {sidecar : Sidecar}
variable {code : Nat}

/-- A completed sidecar file is that of the run as it is. -/
theorem Reachable.describes
    (reachable : deployment.Reachable process)
    (described : process.described = some sidecar) :
    sidecar = deployment.sidecar process ∧
      process.metadata = render (Main.metadataLines sidecar) := by
  have outline := reachable.outline
  have early (undescribed : process.described = none) : False := by
    rw [undescribed] at described
    cases described
  cases at_ : process.main.phase with
  | finished exit =>
      rw [at_] at outline
      rcases outline with
        ⟨undescribed, _⟩ | ⟨other, found, account, _, written, _⟩
      · exact (early undescribed).elim
      · obtain rfl : other = sidecar :=
          Option.some.inj (found.symm.trans described)
        exact ⟨account, written⟩
  | _ =>
      rw [at_] at outline
      exact (early outline.1).elim

/--
`run_receiver` returns 0 or 1.  If the sidecar file was completed, it is that
of this run, with the summary of its counters and the code that is returned,
and the code is 0 exactly if the file shows no fault: no failed statistics
call, no failed cut, no abandoned frame, a signal as the reason to stop, and
the samples exported.  Without the file, 0 is returned only after a signal
that came before anything was loaded.
-/
theorem exit_code_explained
    (reachable : deployment.Reachable process)
    (finished : process.main = .finished (.status code)) :
    (code = 0 ∨ code = 1) ∧
      (process.described = none →
        code = 0 →
        process.gStop = true ∧ process.session.trace = []) ∧
      ∀ sidecar,
        process.described = some sidecar →
        sidecar = deployment.sidecar process ∧
          process.world.summary = some sidecar.summary ∧
          process.metadata = render (Main.metadataLines sidecar) ∧
          sidecar.exitCode = code ∧
          (code = 0 ↔ sidecar.run.Clean) := by
  have outline := reachable.outline
  rw [finished] at outline
  rcases outline with
    ⟨undescribed, excused⟩ | ⟨sidecar, described, account, summary,
      written, values, clean, same⟩
  · refine ⟨?_, ?_, ?_⟩
    · rcases excused code rfl with one | ⟨zero, _⟩
      · exact .inr one
      · exact .inl zero
    · rintro _ rfl
      rcases excused 0 rfl with one | ⟨_, early⟩
      · cases one
      · exact early
    · intro sidecar described
      exact absurd (undescribed.symm.trans described) nofun
  · have returned := same code rfl
    refine ⟨returned ▸ values, ?_, ?_⟩
    · intro undescribed
      exact absurd (undescribed.symm.trans described) nofun
    · intro other found
      obtain rfl : sidecar = other :=
        Option.some.inj (described.symm.trans found)
      exact ⟨account, summary, written, returned.symm, returned ▸ clean⟩

/-- With a disk that takes everything, the sidecar file is completed. -/
theorem describeRun_succeeds
    {answer : MainAnswer}
    (quiet : answer.throws = false)
    (accepting : ∀ call, answer.refusals call = none) :
    (deployment.describeRun answer before).main =
        .finished (.status before.exitCode) ∧
      (deployment.describeRun answer before).described =
        some (deployment.sidecar before) := by
  obtain ⟨outcome, wrote, succeeds⟩ :=
    @Main.dumpRunMetadata_wrote (deployment.sidecar before)
      (newFile answer)
  have succeeded :
      ((Main.dumpRunMetadata (deployment.sidecar before)).run
        (newFile answer)).1 = .ok () :=
    (succeeds.trans wrote.accepted).mpr fun call _ _ => accepting call
  unfold describeRun
  dsimp only
  split
  · rw [quiet]
    exact ⟨rfl, rfl⟩
  · next failed =>
      exact absurd (succeeded.symm.trans failed) nofun

/-- The small instance is stopped by a signal in its first turn. -/
def sampleStop : List ProcessEvent :=
  sampleActivation ++ [.signal] ++
    List.replicate 9 (sampleMain 0) ++
    List.replicate 9 (sampleWorker 0) ++
    List.replicate 10 (sampleMain 0)

/-- That run returns 0, with a file that shows no fault. -/
theorem exit_code_explained_sample :
    ∃ process sidecar,
      sample.Reachable process ∧
        process.main = .finished (.status 0) ∧
        process.described = some sidecar ∧
        sidecar = sample.sidecar process ∧ sidecar.run.Clean := by
  obtain ⟨before, ran, describing, exitCode⟩ :
      ∃ before,
        sample.run sampleStop sample.start = some before ∧
          before.main = .describing ∧ before.exitCode = 0 :=
    ⟨_, rfl, rfl, rfl⟩
  have last :
      sample.step (sampleMain 0) before =
        some (sample.describeRun (sampleAnswer 0) before) := by
    rw [sampleMain, step, mainStep, describing]
  have reachable := (Reachable.start.run ran).step last
  obtain ⟨finished, described⟩ :=
    @describeRun_succeeds sample before (sampleAnswer 0) rfl fun _ => rfl
  rw [exitCode] at finished
  have explained := exit_code_explained reachable finished
  obtain ⟨account, _, _, _, clean⟩ := explained.2.2 _ described
  exact ⟨_, _, reachable, finished, described, account, clean.mp rfl⟩

end Deployment

end AfXdp
