import AfXdp.RunReceiver

namespace AfXdp

/-!
# What each thread leaves alone

The worker touches neither the loader nor the signal flag nor the results of
`main`, except for what it found out about its own scheduling.
-/

/-- No code on the packet objects ran. -/
structure Process.Unclocked (before after : Process) : Prop where
  world : after.world = before.world
  samples : after.samples = before.samples
  timed : after.timed = before.timed
  opened : after.opened = before.opened
  spans : after.spans = before.spans

/-- One step of a turn, at the given time. -/
structure Process.Clocked (before after : Process) : Prop where
  turning : before.worker = .turning
  worked :
    ∃ effect later ticks,
      before.code = .turn (.step effect later) ∧
        after =
          { before.clockCallback ticks before.world
              (effect before.world) with
            world := effect before.world
            code := .turn (later before.world) }

/-- What a step of the worker, or a wakeup, leaves as it was. -/
structure Process.WorkerFrame (before after : Process) : Prop where
  session : after.session = before.session
  loader : after.loader = before.loader
  gStop : after.gStop = before.gStop
  stopRequested : after.stopRequested = before.stopRequested
  calibration : after.calibration = before.calibration
  exitCode : after.exitCode = before.exitCode
  csv : after.csv = before.csv
  metadata : after.metadata = before.metadata
  described : after.described = before.described
  run :
    ∃ policy priority,
      after.run =
        { before.run with
          schedulerPolicy := policy
          schedulerPriority := priority }
  main :
    after.main = before.main ∨
      before.main = .awaitingPrepared true ∧
        after.main = .awaitingPrepared false
  packets : before.Unclocked after ∨ before.Clocked after

namespace Process.WorkerFrame

variable {before after : Process}

/-- Only the worker and what it shares with `main` have changed. -/
theorem of_same
    (session : after.session = before.session)
    (loader : after.loader = before.loader)
    (gStop : after.gStop = before.gStop)
    (stopRequested : after.stopRequested = before.stopRequested)
    (calibration : after.calibration = before.calibration)
    (exitCode : after.exitCode = before.exitCode)
    (files :
      after.csv = before.csv ∧ after.metadata = before.metadata ∧
        after.described = before.described)
    (run : after.run = before.run)
    (main : after.main = before.main)
    (packets : before.Unclocked after ∨ before.Clocked after) :
    before.WorkerFrame after where
  session := session
  loader := loader
  gStop := gStop
  stopRequested := stopRequested
  calibration := calibration
  exitCode := exitCode
  csv := files.1
  metadata := files.2.1
  described := files.2.2
  run := ⟨_, _, run⟩
  main := .inl main
  packets := packets

/-- `main` is the only thing that has changed. -/
theorem of_woken
    (asleep : before.main = .awaitingPrepared true)
    (worker : WorkerPc) :
    before.WorkerFrame
      { before with
        main := .awaitingPrepared false
        worker := worker } where
  session := rfl
  loader := rfl
  gStop := rfl
  stopRequested := rfl
  calibration := rfl
  exitCode := rfl
  csv := rfl
  metadata := rfl
  described := rfl
  run := ⟨_, _, rfl⟩
  main := .inr ⟨asleep, rfl⟩
  packets := .inl ⟨rfl, rfl, rfl, rfl, rfl⟩

/-- A wakeup of `main`. -/
theorem notifyPrepared (process : Process) :
    process.WorkerFrame process.notifyPrepared := by
  unfold Process.notifyPrepared
  split
  · next asleep =>
      exact of_woken asleep process.worker
  · exact of_same rfl rfl rfl rfl rfl rfl ⟨rfl, rfl, rfl⟩ rfl rfl
      (.inl ⟨rfl, rfl, rfl, rfl, rfl⟩)

/-- The worker's own wakeup of `main`. -/
theorem notifyPrepared_then (process : Process) (worker : WorkerPc) :
    process.WorkerFrame { process.notifyPrepared with worker := worker } := by
  unfold Process.notifyPrepared
  split
  · next asleep =>
      exact of_woken asleep worker
  · exact of_same rfl rfl rfl rfl rfl rfl ⟨rfl, rfl, rfl⟩ rfl rfl
      (.inl ⟨rfl, rfl, rfl, rfl, rfl⟩)

/-- A wakeup of the worker. -/
theorem notifyActivated (process : Process) :
    process.WorkerFrame process.notifyActivated := by
  unfold Process.notifyActivated
  split
  · exact of_same rfl rfl rfl rfl rfl rfl ⟨rfl, rfl, rfl⟩ rfl rfl
      (.inl ⟨rfl, rfl, rfl, rfl, rfl⟩)
  · exact of_same rfl rfl rfl rfl rfl rfl ⟨rfl, rfl, rfl⟩ rfl rfl
      (.inl ⟨rfl, rfl, rfl, rfl, rfl⟩)

/-- An effect of the worker, with the timer around it. -/
theorem clockCallback
    {process : Process}
    {effect : World → World}
    {later : World → Task Unit}
    (ticks : UInt64)
    (turning : process.worker = .turning)
    (turn : process.code = .turn (.step effect later)) :
    process.WorkerFrame
      { process.clockCallback ticks process.world
          (effect process.world) with
        world := effect process.world
        code := .turn (later process.world) } := by
  have clocked :
      process.Clocked
        { process.clockCallback ticks process.world
            (effect process.world) with
          world := effect process.world
          code := .turn (later process.world) } :=
    ⟨turning, effect, later, ticks, turn, rfl⟩
  unfold Process.clockCallback at clocked ⊢
  split
  · next counted =>
      rw [if_pos counted] at clocked
      exact of_same rfl rfl rfl rfl rfl rfl ⟨rfl, rfl, rfl⟩ rfl rfl
        (.inr clocked)
  · next uncounted =>
      rw [if_neg uncounted] at clocked
      split
      · next settled =>
          rw [if_pos settled] at clocked
          exact of_same rfl rfl rfl rfl rfl rfl ⟨rfl, rfl, rfl⟩ rfl rfl
            (.inr clocked)
      · next unsettled =>
          rw [if_neg unsettled] at clocked
          exact of_same rfl rfl rfl rfl rfl rfl ⟨rfl, rfl, rfl⟩ rfl rfl
            (.inr clocked)

end Process.WorkerFrame

namespace Deployment

variable {deployment : Deployment}
variable {before after : Process}

/-- No step of the worker touches what belongs to `main`. -/
theorem workerStep_frame
    {answer : WorkerAnswer}
    (stepped : deployment.workerStep answer before = some after) :
    before.WorkerFrame after := by
  have same
      {process : Process}
      (session : process.session = before.session)
      (loader : process.loader = before.loader)
      (gStop : process.gStop = before.gStop) :=
    @Process.WorkerFrame.of_same before process session loader gStop
  cases at_ : before.worker with
  | absent | returned =>
      rw [workerStep, at_] at stepped
      cases stepped
  | registering | polling =>
      rw [workerStep, at_] at stepped
      dsimp only at stepped
      split at stepped
      · cases stepped
        exact same rfl rfl rfl rfl rfl rfl ⟨rfl, rfl, rfl⟩ rfl rfl
          (.inl ⟨rfl, rfl, rfl, rfl, rfl⟩)
      · cases stepped
        exact same rfl rfl rfl rfl rfl rfl ⟨rfl, rfl, rfl⟩ rfl rfl
          (.inl ⟨rfl, rfl, rfl, rfl, rfl⟩)
  | preparing =>
      rw [workerStep, at_] at stepped
      dsimp only at stepped
      split at stepped
      · cases stepped
        exact same rfl rfl rfl rfl rfl rfl ⟨rfl, rfl, rfl⟩ rfl rfl
          (.inl ⟨rfl, rfl, rfl, rfl, rfl⟩)
      · cases stepped
        exact same rfl rfl rfl rfl rfl rfl ⟨rfl, rfl, rfl⟩ rfl rfl
          (.inl ⟨rfl, rfl, rfl, rfl, rfl⟩)
  | calibrating =>
      rw [workerStep, at_] at stepped
      cases stepped
      exact
        { session := rfl
          loader := rfl
          gStop := rfl
          stopRequested := rfl
          calibration := rfl
          exitCode := rfl
          csv := rfl
          metadata := rfl
          described := rfl
          run := ⟨_, _, rfl⟩
          main := .inl rfl
          packets := .inl ⟨rfl, rfl, rfl, rfl, rfl⟩ }
  | publishing =>
      rw [workerStep, at_] at stepped
      cases stepped
      exact same rfl rfl rfl rfl rfl rfl ⟨rfl, rfl, rfl⟩ rfl rfl
        (.inl ⟨rfl, rfl, rfl, rfl, rfl⟩)
  | notifying =>
      rw [workerStep, at_] at stepped
      cases stepped
      exact .notifyPrepared_then before _
  | deciding =>
      rw [workerStep, at_] at stepped
      dsimp only at stepped
      split at stepped
      · cases stepped
        exact same rfl rfl rfl rfl rfl rfl ⟨rfl, rfl, rfl⟩ rfl rfl
          (.inl ⟨rfl, rfl, rfl, rfl, rfl⟩)
      · cases stepped
        exact same rfl rfl rfl rfl rfl rfl ⟨rfl, rfl, rfl⟩ rfl rfl
          (.inl ⟨rfl, rfl, rfl, rfl, rfl⟩)
  | awaiting asleep =>
      rw [workerStep, at_] at stepped
      cases asleep with
      | true =>
          cases stepped
      | false =>
          dsimp only at stepped
          split at stepped
          · cases stepped
            exact same rfl rfl rfl rfl rfl rfl ⟨rfl, rfl, rfl⟩ rfl rfl
              (.inl ⟨rfl, rfl, rfl, rfl, rfl⟩)
          · cases stepped
            exact same rfl rfl rfl rfl rfl rfl ⟨rfl, rfl, rfl⟩ rfl rfl
              (.inl ⟨rfl, rfl, rfl, rfl, rfl⟩)
  | turning =>
      rw [workerStep, at_] at stepped
      dsimp only at stepped
      split at stepped
      · cases stepped
        exact .clockCallback _ at_ ‹_›
      · cases stepped
        exact same rfl rfl rfl rfl rfl rfl ⟨rfl, rfl, rfl⟩ rfl rfl
          (.inl ⟨rfl, rfl, rfl, rfl, rfl⟩)
      · cases stepped
  | returning =>
      rw [workerStep, at_] at stepped
      dsimp only at stepped
      split at stepped
      · cases stepped
      · cases stepped
      · cases stepped
        exact same rfl rfl rfl rfl rfl rfl ⟨rfl, rfl, rfl⟩ rfl rfl
          (.inl ⟨rfl, rfl, rfl, rfl, rfl⟩)

/-- A stop that was asked for is never taken back. -/
theorem mainStep_gStop
    {answer : MainAnswer}
    (stepped : deployment.mainStep answer before = some after)
    (stop : before.gStop = true) :
    after.gStop = true := by
  cases at_ : before.main with
  | judging rejected =>
      rw [mainStep, at_] at stepped
      cases stepped
      unfold judge
      dsimp only
      split
      · split
        · exact stop
        · rfl
      · exact stop
  | notifying | waking exit =>
      rw [mainStep, at_] at stepped
      cases stepped
      exact (Process.WorkerFrame.notifyActivated before).gStop.trans stop
  | cutting =>
      rw [mainStep, at_] at stepped
      obtain ⟨loader, _, rfl⟩ := Option.map_eq_some_iff.mp stepped
      unfold cutRedirect
      dsimp only
      split
      · exact stop
      · split
        · exact stop
        · exact stop
  | detaching remaining =>
      rw [mainStep, at_] at stepped
      obtain ⟨loader, _, rfl⟩ := Option.map_eq_some_iff.mp stepped
      unfold detachProgram
      dsimp only
      split
      · exact stop
      · exact stop
  | exporting =>
      rw [mainStep, at_] at stepped
      cases stepped
      unfold exportSamples
      dsimp only
      split
      · exact stop
      · exact stop
  | describing =>
      rw [mainStep, at_] at stepped
      cases stepped
      unfold describeRun
      dsimp only
      split
      · exact stop
      · exact stop
  | filling =>
      rw [mainStep, at_] at stepped
      dsimp only at stepped
      split at stepped
      · cases stepped
        exact stop
      · cases stepped
        exact stop
      · cases stepped
  | awaitingPrepared asleep =>
      rw [mainStep, at_] at stepped
      cases asleep with
      | true =>
          cases stepped
      | false =>
          dsimp only at stepped
          split at stepped
          · cases stepped
            exact stop
          · cases stepped
            exact stop
  | joining exit =>
      rw [mainStep, at_] at stepped
      dsimp only at stepped
      split at stepped
      · cases exit with
        | none =>
            cases stepped
            exact stop
        | some exit =>
            cases stepped
            exact stop
      · cases stepped
  | draining =>
      rw [mainStep, at_] at stepped
      dsimp only at stepped
      split at stepped
      · cases stepped
        exact stop
      · split at stepped
        · cases stepped
          exact stop
        · split at stepped
          · cases stepped
            exact stop
          · cases stepped
            exact stop
      · cases stepped
  | choosing | activating | looping | sleeping | opening now
  | requesting exit | unblocking exit | summarizing remaining
  | leaving exit =>
      rw [mainStep, at_] at stepped
      cases stepped
      exact stop
  | spawning | checkingStop | checkingStartup | creatingLoader
  | announcing | warming now | reporting | stopping | sorting =>
      rw [mainStep, at_] at stepped
      dsimp only at stepped
      split at stepped
      · cases stepped
        exact stop
      · cases stepped
        exact stop
  | finished exit =>
      rw [mainStep, at_] at stepped
      cases stepped

end Deployment

end AfXdp
