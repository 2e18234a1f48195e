import AfXdp.FairSchedule
import AfXdp.RunReceiverFrames
import AfXdp.RunReceiverThreads

namespace AfXdp

open Interleaving
open FairSchedule

/-!
# `run_receiver` comes to its end

Once a stop was asked for, or anything has sent `main` on its way out, both
threads come to their end under every fair schedule: nobody sleeps through a
wakeup, the join waits for a worker that is on its way, and the drain has a
deadline.
-/

/-- The two threads of `run_receiver`. -/
inductive ThreadName where
  | main : ThreadName
  | worker : ThreadName
  deriving Repr, DecidableEq

/-- Whose step it is, if it is one of a thread. -/
def ProcessEvent.thread : ProcessEvent → Option ThreadName
  | .main _ =>
      some .main
  | .worker _ =>
      some .worker
  | _ =>
      none

/-- The two threads and the outside, as a system with threads. -/
def Deployment.system
    (deployment : Deployment) :
    System Process ProcessEvent ThreadName where
  step := deployment.step
  thread := ProcessEvent.thread

/-! ## How far it is to the end -/

/-- What `main` has left to do when the loop is not entered again. -/
def MainPc.rank : MainPc → Nat
  | .filling => 29
  | .spawning => 28
  | .awaitingPrepared _ => 27
  | .checkingStop => 26
  | .checkingStartup => 25
  | .creatingLoader => 24
  | .choosing => 23
  | .activating => 22
  | .notifying => 21
  | .announcing => 20
  | .sleeping => 19
  | .warming _ => 18
  | .opening _ => 17
  | .reporting => 16
  | .judging _ => 15
  | .looping => 14
  | .stopping => 13
  | .cutting => 12
  | .requesting _ => 11
  | .unblocking _ => 10
  | .waking _ => 9
  | .joining _ => 8
  | .draining => 7
  | .detaching _ => 6
  | .summarizing _ => 5
  | .leaving _ => 4
  | .sorting => 3
  | .exporting => 2
  | .describing => 1
  | .finished _ => 0

/-- What the worker has left to do when no turn is begun any more. -/
def WorkerPc.rank : WorkerPc → Nat
  | .absent => 0
  | .registering => 10
  | .preparing => 9
  | .calibrating => 8
  | .publishing => 7
  | .notifying => 6
  | .deciding => 5
  | .awaiting _ => 4
  | .turning => 3
  | .polling => 2
  | .returning => 1
  | .returned => 0

namespace Process

/-- What `main` waits for: its own wakeup, the setup, or the worker's end. -/
def block (process : Process) : Nat :=
  match process.main with
  | .awaitingPrepared asleep =>
      if process.prepared then
        if asleep then 2 else 1
      else
        process.worker.rank
  | .joining _ =>
      process.worker.rank
  | _ =>
      0

/-- The program that is waited for. -/
def work (process : Process) : Task Unit :=
  match process.main with
  | .filling | .draining =>
      process.code.pending
  | .joining _ =>
      if process.worker = .turning then process.code.pending else .done ()
  | _ =>
      .done ()

/-- How far the process is from its end. -/
def distance (process : Process) : Nat × Nat × Task Unit :=
  (process.main.rank, process.block, process.work)

/-- Smaller in the first component that differs. -/
def Below : Nat × Nat × Task Unit → Nat × Nat × Task Unit → Prop :=
  Prod.Lex (· < ·) (Prod.Lex (· < ·) Prog.Shorter)

/-- Nothing goes down for ever. -/
theorem below_wellFounded : WellFounded Below :=
  Nat.lt_wfRel.wf.prod_lex
    (Nat.lt_wfRel.wf.prod_lex Prog.shorter_wellFounded)

/-- The thread whose next step brings the end nearer. -/
def helper (process : Process) : ThreadName :=
  match process.main with
  | .awaitingPrepared asleep =>
      if process.prepared ∧ asleep = false then .main else .worker
  | .joining _ =>
      if process.worker = .returned then .main else .worker
  | _ =>
      .main

/-- A stop was asked for, or `main` is on its way out. -/
def Ending (process : Process) : Prop :=
  process.gStop = true ∨ process.main.rank ≤ MainPc.stopping.rank

end Process

/-! ## Every step -/

/-- The end comes nearer, or another thread than the awaited one moved. -/
def Process.Onward
    (thread : Option ThreadName)
    (before after : Process) :
    Prop :=
  Process.Below after.distance before.distance ∨
    after.distance = before.distance ∧
      after.helper = before.helper ∧
      thread ≠ some before.helper

namespace Process

variable {process before after : Process}
variable {thread : Option ThreadName}
variable {asleep : Bool}

/-- While the worker prepares itself, `main` waits for its steps. -/
theorem block_unprepared
    (at_ : process.main = .awaitingPrepared asleep)
    (unprepared : process.prepared = false) :
    process.block = process.worker.rank := by
  simp [block, at_, unprepared]

/-- After that only the wakeup is missing. -/
theorem block_prepared
    (at_ : process.main = .awaitingPrepared asleep)
    (prepared : process.prepared = true) :
    process.block = if asleep then 2 else 1 := by
  simp [block, at_, prepared]

/-- The worker is the one to wait for. -/
theorem helper_unprepared
    (at_ : process.main = .awaitingPrepared asleep)
    (unprepared : process.prepared = false) :
    process.helper = .worker := by
  simp [helper, at_, unprepared]

/-- Then it is `main` itself. -/
theorem helper_prepared
    (at_ : process.main = .awaitingPrepared false)
    (prepared : process.prepared = true) :
    process.helper = .main := by
  simp [helper, at_, prepared]

/-- Neither has packets to work on. -/
theorem work_awaiting
    (at_ : process.main = .awaitingPrepared asleep) :
    process.work = .done () := by
  simp [work, at_]

/-- In the join `main` waits for the worker's steps. -/
theorem block_joining
    {exit : Option Exit}
    (at_ : process.main = .joining exit) :
    process.block = process.worker.rank := by
  simp [block, at_]

/-- They include the rest of the turn. -/
theorem work_joining
    {exit : Option Exit}
    (at_ : process.main = .joining exit)
    (turning : process.worker = .turning) :
    process.work = process.code.pending := by
  simp [work, at_, turning]

/-- `main` has moved on. -/
theorem Onward.lower
    (lower : after.main.rank < before.main.rank) :
    Onward thread before after :=
  .inl (.left _ _ lower)

/-- The one it waits for has moved on. -/
theorem Onward.unblocked
    (same : after.main.rank = before.main.rank)
    (lower : after.block < before.block) :
    Onward thread before after := by
  refine .inl ?_
  unfold distance
  rw [same]
  exact .right _ (.left _ _ lower)

/-- The turn has moved on. -/
theorem Onward.worked
    (same : after.main.rank = before.main.rank)
    (block : after.block = before.block)
    (shorter : Prog.Shorter after.work before.work) :
    Onward thread before after := by
  refine .inl ?_
  unfold distance
  rw [same, block]
  exact .right _ (.right _ shorter)

/-- Nothing that the distance is made of has changed. -/
theorem Onward.same
    (main : after.main = before.main)
    (worker : after.worker = before.worker)
    (prepared : after.prepared = before.prepared)
    (code : after.code = before.code)
    (other : thread ≠ some before.helper) :
    Onward thread before after := by
  refine .inr ⟨?_, ?_, other⟩
  · simp only [distance, block, work, main, worker, prepared, code]
  · simp only [helper, main, worker, prepared]

/-- `main` falls asleep or wakes up, and there is nothing to see yet. -/
theorem Onward.unprepared
    {asleep awake : Bool}
    (first : before.main = .awaitingPrepared asleep)
    (then_ : after.main = .awaitingPrepared awake)
    (early : before.prepared = false)
    (prepared : after.prepared = before.prepared)
    (worker : after.worker = before.worker)
    (other : thread ≠ some .worker) :
    Onward thread before after := by
  have early' : after.prepared = false := prepared.trans early
  refine .inr ⟨?_, ?_, ?_⟩
  · rw [distance, distance, block_unprepared first early,
      block_unprepared then_ early', work_awaiting first,
      work_awaiting then_, worker, first, then_]
    rfl
  · rw [helper_unprepared first early, helper_unprepared then_ early']
  · rw [helper_unprepared first early]
    exact other

end Process

/-! ## Steps of `main` -/

/-- What a step of `main` does on the way to the end. -/
inductive Process.Advance (before after : Process) : Prop where
  | lower
      (lower : after.main.rank < before.main.rank) :
      Process.Advance before after
  | program
      (at_ : before.main = .filling ∨ before.main = .draining)
      (same : after.main = before.main)
      (shorter : Prog.Shorter after.code.pending before.code.pending) :
      Process.Advance before after
  | sleeps
      (at_ : before.main = .awaitingPrepared false)
      (early : before.prepared = false)
      (moved :
        after = { before with main := .awaitingPrepared true }) :
      Process.Advance before after

namespace Deployment

variable {deployment : Deployment}
variable {before after : Process}

/-- To a place with a lower rank. -/
theorem lower_of
    {pc next : MainPc}
    (at_ : before.main = pc)
    (then_ : after.main = next)
    (lower : decide (next.rank < pc.rank) = true) :
    before.Advance after := by
  refine .lower ?_
  rw [at_, then_]
  exact of_decide_eq_true lower

/-- Every step of `main` after the stop is asked for leads on. -/
theorem mainStep_advance
    {answer : MainAnswer}
    (ending : before.Ending)
    (stepped : deployment.mainStep answer before = some after) :
    before.Advance after := by
  cases at_ : before.main with
  | filling =>
      rw [mainStep, at_] at stepped
      dsimp only at stepped
      split at stepped
      · next effect rest code =>
          cases stepped
          refine .program (.inl at_) at_.symm ?_
          rw [code]
          exact .step effect rest before.world
      · cases stepped
        exact lower_of at_ rfl rfl
      · cases stepped
  | spawning =>
      rw [mainStep, at_] at stepped
      dsimp only at stepped
      split at stepped
      · cases stepped
        exact lower_of at_ rfl rfl
      · cases stepped
        exact lower_of at_ rfl rfl
  | awaitingPrepared asleep =>
      rw [mainStep, at_] at stepped
      cases asleep with
      | true =>
          cases stepped
      | false =>
          dsimp only at stepped
          split at stepped
          · cases stepped
            exact lower_of at_ rfl rfl
          · next early =>
              cases stepped
              exact .sleeps at_ (Bool.eq_false_of_not_eq_true early) rfl
  | looping =>
      -- The loop is left: the flag is set, for `main` is not past it.
      have stop : before.gStop = true := by
        rcases ending with stop | late
        · exact stop
        · rw [at_] at late
          simp [MainPc.rank] at late
      rw [mainStep, at_] at stepped
      dsimp only at stepped
      rw [if_pos stop] at stepped
      cases stepped
      exact lower_of at_ rfl rfl
  | judging rejected =>
      rw [mainStep, at_] at stepped
      cases stepped
      obtain ⟨_, looping | unwinding⟩ := judge_frame rejected answer before
      · exact lower_of at_ looping rfl
      · exact lower_of at_ unwinding rfl
  | cutting =>
      rw [mainStep, at_] at stepped
      obtain ⟨loader, _, rfl⟩ := Option.map_eq_some_iff.mp stepped
      obtain ⟨_, _, requesting⟩ := cutRedirect_frame loader answer before
      exact lower_of at_ requesting rfl
  | detaching remaining =>
      rw [mainStep, at_] at stepped
      obtain ⟨loader, _, rfl⟩ := Option.map_eq_some_iff.mp stepped
      obtain ⟨_, summarizing | ⟨_, leaving⟩⟩ :=
        detachProgram_frame loader remaining answer before
      · exact lower_of at_ summarizing rfl
      · exact lower_of at_ leaving rfl
  | joining exit =>
      rw [mainStep, at_] at stepped
      dsimp only at stepped
      split at stepped
      · cases exit with
        | none =>
            cases stepped
            exact lower_of at_ rfl rfl
        | some exit =>
            cases stepped
            exact lower_of at_ rfl rfl
      · cases stepped
  | draining =>
      rw [mainStep, at_] at stepped
      dsimp only at stepped
      split at stepped
      · next effect rest code =>
          cases stepped
          refine .program (.inr at_) at_.symm ?_
          rw [code]
          exact .step effect
            (fun world =>
              (rest world).bind fun remaining =>
                Prog.update (Main.summarize remaining))
            before.world
      · split at stepped
        · cases stepped
          exact lower_of at_ rfl rfl
        · split at stepped
          · cases stepped
            exact lower_of at_ rfl rfl
          · cases stepped
            exact lower_of at_ rfl rfl
      · cases stepped
  | leaving exit =>
      rw [mainStep, at_] at stepped
      cases stepped
      cases exit with
      | none =>
          exact lower_of at_ rfl rfl
      | some exit =>
          exact lower_of at_ rfl rfl
  | exporting =>
      rw [mainStep, at_] at stepped
      cases stepped
      obtain ⟨_, describing | finished⟩ :=
        @exportSamples_frame deployment answer before
      · exact lower_of at_ describing rfl
      · exact lower_of at_ finished rfl
  | describing =>
      rw [mainStep, at_] at stepped
      cases stepped
      obtain ⟨_, _, finished⟩ :=
        @describeRun_frame deployment answer before
      exact lower_of at_ finished rfl
  | activating | notifying | sleeping | opening now | unblocking exit
  | waking exit | summarizing remaining =>
      rw [mainStep, at_] at stepped
      cases stepped
      exact lower_of at_ rfl rfl
  | creatingLoader | checkingStop | checkingStartup | choosing
  | announcing | warming now | reporting | stopping | requesting exit
  | sorting =>
      rw [mainStep, at_] at stepped
      dsimp only at stepped
      split at stepped
      · cases stepped
        exact lower_of at_ rfl rfl
      · cases stepped
        exact lower_of at_ rfl rfl
  | finished exit =>
      rw [mainStep, at_] at stepped
      cases stepped

/-! ## Steps of the worker -/

/-- Inside a turn the program gets shorter, or the turn ends. -/
theorem turning_onward
    {answer : WorkerAnswer}
    (turning : before.worker = .turning)
    (stepped : deployment.workerStep answer before = some after) :
    after.worker = .turning ∧
        Prog.Shorter after.code.pending before.code.pending ∨
      after.worker = .polling := by
  rw [workerStep, turning] at stepped
  dsimp only at stepped
  split at stepped
  · next effect rest code =>
      cases stepped
      obtain ⟨_, worker⟩ :=
        clockCallback_pcs answer.ticks before.world
          (effect before.world) before
      refine .inl ⟨worker.trans turning, ?_⟩
      rw [code]
      exact .step effect rest before.world
  · cases stepped
    exact .inr rfl
  · cases stepped

/-- Before `prepared` is set the worker moves on towards it. -/
theorem early_onward
    {first second : Handshake}
    (moved : Handshake.WorkerMove first second)
    (early : first.worker.early = true) :
    second.worker.rank < first.worker.rank ∧
      (second.prepared = first.prepared ∨ first.worker = .publishing) := by
  cases moved with
  | late at_ | register at_ | fail at_ | prepare at_ | calibrate at_ =>
      rw [at_]
      exact ⟨of_decide_eq_true rfl, .inl rfl⟩
  | publish at_ =>
      rw [at_]
      exact ⟨of_decide_eq_true rfl, .inr rfl⟩
  | notify at_ | giveUp at_ | await at_ | sleep at_ | proceed at_
  | begin at_ | work at_ | end_ at_ | stop at_ | return_ at_ =>
      rw [at_] at early
      cases early

/-- The flag is never taken back. -/
theorem workerMove_prepared
    {first second : Handshake}
    (moved : Handshake.WorkerMove first second)
    (prepared : first.prepared = true) :
    second.prepared = true := by
  cases moved with
  | publish _ =>
      rfl
  | notify _ =>
      unfold Handshake.wakeMain
      split
      · exact prepared
      · exact prepared
  | _ =>
      exact prepared

/-- After the stop was requested the worker moves on towards its end. -/
theorem joining_onward
    {first second : Handshake}
    (moved : Handshake.WorkerMove first second)
    (activated : first.activated = true)
    (stopped : first.stopRequested = true)
    (notTurning : first.worker ≠ .turning) :
    second.worker.rank < first.worker.rank := by
  cases moved with
  | sleep at_ held =>
      rw [activated] at held
      cases held
  | begin at_ running =>
      rw [stopped] at running
      cases running
  | work at_ | end_ at_ =>
      exact absurd at_ notTurning
  | late at_ | register at_ | fail at_ | prepare at_ | calibrate at_
  | publish at_ | notify at_ | giveUp at_ | await at_ | proceed at_
  | stop at_ | return_ at_ =>
      rw [at_]
      exact of_decide_eq_true rfl

/-- `main` and what it waits for, after a step of the worker. -/
theorem main_of_workerStep
    {answer : WorkerAnswer}
    (stepped : deployment.workerStep answer before = some after)
    (notAsleep : before.main ≠ .awaitingPrepared true) :
    after.main = before.main := by
  rcases (workerStep_frame stepped).main with same | ⟨asleep, _⟩
  · exact same
  · exact absurd asleep notAsleep

/-- The worker moves while `main` waits until it is prepared. -/
theorem workerStep_awaited
    {answer : WorkerAnswer}
    {asleep : Bool}
    (inStep : before.handshake.InStep)
    (at_ : before.main = .awaitingPrepared asleep)
    (stepped : deployment.workerStep answer before = some after) :
    Process.Onward (some .worker) before after := by
  have moved := workerStep_move stepped
  have rank : after.main.rank = before.main.rank := by
    rcases (workerStep_frame stepped).main with same | ⟨asleep, awake⟩
    · rw [same]
    · rw [asleep, awake]
      rfl
  cases prepared : before.prepared with
  | false =>
      -- Until `prepared` is set, the worker is on its way to set it.
      have early : before.worker.early = true := by
        have late := inStep.prepared
        rw [show before.handshake.prepared = false from prepared] at late
        exact (Bool.not_eq_false_eq_eq_true _).mp late.symm
      obtain ⟨lower, unset | publishing⟩ := early_onward moved early
      · refine .unblocked rank ?_
        have unprepared : after.prepared = false := unset.trans prepared
        have waits : ∃ asleep, after.main = .awaitingPrepared asleep := by
          rcases (workerStep_frame stepped).main with same | ⟨_, awake⟩
          · exact ⟨asleep, same.trans at_⟩
          · exact ⟨false, awake⟩
        obtain ⟨asleep, waits⟩ := waits
        rw [Process.block_unprepared at_ prepared,
          Process.block_unprepared waits unprepared]
        exact lower
      · change before.worker = .publishing at publishing
        have set :
            after.main = .awaitingPrepared asleep ∧
              after.prepared = true := by
          rw [workerStep, publishing] at stepped
          cases stepped
          exact ⟨at_, rfl⟩
        refine .unblocked rank ?_
        rw [Process.block_unprepared at_ prepared, publishing,
          Process.block_prepared set.1 set.2]
        cases asleep with
        | false =>
            decide
        | true =>
            decide
  | true =>
      have kept : after.prepared = true :=
        workerMove_prepared moved prepared
      cases asleep with
      | false =>
          -- `main` sees the flag at its next step.
          have same := main_of_workerStep stepped (by simp [at_])
          have at_' := same.trans at_
          refine .inr ⟨?_, ?_, ?_⟩
          · rw [Process.distance, Process.distance, same,
              Process.block_prepared at_ prepared,
              Process.block_prepared at_' kept,
              Process.work_awaiting at_, Process.work_awaiting at_']
          · rw [Process.helper_prepared at_ prepared,
              Process.helper_prepared at_' kept]
          · rw [Process.helper_prepared at_ prepared]
            decide
      | true =>
          -- Only the worker that is about to notify can be here.
          have notifying : before.worker = .notifying :=
            inStep.mainAsleep (congrArg MainPc.stage at_) prepared
          rw [workerStep, notifying] at stepped
          cases stepped
          refine .unblocked rank ?_
          simp [Process.block, at_, prepared, Process.notifyPrepared]

/-- The worker moves while `main` waits for its end. -/
theorem workerStep_joined
    {answer : WorkerAnswer}
    {exit : Option Exit}
    (inStep : before.handshake.InStep)
    (at_ : before.main = .joining exit)
    (stepped : deployment.workerStep answer before = some after) :
    Process.Onward (some .worker) before after := by
  have same := main_of_workerStep stepped (by simp [at_])
  have rank : after.main.rank = before.main.rank := by
    rw [same]
  have at_' := same.trans at_
  by_cases turning : before.worker = .turning
  · rcases turning_onward turning stepped with
      ⟨stays, shorter⟩ | polling
    · refine .worked rank ?_ ?_
      · rw [Process.block_joining at_, Process.block_joining at_',
          stays, turning]
      · rw [Process.work_joining at_ turning,
          Process.work_joining at_' stays]
        exact shorter
    · refine .unblocked rank ?_
      rw [Process.block_joining at_, Process.block_joining at_',
        polling, turning]
      decide
  · have present : before.worker ≠ .absent :=
      inStep.present (by simp [Process.handshake, at_, MainPc.stage])
        (by simp [Process.handshake, at_, MainPc.stage])
    have stopped : before.stopRequested = true := by
      have requested := inStep.requested present
      rw [show before.handshake.stage = .joining exit.isNone from
        congrArg MainPc.stage at_] at requested
      exact requested
    have running : before.worker ≠ .returned := by
      intro returned
      rw [workerStep, returned] at stepped
      cases stepped
    have activated : before.activated = true :=
      (inStep.joining exit.isNone (congrArg MainPc.stage at_)).2 running
    refine .unblocked rank ?_
    rw [Process.block_joining at_, Process.block_joining at_']
    exact joining_onward (workerStep_move stepped) activated stopped
      turning

/-- Whatever the worker does, the end is not pushed off. -/
theorem workerStep_onward
    {answer : WorkerAnswer}
    (inStep : before.handshake.InStep)
    (stepped : deployment.workerStep answer before = some after) :
    Process.Onward (some .worker) before after := by
  cases at_ : before.main with
  | awaitingPrepared asleep =>
      exact workerStep_awaited inStep at_ stepped
  | joining exit =>
      exact workerStep_joined inStep at_ stepped
  | filling =>
      rw [workerStep, show before.worker = .absent from
        inStep.spawned (congrArg MainPc.stage at_)] at stepped
      cases stepped
  | draining =>
      have returned : before.worker = .returned :=
        inStep.returned (congrArg (fun pc => pc.stage.joined) at_)
          (by simp [Process.handshake, at_, MainPc.stage])
      rw [workerStep, returned] at stepped
      cases stepped
  | _ =>
      have same := main_of_workerStep stepped (by simp [at_])
      refine .inr ⟨?_, ?_, ?_⟩
      · simp only [Process.distance, Process.block, Process.work, same,
          at_]
      · simp only [Process.helper, same, at_]
      · simp [Process.helper, at_]

/-! ## All events -/

/-- A wakeup of `main` is what it waits for, or changes nothing. -/
theorem notifyPrepared_onward (process : Process) :
    Process.Onward none process process.notifyPrepared := by
  unfold Process.notifyPrepared
  split
  · next asleep =>
      cases prepared : process.prepared with
      | true =>
          refine .unblocked (by rw [asleep]; rfl) ?_
          rw [show process.block = 2 from
            Process.block_prepared asleep prepared]
          simp [Process.block]
      | false =>
          exact .unprepared asleep rfl prepared prepared.symm rfl (by simp)
  · exact .same rfl rfl rfl rfl (by simp)

/-- Nobody waits for a worker that could be woken. -/
theorem notifyActivated_onward
    (inStep : before.handshake.InStep) :
    Process.Onward none before before.notifyActivated := by
  unfold Process.notifyActivated
  split
  · next asleep =>
      cases at_ : before.main with
      | awaitingPrepared asleep' =>
          have prepared : before.prepared = true := by
            have late := inStep.prepared
            rw [show before.handshake.worker = _ from asleep] at late
            exact late
          refine .inr ⟨?_, ?_, by simp⟩
          · simp only [Process.distance, Process.block, Process.work, at_,
              prepared, ↓reduceIte]
          · simp only [Process.helper, at_, prepared]
      | joining exit =>
          exact absurd asleep
            (inStep.joining exit.isNone (congrArg MainPc.stage at_)).1
      | _ =>
          refine .inr ⟨?_, ?_, by simp⟩
          · simp only [Process.distance, Process.block, Process.work, at_]
          · simp only [Process.helper, at_]
  · exact .same rfl rfl rfl rfl (by simp)

/-- So it goes down. -/
theorem mainStep_onward
    {answer : MainAnswer}
    (ending : before.Ending)
    (stepped : deployment.mainStep answer before = some after) :
    Process.Onward (some .main) before after := by
  cases mainStep_advance ending stepped with
  | lower lower =>
      exact .lower lower
  | program at_ same shorter =>
      refine .worked (by rw [same]) ?_ ?_
      · rcases at_ with at_ | at_ <;>
          simp only [Process.block, same, at_]
      · rcases at_ with at_ | at_
        · simp only [Process.work, same, at_]
          exact shorter
        · simp only [Process.work, same, at_]
          exact shorter
  | sleeps at_ early moved =>
      subst moved
      exact .unprepared at_ rfl early rfl rfl (by simp)

/-- No step goes up, and one of the thread that is waited for goes down. -/
theorem step_onward
    {event : ProcessEvent}
    (inStep : before.handshake.InStep)
    (ending : before.Ending)
    (stepped : deployment.step event before = some after) :
    Process.Onward event.thread before after := by
  cases event with
  | main answer =>
      exact mainStep_onward ending stepped
  | worker answer =>
      exact workerStep_onward inStep stepped
  | signal =>
      cases stepped
      exact .same rfl rfl rfl rfl (by simp [ProcessEvent.thread])
  | kernel kernelStep =>
      obtain ⟨world, _, rfl⟩ := Option.map_eq_some_iff.mp stepped
      exact .same rfl rfl rfl rfl (by simp [ProcessEvent.thread])
  | wakeMain =>
      cases stepped
      exact notifyPrepared_onward before
  | wakeWorker =>
      cases stepped
      exact notifyActivated_onward inStep

/-! ## On the way -/

/-- Nothing turns back. -/
theorem step_ending
    {event : ProcessEvent}
    (ending : before.Ending)
    (stepped : deployment.step event before = some after) :
    after.Ending := by
  have framed (frame : before.WorkerFrame after) : after.Ending := by
    rcases ending with stop | late
    · exact .inl (frame.gStop.trans stop)
    · refine .inr ?_
      rcases frame.main with same | ⟨asleep, _⟩
      · rw [same]
        exact late
      · rw [asleep] at late
        simp [MainPc.rank] at late
  cases event with
  | main answer =>
      rcases ending with stop | late
      · exact .inl (mainStep_gStop stepped stop)
      · refine .inr ?_
        cases mainStep_advance (.inr late) stepped with
        | lower lower =>
            exact Nat.le_of_lt (Nat.lt_of_lt_of_le lower late)
        | program _ same _ =>
            rw [same]
            exact late
        | sleeps at_ _ _ =>
            rw [at_] at late
            simp [MainPc.rank] at late
  | worker answer =>
      exact framed (workerStep_frame stepped)
  | signal =>
      cases stepped
      exact .inl rfl
  | kernel kernelStep =>
      obtain ⟨world, _, rfl⟩ := Option.map_eq_some_iff.mp stepped
      exact ending
  | wakeMain =>
      cases stepped
      exact framed (.notifyPrepared before)
  | wakeWorker =>
      cases stepped
      exact framed (.notifyActivated before)

/-- `main` is never stuck where nobody else is waited for. -/
theorem main_able
    (answer : MainAnswer)
    (inStep : before.handshake.InStep)
    (inCode : before.InCode)
    (awaited : before.helper = .main)
    (running : ∀ exit, before.main ≠ .finished exit) :
    ∃ after, deployment.mainStep answer before = some after := by
  cases at_ : before.main with
  | filling =>
      obtain ⟨rest, code, _⟩ := inCode.filling at_
      cases rest with
      | done _ =>
          simp [mainStep, at_, code]
      | step effect later =>
          simp [mainStep, at_, code]
  | awaitingPrepared asleep =>
      cases asleep with
      | true =>
          simp [Process.helper, at_] at awaited
      | false =>
          rw [mainStep, at_]
          dsimp only
          split
          · exact ⟨_, rfl⟩
          · exact ⟨_, rfl⟩
  | cutting | detaching remaining =>
      have loaded : before.loader.isSome = true :=
        inStep.attached (by rw [Process.handshake, at_]; rfl)
      obtain ⟨loader, loaded⟩ := Option.isSome_iff_exists.mp loaded
      simp [mainStep, at_, loaded]
  | joining exit =>
      have returned : before.worker = .returned := by
        by_contra alive
        simp [Process.helper, at_, alive] at awaited
      cases exit with
      | none =>
          simp [mainStep, at_, returned]
      | some exit =>
          simp [mainStep, at_, returned]
  | draining =>
      obtain ⟨rest, code, _⟩ := inCode.draining at_
      cases rest with
      | step effect later =>
          simp [mainStep, at_, code]
      | done remaining =>
          rw [mainStep, at_]
          dsimp only
          rw [code]
          dsimp only
          split
          · exact ⟨_, rfl⟩
          · split
            · exact ⟨_, rfl⟩
            · exact ⟨_, rfl⟩
  | activating | notifying | sleeping | opening now | unblocking exit
  | waking exit | summarizing remaining | judging rejected | choosing
  | looping | requesting exit | leaving exit | exporting | describing =>
      rw [mainStep, at_]
      exact ⟨_, rfl⟩
  | spawning | creatingLoader | checkingStop | checkingStartup
  | announcing | warming now | reporting | stopping | sorting =>
      rw [mainStep, at_]
      dsimp only
      split
      · exact ⟨_, rfl⟩
      · exact ⟨_, rfl⟩
  | finished exit =>
      exact absurd at_ (running exit)

/-- The worker is never stuck when it is waited for. -/
theorem worker_able
    (answer : WorkerAnswer)
    (inStep : before.handshake.InStep)
    (inCode : before.InCode)
    (awaited : before.helper = .worker) :
    ∃ after, deployment.workerStep answer before = some after := by
  -- Whoever waits knows that the worker exists, is not over, and is awake.
  obtain ⟨present, alive, awake, free⟩ :
      before.worker ≠ .absent ∧ before.worker ≠ .returned ∧
        before.worker ≠ .awaiting true ∧
        ∀ exit,
          before.main ≠ .unblocking exit ∧ before.main ≠ .waking exit := by
    cases at_ : before.main with
    | awaitingPrepared asleep =>
        have present : before.worker ≠ .absent :=
          inStep.present (by simp [Process.handshake, at_, MainPc.stage])
            (by simp [Process.handshake, at_, MainPc.stage])
        have here :
            before.worker.early = true ∨ before.worker = .notifying := by
          cases prepared : before.prepared with
          | false =>
              have early := inStep.prepared
              rw [show before.handshake.prepared = false from prepared]
                at early
              exact .inl ((Bool.not_eq_false_eq_eq_true _).mp early.symm)
          | true =>
              cases asleep with
              | true =>
                  exact .inr
                    (inStep.mainAsleep (congrArg MainPc.stage at_) prepared)
              | false =>
                  rw [Process.helper_prepared at_ prepared] at awaited
                  cases awaited
        refine ⟨present, ?_, ?_, by simp⟩
        · intro returned
          simp [returned, WorkerPc.early] at here
        · intro asleep
          simp [asleep, WorkerPc.early] at here
    | joining exit =>
        refine ⟨?_, ?_, ?_, by simp⟩
        · exact inStep.present
            (by simp [Process.handshake, at_, MainPc.stage])
            (by simp [Process.handshake, at_, MainPc.stage])
        · intro returned
          simp [Process.helper, at_, returned] at awaited
        · exact (inStep.joining exit.isNone (congrArg MainPc.stage at_)).1
    | _ =>
        simp [Process.helper, at_] at awaited
  cases at_ : before.worker with
  | absent =>
      exact absurd at_ present
  | returned =>
      exact absurd at_ alive
  | awaiting asleep =>
      cases asleep with
      | true =>
          exact absurd at_ awake
      | false =>
          rw [workerStep, at_]
          dsimp only
          split
          · exact ⟨_, rfl⟩
          · exact ⟨_, rfl⟩
  | turning =>
      obtain ⟨rest, code, _⟩ := inCode.turning at_
      cases rest with
      | done _ =>
          simp [workerStep, at_, code]
      | step effect later =>
          simp [workerStep, at_, code]
  | returning =>
      rw [workerStep, at_]
      dsimp only
      split
      · next exit unblocking =>
          exact absurd unblocking (free exit).1
      · next exit waking =>
          exact absurd waking (free exit).2
      · exact ⟨_, rfl⟩
  | calibrating | publishing | notifying =>
      rw [workerStep, at_]
      exact ⟨_, rfl⟩
  | registering | preparing | deciding | polling =>
      rw [workerStep, at_]
      dsimp only
      split
      · exact ⟨_, rfl⟩
      · exact ⟨_, rfl⟩

/-! ## The end -/

/-- The way of both threads to the end of `run_receiver`. -/
def wayOut (deployment : Deployment) :
    Way deployment.system (fun process => ∃ exit, process.main = .finished exit)
      (Nat × Nat × Task Unit) where
  invariant process := deployment.Reachable process ∧ process.Ending
  below := Process.Below
  wellFounded := Process.below_wellFounded
  measure := Process.distance
  helper := Process.helper
  preserved stepped kept :=
    ⟨.step kept.1 stepped, step_ending kept.2 stepped⟩
  enabled := by
    rintro process ⟨reachable, _⟩ running
    have inStep := reachable.inStep
    have inCode := reachable.packets.1
    cases awaited : process.helper with
    | main =>
        obtain ⟨after, stepped⟩ :=
          @main_able deployment process (sampleAnswer 0) inStep inCode
            awaited fun exit finished => running ⟨exit, finished⟩
        exact ⟨sampleMain 0, after, rfl, stepped⟩
    | worker =>
        obtain ⟨after, stepped⟩ :=
          @worker_able deployment process
            { affinity := none
              scheduler := none
              calibration := .error .ecanceled
              policy := 0
              priority := none
              ticks := 0 }
            inStep inCode awaited
        exact ⟨.worker _, after, rfl, stepped⟩
  onward stepped kept _ :=
    .inr (step_onward kept.1.inStep kept.2 stepped)

variable {run : Run deployment.system}
variable {start : Nat}

/--
A fair schedule that has come to a reachable state where a stop was asked for,
or where `main` has left its loop, comes to the end of `run_receiver`, and the
worker is over by then.
-/
theorem run_receiver_ends
    (fair : run.Fair)
    (reachable : deployment.Reachable (run.state start))
    (ending : (run.state start).Ending) :
    ∃ time exit,
      start ≤ time ∧ (run.state time).main = .finished exit ∧
        ((run.state time).worker = .absent ∨
          (run.state time).worker = .returned) := by
  obtain ⟨time, later, exit, finished⟩ :=
    deployment.wayOut.reaches fair ⟨reachable, ending⟩
  have reached : deployment.Reachable (run.state time) :=
    (run.always deployment.wayOut.preserved ⟨reachable, ending⟩
      time later).1
  refine ⟨time, exit, later, finished, reached.inStep.joined ?_⟩
  rw [Process.handshake, finished]
  rfl

/-- When both threads are over, only wakeups that reach nobody are left. -/
theorem rest_of_finished
    {process : Process}
    {exit : Exit}
    (finished : process.main = .finished exit)
    (returned : process.worker = .returned) :
    deployment.system.Rest .wakeMain process where
  unchanged := by
    change some process.notifyPrepared = some process
    rw [Process.notifyPrepared, if_neg (by simp [finished])]
  stuck := by
    rintro thread ⟨event, after, acts, stepped⟩
    cases event with
    | main answer =>
        simp [system, step, mainStep, finished] at stepped
    | worker answer =>
        simp [system, step, workerStep, returned] at stepped
    | signal | kernel kernelStep | wakeMain | wakeWorker =>
        cases acts

/-- The small instance gets a signal before its worker is prepared. -/
def sampleSignalled : List ProcessEvent :=
  List.replicate 9 (sampleMain 0) ++ [.signal]

/-- Both threads go on from there to the end. -/
def sampleShutdown : List ProcessEvent :=
  List.replicate 6 (sampleWorker 0) ++
    List.replicate 5 (sampleMain 0) ++
    List.replicate 3 (sampleWorker 0) ++
    List.replicate 2 (sampleMain 0)

/-- The signal comes while `main` waits for the worker to be prepared. -/
theorem run_receiver_ends_signalled :
    ∃ run : Run sample.system,
      run.Fair ∧ (run.state 0).gStop = true ∧
        (run.state 0).main = .awaitingPrepared false ∧
        ∃ time exit, (run.state time).main = .finished exit := by
  obtain ⟨first, ran, stop, waiting⟩ :
      ∃ first,
        sample.run sampleSignalled sample.start = some first ∧
          first.gStop = true ∧ first.main = .awaitingPrepared false :=
    ⟨_, rfl, rfl, rfl⟩
  obtain ⟨last, performed, finished, returned⟩ :
      ∃ last,
        sampleShutdown.foldlM
            (fun state event => sample.system.step event state) first =
          some last ∧
          last.main = .finished (.status 0) ∧ last.worker = .returned := by
    cases ran
    exact ⟨_, rfl, rfl, rfl⟩
  obtain ⟨run, fair, begins⟩ :=
    System.exists_fair (rest_of_finished finished returned) performed
  rw [← begins] at ran stop waiting
  obtain ⟨time, exit, _, finished, _⟩ :=
    run_receiver_ends fair (Reachable.start.run ran) (.inl stop)
  exact ⟨run, fair, stop, waiting, time, exit, finished⟩

end Deployment

end AfXdp
