import AfXdp.RefillFill
import AfXdp.ThreadHandshake

namespace AfXdp

open Interleaving

/-!
# Two threads, one owner

The packet objects have no locks.  This module shows why they need none: in
every interleaving of the two threads of `run_receiver` at most one of them is
inside code on these objects, and what they do to them one after the other is
a run of the reflector.  The same invariant says what is alive while the
worker is polling, and that no wakeup between the threads gets lost.
-/

/-! ## Code that does not report -/

/-- An effect that leaves the run summary alone. -/
def Unreported (effect : World → World) : Prop :=
  ∀ world, (effect world).summary = world.summary

/-- An effect outside callbacks, which also leaves their account alone. -/
def Calm (effect : World → World) : Prop :=
  ∀ world,
    (effect world).summary = world.summary ∧
      (effect world).bench = world.bench ∧
      (effect world).aux.verdicts = world.aux.verdicts ∧
      (effect world).aux.current = world.aux.current

/-- A calm effect does not report. -/
theorem Calm.unreported
    {effect : World → World}
    (calm : Calm effect) :
    Unreported effect :=
  fun world => (calm world).1

section Calm

variable {config : Config}

/-- Servicing TX is outside callbacks. -/
theorem ServiceEffect.calm
    {effect : World → World}
    (serviced : ServiceEffect config effect) :
    Calm effect := by
  intro world
  cases serviced <;> exact ⟨rfl, rfl, rfl, rfl⟩

/-- So is publishing what is staged. -/
theorem publishStaged_calm : Calm Transmitter.publishStaged := by
  intro world
  exact Transmitter.publishStaged_branches
    (fun _ => ⟨rfl, rfl, rfl, rfl⟩) (fun _ => ⟨rfl, rfl, rfl, rfl⟩)

/-- So are both together. -/
theorem publishAndServiceTx_calm :
    (Transmitter.publishAndServiceTx config).Uses Calm :=
  ⟨publishStaged_calm, fun _ =>
    serviceTx_uses.mono fun _ effect => effect.calm⟩

/-- So is draining, by induction on the rounds. -/
theorem drainUntil_calm (beforeDeadline : List Bool) :
    (Transmitter.drainUntil config beforeDeadline).Uses Calm := by
  induction beforeDeadline with
  | nil =>
      exact .bind publishAndServiceTx_calm fun _ =>
        .act fun _ => ⟨rfl, rfl, rfl, rfl⟩
  | cons early later inductionHypothesis =>
      refine .bind publishAndServiceTx_calm fun _ => ?_
      refine .bind (.act fun _ => ⟨rfl, rfl, rfl, rfl⟩)
        fun outstanding => ?_
      split
      · exact inductionHypothesis
      · exact .done outstanding

/-- So is refilling Fill. -/
theorem refillFill_calm : Xsk.refillFill.Uses Calm := by
  refine .bind (.act fun _ => ⟨rfl, rfl, rfl, rfl⟩) fun window => ?_
  refine .bind (Xsk.fillLoop_uses ?_ _ _ _) fun pushed => ?_
  · intro index world
    change (Xsk.fillPush index world).2.summary = _ ∧
      (Xsk.fillPush index world).2.bench = _ ∧
      (Xsk.fillPush index world).2.aux.verdicts = _ ∧
      (Xsk.fillPush index world).2.aux.current = _
    exact Xsk.fillPush_branches ⟨rfl, rfl, rfl, rfl⟩
      fun _ _ => ⟨rfl, rfl, rfl, rfl⟩
  · exact .bind (.when (.act fun _ => ⟨rfl, rfl, rfl, rfl⟩))
      fun _ => .done _

/-- So is the wakeup of RX. -/
theorem requestRxProgress_calm :
    (Xsk.requestRxProgress config).Uses Calm := by
  refine .bind (.act fun _ => ⟨rfl, rfl, rfl, rfl⟩) fun wanted => ?_
  split
  · exact .act fun _ => ⟨rfl, rfl, rfl, rfl⟩
  · exact .done none

/-- So is the whole startup. -/
theorem startup_calm : (Main.startup config).Uses Calm := by
  refine .bind refillFill_calm fun _ => ?_
  refine .bind requestRxProgress_calm fun _ => ?_
  exact .act fun _ => ⟨rfl, rfl, rfl, rfl⟩

/-- Sending does not write the summary. -/
theorem sendInPlace_unreported
    (addr : UInt64)
    (length : UInt32) :
    (Transmitter.sendInPlace config addr length).Uses Unreported := by
  have reserve : Unreported Transmitter.reserve := by
    intro world
    unfold Transmitter.reserve
    split <;> rfl
  have refresh :
      Unreported fun world => (Transmitter.refresh world).2 := by
    intro world
    change (Transmitter.refresh world).2.summary = world.summary
    unfold Transmitter.refresh
    split <;> rfl
  unfold Transmitter.sendInPlace
  split
  · exact .bind (.act fun _ => rfl) fun _ => .done false
  · refine .bind (.act reserve) fun _ => ?_
    refine .bind (.act refresh) fun full => ?_
    split
    · exact .bind (.act fun _ => rfl) fun _ => .done false
    · exact .bind (.act fun _ => rfl) fun _ => .done true

/-- Nor does the callback. -/
theorem strategy_unreported
    (rewrite : Rewrite)
    (packet : PacketView) :
    (Main.strategy config rewrite packet).Uses Unreported := by
  refine .bind (.act fun _ => rfl) fun data => ?_
  refine .bind (.act fun _ => rfl) fun handed => ?_
  refine .bind (.act fun _ => rfl) fun _ => ?_
  refine .bind ?_ fun transferred => ?_
  · split
    · exact sendInPlace_unreported _ _
    · exact .done false
  · exact .bind (.act fun _ => rfl) fun _ => .done _

/-- Nor does a whole turn of the worker. -/
theorem workerTurn_unreported (rewrite : Rewrite) :
    (Main.workerTurn config rewrite).Uses Unreported := by
  refine .bind ?_ fun processed => .when (.act fun _ => rfl)
  refine .bind (.act fun _ => rfl) fun window => ?_
  refine .bind (.forRange fun offset => ?_) fun _ => ?_
  · refine .bind (.act fun _ => rfl) fun desc => ?_
    refine .bind (strategy_unreported rewrite _) fun disposition => ?_
    exact .when (.act fun _ => rfl)
  refine .bind (.when (.act fun _ => rfl)) fun _ => ?_
  refine .bind (publishAndServiceTx_calm.mono fun _ => Calm.unreported)
    fun _ => ?_
  refine .bind ?_ fun pushed => ?_
  · refine .bind (.bind (.act fun _ => rfl) fun _ =>
      .bind (.act fun _ => rfl) fun _ => .done _) fun queued => ?_
    split
    · refine .bind (refillFill_calm.mono fun _ => Calm.unreported)
        fun pushed => ?_
      exact .bind (.when (.act fun _ => rfl)) fun _ => .done pushed
    · exact .done 0
  refine .bind (.bind ?_ fun wanted => ?_) fun _ => .done _
  · split
    · exact .done true
    · exact .act fun _ => rfl
  · refine .when
      (.bind (requestRxProgress_calm.mono fun _ => Calm.unreported)
        fun result => ?_)
    exact .act fun _ => rfl

end Calm

/-! ## The threads keep to the handshake -/

namespace MainPc

variable {pc : MainPc}

/-- A stage in which `main` waits is that program counter. -/
theorem eq_awaitingPrepared
    {asleep : Bool}
    (at_ : pc.stage = .waiting asleep) :
    pc = .awaitingPrepared asleep := by
  cases pc with
  | awaitingPrepared _ =>
      cases at_
      rfl
  | leaving exit =>
      cases exit <;> cases at_
  | _ =>
      cases at_

/-- In these two stages `main` runs the stop callback. -/
theorem stage_ne_of_ne
    (notUnblocking : ∀ after, pc ≠ .unblocking after)
    (notWaking : ∀ after, pc ≠ .waking after)
    (orderly : Bool) :
    pc.stage ≠ .unblocking orderly ∧ pc.stage ≠ .waking orderly := by
  cases pc with
  | unblocking after =>
      exact absurd rfl (notUnblocking after)
  | waking after =>
      exact absurd rfl (notWaking after)
  | leaving exit =>
      cases exit <;> exact ⟨nofun, nofun⟩
  | _ =>
      exact ⟨nofun, nofun⟩

end MainPc

namespace Deployment

open Handshake

variable {deployment : Deployment}
variable {before after : Process}

/-- Notifying `main` is the wakeup of the handshake. -/
theorem handshake_wakeMain (process : Process) :
    process.notifyPrepared.handshake = process.handshake.wakeMain := by
  unfold Process.notifyPrepared Handshake.wakeMain
  by_cases asleep : process.main = .awaitingPrepared true
  · have stage : process.handshake.stage = .waiting true := by
      simp [Process.handshake, asleep, MainPc.stage]
    rw [if_pos asleep, if_pos stage]
    rfl
  · have stage : process.handshake.stage ≠ .waiting true := fun waiting =>
      asleep (MainPc.eq_awaitingPrepared waiting)
    rw [if_neg asleep, if_neg stage]

/-- Notifying the worker is the other one. -/
theorem handshake_wakeWorker (process : Process) :
    process.notifyActivated.handshake = process.handshake.wakeWorker := by
  unfold Process.notifyActivated Handshake.wakeWorker
  by_cases asleep : process.worker = .awaiting true
  · rw [if_pos asleep, if_pos (show process.handshake.worker = _ from asleep)]
    rfl
  · rw [if_neg asleep, if_neg (show process.handshake.worker ≠ _ from asleep)]

/-- The timer is no matter of the handshake. -/
theorem handshake_clockCallback
    (ticks : UInt64)
    (first second : World)
    (process : Process) :
    (process.clockCallback ticks first second).handshake =
      process.handshake := by
  unfold Process.clockCallback
  split
  · rfl
  · split <;> rfl

/-- Every step of the worker is one of its moves. -/
theorem workerStep_move
    {answer : WorkerAnswer}
    (stepped : deployment.workerStep answer before = some after) :
    WorkerMove before.handshake after.handshake := by
  cases at_ : before.worker with
  | absent | returned =>
      rw [workerStep, at_] at stepped
      cases stepped
  | registering =>
      rw [workerStep, at_] at stepped
      dsimp only at stepped
      split at stepped
      · next stopped =>
          cases stepped
          exact .late at_ stopped
      · next running =>
          cases stepped
          exact .register at_ (Bool.eq_false_of_not_eq_true running)
  | preparing =>
      rw [workerStep, at_] at stepped
      dsimp only at stepped
      split at stepped
      · cases stepped
        exact .fail at_
      · cases stepped
        exact .prepare at_
  | calibrating =>
      rw [workerStep, at_] at stepped
      cases stepped
      exact .calibrate at_ _
  | publishing =>
      rw [workerStep, at_] at stepped
      cases stepped
      exact .publish at_
  | notifying =>
      rw [workerStep, at_] at stepped
      cases stepped
      have moved :
          WorkerMove before.handshake
            { before.handshake.wakeMain with worker := .deciding } :=
        .notify at_
      rw [← handshake_wakeMain] at moved
      exact moved
  | deciding =>
      rw [workerStep, at_] at stepped
      dsimp only at stepped
      split at stepped
      · next failed =>
          cases stepped
          exact .giveUp at_ (by simp [Process.handshake, failed]; rfl)
      · next passed =>
          cases stepped
          exact .await at_ (by simp [Process.handshake, passed]; rfl)
  | awaiting asleep =>
      rw [workerStep, at_] at stepped
      cases asleep with
      | true =>
          cases stepped
      | false =>
          dsimp only at stepped
          split at stepped
          · next activated =>
              cases stepped
              exact .proceed at_ activated
          · next held =>
              cases stepped
              exact .sleep at_ (Bool.eq_false_of_not_eq_true held)
  | polling =>
      rw [workerStep, at_] at stepped
      dsimp only at stepped
      split at stepped
      · next stopped =>
          cases stepped
          exact .stop at_ stopped
      · next running =>
          cases stepped
          exact .begin at_ (Bool.eq_false_of_not_eq_true running)
  | turning =>
      rw [workerStep, at_] at stepped
      dsimp only at stepped
      split at stepped
      · next effect rest _ =>
          cases stepped
          change WorkerMove before.handshake
            (before.clockCallback answer.ticks before.world
              (effect before.world)).handshake
          rw [handshake_clockCallback]
          exact .work at_
      · cases stepped
        exact .end_ at_
      · cases stepped
  | returning =>
      rw [workerStep, at_] at stepped
      dsimp only at stepped
      split at stepped
      · cases stepped
      · cases stepped
      · next notUnblocking notWaking =>
          cases stepped
          exact .return_ at_
            (MainPc.stage_ne_of_ne notUnblocking notWaking)

/-- A step that only moves `main` on inside its stage. -/
theorem stay_of
    {stage : Stage}
    (at_ : before.handshake.stage = stage)
    (lasting : stage.lasting = true)
    (same : after.handshake = { before.handshake with stage := stage }) :
    MainMove before.handshake after.handshake := by
  rw [same, ← at_]
  exact .stay (at_ ▸ lasting)

/-- A control round goes on watching, or is left by an exception. -/
theorem judge_move
    {rejected : UInt64}
    {answer : MainAnswer}
    (at_ : before.handshake.stage = .watching) :
    MainMove before.handshake (judge rejected answer before).handshake := by
  unfold judge
  dsimp only
  split
  · split
    · exact .abort (by simp [at_])
    · exact stay_of at_ rfl rfl
  · exact stay_of at_ rfl rfl

/-- The cut begins the orderly end, unless its message throws. -/
theorem cutRedirect_move
    {loader : XdpLoader}
    {answer : MainAnswer}
    (at_ : before.handshake.stage = .watching)
    (owner : before.loader = some loader) :
    MainMove before.handshake
      (cutRedirect loader answer before).handshake := by
  have order := MainMove.order at_
  have abort := MainMove.abort (.inr (.inr at_))
  simp only [Process.handshake, owner] at order abort ⊢
  unfold cutRedirect
  dsimp only
  split
  · exact order
  · split
    · exact abort
    · exact order

/-- A failed detach gives the orderly end up. -/
theorem detachProgram_move
    {loader : XdpLoader}
    {remaining : UInt32}
    {answer : MainAnswer}
    (at_ : before.handshake.stage = .closing)
    (owner : before.loader = some loader) :
    MainMove before.handshake
      (detachProgram loader remaining answer before).handshake := by
  unfold detachProgram
  dsimp only
  split
  · exact stay_of at_ rfl (by
      simp only [Process.handshake, owner]
      rfl)
  · have giveUp := MainMove.giveUp at_
    simp only [Process.handshake, owner] at giveUp ⊢
    exact giveUp

/-- Every step of `main` is one of its moves. -/
theorem mainStep_move
    {answer : MainAnswer}
    (stepped : deployment.mainStep answer before = some after) :
    MainMove before.handshake after.handshake := by
  have stage
      {pc : MainPc}
      (at_ : before.main = pc) :
      before.handshake.stage = pc.stage := by
    rw [← at_]
    rfl
  cases at_ : before.main with
  | filling =>
      rw [mainStep, at_] at stepped
      dsimp only at stepped
      split at stepped
      · cases stepped
        exact stay_of (stage at_) rfl rfl
      · cases stepped
        exact stay_of (stage at_) rfl rfl
      · cases stepped
  | spawning =>
      rw [mainStep, at_] at stepped
      dsimp only at stepped
      split at stepped
      · cases stepped
        exact .fail (stage at_)
      · cases stepped
        exact .spawn (stage at_)
  | awaitingPrepared asleep =>
      rw [mainStep, at_] at stepped
      cases asleep with
      | true =>
          cases stepped
      | false =>
          dsimp only at stepped
          split at stepped
          · next prepared =>
              cases stepped
              exact .check (stage at_) prepared
          · next early =>
              cases stepped
              exact .sleep (stage at_) (Bool.eq_false_of_not_eq_true early)
  | checkingStop =>
      rw [mainStep, at_] at stepped
      dsimp only at stepped
      split at stepped
      · cases stepped
        exact .abort (.inl (stage at_))
      · cases stepped
        exact stay_of (stage at_) rfl rfl
  | checkingStartup =>
      rw [mainStep, at_] at stepped
      dsimp only at stepped
      split at stepped
      · cases stepped
        exact .abort (.inl (stage at_))
      · next passed =>
          cases stepped
          exact .pass (stage at_) (by simp [Process.handshake, passed]; rfl)
  | creatingLoader =>
      rw [mainStep, at_] at stepped
      dsimp only at stepped
      split at stepped
      · cases stepped
        exact .abort (.inr (.inl (stage at_)))
      · cases stepped
        exact .load (stage at_)
  | choosing =>
      rw [mainStep, at_] at stepped
      cases stepped
      cases stop : before.gStop with
      | true =>
          exact .skip (stage at_)
      | false =>
          exact stay_of (stage at_) rfl rfl
  | activating =>
      rw [mainStep, at_] at stepped
      cases stepped
      exact .activate (stage at_)
  | notifying =>
      rw [mainStep, at_] at stepped
      cases stepped
      have moved := MainMove.notify (stage at_)
      rw [← handshake_wakeWorker] at moved
      exact moved
  | announcing | reporting | stopping =>
      rw [mainStep, at_] at stepped
      dsimp only at stepped
      split at stepped
      · cases stepped
        exact .abort (.inr (.inr (stage at_)))
      · cases stepped
        exact stay_of (stage at_) rfl rfl
  | looping =>
      rw [mainStep, at_] at stepped
      cases stepped
      cases stop : before.gStop with
      | true =>
          exact stay_of (stage at_) rfl rfl
      | false =>
          exact stay_of (stage at_) rfl rfl
  | sleeping | opening now | summarizing remaining =>
      rw [mainStep, at_] at stepped
      cases stepped
      exact stay_of (stage at_) rfl rfl
  | warming now =>
      rw [mainStep, at_] at stepped
      dsimp only at stepped
      split at stepped
      · cases stepped
        exact stay_of (stage at_) rfl rfl
      · cases stepped
        exact stay_of (stage at_) rfl rfl
  | judging rejected =>
      rw [mainStep, at_] at stepped
      cases stepped
      exact judge_move (stage at_)
  | cutting =>
      rw [mainStep, at_] at stepped
      obtain ⟨loader, owner, rfl⟩ := Option.map_eq_some_iff.mp stepped
      exact cutRedirect_move (stage at_) owner
  | requesting exit =>
      rw [mainStep, at_] at stepped
      cases stepped
      cases heard : before.unblock with
      | true =>
          exact .request (stage at_) heard
      | false =>
          have moved := MainMove.requestUnheard (stage at_) heard
          simp only [Process.handshake, heard] at moved ⊢
          exact moved
  | unblocking exit =>
      rw [mainStep, at_] at stepped
      cases stepped
      exact .unblock (stage at_)
  | waking exit =>
      rw [mainStep, at_] at stepped
      cases stepped
      have moved := MainMove.wake (stage at_)
      rw [← handshake_wakeWorker] at moved
      exact moved
  | joining exit =>
      rw [mainStep, at_] at stepped
      dsimp only at stepped
      split at stepped
      · next returned =>
          cases exit with
          | none =>
              cases stepped
              exact .join (stage at_) returned
          | some exit =>
              cases stepped
              exact .joinEarly (stage at_) returned
      · cases stepped
  | draining =>
      rw [mainStep, at_] at stepped
      dsimp only at stepped
      split at stepped
      · cases stepped
        exact stay_of (stage at_) rfl rfl
      · split at stepped
        · cases stepped
          exact stay_of (stage at_) rfl rfl
        · split at stepped
          · cases stepped
            exact .giveUp (stage at_)
          · cases stepped
            exact stay_of (stage at_) rfl rfl
      · cases stepped
  | detaching remaining =>
      rw [mainStep, at_] at stepped
      obtain ⟨loader, owner, rfl⟩ := Option.map_eq_some_iff.mp stepped
      exact detachProgram_move (stage at_) owner
  | leaving exit =>
      rw [mainStep, at_] at stepped
      cases stepped
      cases exit with
      | none =>
          exact .close (stage at_)
      | some exit =>
          exact .leave (stage at_)
  | sorting =>
      rw [mainStep, at_] at stepped
      dsimp only at stepped
      split at stepped
      · cases stepped
        exact .finish (stage at_)
      · cases stepped
        exact stay_of (stage at_) rfl rfl
  | exporting =>
      rw [mainStep, at_] at stepped
      cases stepped
      unfold exportSamples
      dsimp only
      split
      · exact stay_of (stage at_) rfl rfl
      · cases thrown : answer.throws with
        | true =>
            exact .finish (stage at_)
        | false =>
            exact stay_of (stage at_) rfl rfl
  | describing =>
      rw [mainStep, at_] at stepped
      cases stepped
      unfold describeRun
      dsimp only
      split
      · exact .finish (stage at_)
      · exact .finish (stage at_)
  | finished exit =>
      rw [mainStep, at_] at stepped
      cases stepped

/-- Every step of the process is a move, or nothing to the handshake. -/
theorem step_move
    {event : ProcessEvent}
    (stepped : deployment.step event before = some after) :
    Move before.handshake after.handshake := by
  cases event with
  | main answer =>
      exact .main (mainStep_move stepped)
  | worker answer =>
      exact .worker (workerStep_move stepped)
  | signal =>
      cases stepped
      exact .elsewhere
  | kernel kernelStep =>
      obtain ⟨world, _, rfl⟩ := Option.map_eq_some_iff.mp stepped
      exact .elsewhere
  | wakeMain =>
      cases stepped
      rw [handshake_wakeMain]
      exact .wakeMain
  | wakeWorker =>
      cases stepped
      rw [handshake_wakeWorker]
      exact .wakeWorker

/-- At the start there is no worker, and nothing is set. -/
theorem start_inStep : deployment.start.handshake.InStep where
  absent _ := ⟨.inl rfl, rfl, rfl, rfl⟩
  spawned _ := rfl
  requested present := absurd rfl present
  joined := nofun
  prepared := rfl
  waiting _ := .inl rfl
  held := nofun
  free := nofun
  unblock := rfl
  claimed := by
    rintro orderly (unblocking | waking)
    · cases unblocking
    · cases waking
  woken := nofun
  joining := nofun
  mainAsleep := nofun
  workerAsleep := nofun
  passed := nofun
  created := by
    rintro (creating | owned)
    · cases creating
    · cases owned
  attached := nofun
  released := nofun
  turning := nofun

/-- The threads are in step in every reachable state. -/
theorem Reachable.inStep
    (reachable : deployment.Reachable after) :
    after.handshake.InStep := by
  induction reachable with
  | start =>
      exact start_inStep
  | step _ stepped inductionHypothesis =>
      exact inductionHypothesis.move (step_move stepped)

end Deployment

/-! ## One owner at a time -/

/-- What is left to do on the packet objects, as the reflector sees it. -/
def Code.pending : Code → Task Unit
  | .idle =>
      .done ()
  | .startup rest =>
      rest
  | .turn rest =>
      rest
  | .drain rest =>
      rest.bind fun remaining =>
        Prog.update (Main.summarize remaining)

/-- The part of a process that the reflector is about. -/
def Process.packets (process : Process) : Configuration World where
  pending := process.code.pending
  state := process.world

namespace MainPc

/-- `main` is not inside code on the packet objects. -/
def outside : MainPc → Bool
  | .filling | .draining | .detaching _ | .summarizing _ =>
      false
  | _ =>
      true

/-- The run summary may have been written. -/
def reported : MainPc → Bool
  | .leaving _ | .sorting | .exporting | .describing | .finished _ =>
      true
  | _ =>
      false

end MainPc

/-- Which thread is inside code on the packet objects, and inside which. -/
structure Process.InCode (process : Process) : Prop where
  filling :
    process.main = .filling →
    ∃ rest, process.code = .startup rest ∧ rest.Uses Calm
  turning :
    process.worker = .turning →
    ∃ rest, process.code = .turn rest ∧ rest.Uses Unreported
  draining :
    process.main = .draining →
    ∃ rest, process.code = .drain rest ∧ rest.Uses Calm
  drained :
    ∀ remaining,
      process.main = .detaching remaining ∨
        process.main = .summarizing remaining →
      process.code = .drain (.done remaining)
  idle :
    process.main ≠ .filling →
    process.worker ≠ .turning →
    process.main.stage.joined = false →
    process.code = .idle
  reported :
    process.main.reported = false →
    process.world.summary = none

namespace Process.InCode

variable {before after : Process}

/-- A step of `main` that leaves the packet objects alone. -/
theorem main_outside
    (inCode : before.InCode)
    (sameWorker : after.worker = before.worker)
    (sameCode : after.code = before.code)
    (sameWorld : after.world = before.world)
    (notFilling : before.main ≠ .filling)
    (outside : after.main.outside = true)
    (joined :
      after.main.stage.joined = false →
      before.main.stage.joined = false)
    (reported :
      after.main.reported = false →
      before.main.reported = false) :
    after.InCode where
  filling at_ := by
    rw [at_] at outside
    cases outside
  turning := by
    rw [sameWorker, sameCode]
    exact inCode.turning
  draining at_ := by
    rw [at_] at outside
    cases outside
  drained remaining at_ := by
    rcases at_ with at_ | at_ <;>
    · rw [at_] at outside
      cases outside
  idle _ notTurning notJoined := by
    rw [sameCode]
    exact inCode.idle notFilling (sameWorker ▸ notTurning)
      (joined notJoined)
  reported notReported := by
    rw [sameWorld]
    exact inCode.reported (reported notReported)

/-- A step of the worker that leaves the packet objects alone. -/
theorem worker_outside
    (inCode : before.InCode)
    (sameMain : after.main = before.main)
    (sameCode : after.code = before.code)
    (sameWorld : after.world = before.world)
    (beforeTurn : before.worker ≠ .turning)
    (afterTurn : after.worker ≠ .turning) :
    after.InCode where
  filling := by
    rw [sameMain, sameCode]
    exact inCode.filling
  turning at_ :=
    absurd at_ afterTurn
  draining := by
    rw [sameMain, sameCode]
    exact inCode.draining
  drained := by
    rw [sameMain, sameCode]
    exact inCode.drained
  idle := by
    rw [sameMain, sameCode]
    exact fun notFilling _ notJoined =>
      inCode.idle notFilling beforeTurn notJoined
  reported := by
    rw [sameMain, sameWorld]
    exact inCode.reported

/-- The worker is the one inside. -/
theorem of_turn
    (notFilling : after.main ≠ .filling)
    (notJoined : after.main.stage.joined = false)
    (turning : after.worker = .turning)
    (code : ∃ rest, after.code = .turn rest ∧ rest.Uses Unreported)
    (unreported : after.world.summary = none) :
    after.InCode := by
  have joined {pc : MainPc} (same : after.main = pc) :
      pc.stage.joined = false :=
    same ▸ notJoined
  exact
    { filling := fun filling => absurd filling notFilling
      turning := fun _ => code
      draining := fun draining => absurd (joined draining) nofun
      drained := by
        rintro remaining (detaching | summarizing)
        · exact absurd (joined detaching) nofun
        · exact absurd (joined summarizing) nofun
      idle := fun _ notTurning => absurd turning notTurning
      reported := fun _ => unreported }

/-- `main` is inside, and the worker was joined. -/
theorem of_drain
    {rest : Task UInt32}
    (inStep : after.handshake.InStep)
    (joined : after.main.stage = .closing)
    (code : after.code = .drain rest)
    (uses : rest.Uses Calm)
    (drained :
      ∀ remaining,
        after.main = .detaching remaining ∨
          after.main = .summarizing remaining →
        rest = .done remaining)
    (unreported :
      after.main.reported = false →
      after.world.summary = none) :
    after.InCode where
  filling at_ := by
    rw [at_] at joined
    cases joined
  turning at_ := by
    have returned :=
      inStep.returned
        (by rw [Process.handshake, joined]; rfl)
        (by rw [Process.handshake, joined]; nofun)
    exact absurd (at_.symm.trans returned) nofun
  draining _ :=
    ⟨rest, code, uses⟩
  drained remaining at_ := by
    rw [code, drained remaining at_]
  idle _ _ notJoined := by
    rw [joined] at notJoined
    cases notJoined
  reported :=
    unreported

/-- A wakeup of `main`. -/
theorem notifyPrepared
    (inCode : before.InCode) :
    before.notifyPrepared.InCode := by
  unfold Process.notifyPrepared
  split
  · next at_ =>
      exact inCode.main_outside rfl rfl rfl (by simp [at_]) rfl
        (fun _ => by rw [at_]; rfl) (fun _ => by rw [at_]; rfl)
  · exact inCode

/-- A wakeup of the worker. -/
theorem notifyActivated
    (inCode : before.InCode) :
    before.notifyActivated.InCode := by
  unfold Process.notifyActivated
  split
  · next at_ =>
      exact inCode.worker_outside rfl rfl rfl (by simp [at_]) nofun
  · exact inCode

end Process.InCode

/-- Neither the worker nor the packet objects are touched. -/
structure Process.Aside (before after : Process) : Prop where
  worker : after.worker = before.worker
  code : after.code = before.code
  world : after.world = before.world

/-- What one step means to the packet objects: nothing, or one event. -/
def Deployment.OnPackets
    (deployment : Deployment)
    (before after : Process) : Prop :=
  after.packets = before.packets ∨
    ∃ event,
      deployment.scenario.machine.next event before.packets =
        some after.packets

namespace Deployment

variable {deployment : Deployment}
variable {before after : Process}

/-- Nothing happened to the packet objects. -/
theorem OnPackets.same
    (sameCode : after.code = before.code)
    (sameWorld : after.world = before.world) :
    deployment.OnPackets before after := by
  left
  rw [Process.packets, Process.packets, sameCode, sameWorld]

/-- While a worker is there and not joined, nothing was reported. -/
theorem not_reported
    (inStep : before.handshake.InStep)
    (present : before.worker ≠ .absent)
    (running : before.worker ≠ .returned) :
    before.main.stage.joined = false ∧ before.main.reported = false := by
  have notJoined : before.main.stage.joined = false := by
    cases joined : before.main.stage.joined with
    | false =>
        rfl
    | true =>
        rcases inStep.joined joined with gone | returned
        · exact absurd gone present
        · exact absurd returned running
  refine ⟨notJoined, ?_⟩
  cases at_ : before.main with
  | leaving exit =>
      rw [at_] at notJoined
      cases exit <;> cases notJoined
  | sorting | exporting | describing =>
      rw [at_] at notJoined
      cases notJoined
  | finished _ =>
      rw [at_] at notJoined
      cases notJoined
  | _ =>
      rfl

/-- A worker is spawned after the filling. -/
theorem not_filling
    (inStep : before.handshake.InStep)
    (present : before.worker ≠ .absent) :
    before.main ≠ .filling := by
  intro filling
  exact present
    (inStep.spawned (by rw [Process.handshake, filling]; rfl))

/-- The timer does not move the threads. -/
theorem clockCallback_pcs
    (ticks : UInt64)
    (first second : World)
    (process : Process) :
    (process.clockCallback ticks first second).main = process.main ∧
      (process.clockCallback ticks first second).worker =
        process.worker := by
  unfold Process.clockCallback
  split
  · exact ⟨rfl, rfl⟩
  · split <;> exact ⟨rfl, rfl⟩

/-- A turn begins where nobody else is inside. -/
theorem beginTurn
    (inStep : before.handshake.InStep)
    (inCode : before.InCode)
    (at_ : before.worker = .polling) :
    let turned :=
      { before with
        code :=
          .turn
            (Main.workerTurn deployment.scenario.config
              deployment.scenario.rewrite)
        worker := .turning }
    turned.InCode ∧ deployment.OnPackets before turned := by
  have alone := not_reported inStep (by simp [at_]) (by simp [at_])
  have notFilling := not_filling inStep (by simp [at_])
  have idle := inCode.idle notFilling (by simp [at_]) alone.1
  have unreported := inCode.reported alone.2
  refine ⟨.of_turn notFilling alone.1 rfl
    ⟨_, rfl, workerTurn_unreported _⟩ unreported, .inr ⟨.call .turn, ?_⟩⟩
  simp only [Process.packets, idle, Code.pending, Machine.next,
    Scenario.machine, unreported, Option.isNone_none, ↓reduceIte]

/-- One step inside a turn. -/
theorem turnStep
    {answer : WorkerAnswer}
    {effect : World → World}
    {later : World → Task Unit}
    (inStep : before.handshake.InStep)
    (inCode : before.InCode)
    (at_ : before.worker = .turning)
    (turn : before.code = .turn (.step effect later))
    (uses : Prog.Uses Unreported (.step effect later)) :
    let worked :=
      { before.clockCallback answer.ticks before.world
          (effect before.world) with
        world := effect before.world
        code := .turn (later before.world) }
    worked.InCode ∧ deployment.OnPackets before worked := by
  have alone := not_reported inStep (by simp [at_]) (by simp [at_])
  have notFilling := not_filling inStep (by simp [at_])
  have unreported := inCode.reported alone.2
  obtain ⟨main, worker⟩ :=
    clockCallback_pcs answer.ticks before.world (effect before.world)
      before
  refine ⟨.of_turn ?_ ?_ (worker.trans at_)
    ⟨_, rfl, uses.2 before.world⟩ ((uses.1 before.world).trans unreported),
    .inr ⟨.work, ?_⟩⟩
  · exact fun filling => notFilling (main.symm.trans filling)
  · exact (congrArg (fun pc => pc.stage.joined) main).trans alone.1
  · simp only [Process.packets, turn, Code.pending, Machine.next]

/-- A turn is over. -/
theorem endTurn
    (inStep : before.handshake.InStep)
    (inCode : before.InCode)
    (at_ : before.worker = .turning)
    (turn : before.code = .turn (.done ())) :
    let turned :=
      { before with
        code := .idle
        worker := .polling }
    turned.InCode ∧ deployment.OnPackets before turned := by
  have alone := not_reported inStep (by simp [at_]) (by simp [at_])
  have notFilling := not_filling inStep (by simp [at_])
  have joined {pc : MainPc} (same : before.main = pc) :
      pc.stage.joined = false :=
    same ▸ alone.1
  refine ⟨?_, .inl ?_⟩
  · exact
      { filling := fun filling => absurd filling notFilling
        turning := nofun
        draining := fun draining => absurd (joined draining) nofun
        drained := by
          rintro remaining (detaching | summarizing)
          · exact absurd (joined detaching) nofun
          · exact absurd (joined summarizing) nofun
        idle := fun _ _ _ => rfl
        reported := inCode.reported }
  · simp only [Process.packets, turn, Code.pending]

/-- A step of the worker is a step of the reflector, or none at all. -/
theorem workerStep_packets
    {answer : WorkerAnswer}
    (inStep : before.handshake.InStep)
    (inCode : before.InCode)
    (stepped : deployment.workerStep answer before = some after) :
    after.InCode ∧ deployment.OnPackets before after := by
  have outside
      (sameMain : after.main = before.main)
      (sameCode : after.code = before.code)
      (sameWorld : after.world = before.world)
      (beforeTurn : before.worker ≠ .turning)
      (afterTurn : after.worker ≠ .turning) :
      after.InCode ∧ deployment.OnPackets before after :=
    ⟨inCode.worker_outside sameMain sameCode sameWorld beforeTurn
      afterTurn, .same sameCode sameWorld⟩
  cases at_ : before.worker with
  | absent | returned =>
      rw [workerStep, at_] at stepped
      cases stepped
  | registering | preparing | deciding =>
      rw [workerStep, at_] at stepped
      dsimp only at stepped
      split at stepped
      · cases stepped
        exact outside rfl rfl rfl (by simp [at_]) nofun
      · cases stepped
        exact outside rfl rfl rfl (by simp [at_]) nofun
  | calibrating | publishing =>
      rw [workerStep, at_] at stepped
      cases stepped
      exact outside rfl rfl rfl (by simp [at_]) nofun
  | notifying =>
      rw [workerStep, at_] at stepped
      cases stepped
      have worker : before.notifyPrepared.worker = .notifying := by
        unfold Process.notifyPrepared
        split <;> exact at_
      have code : before.notifyPrepared.code = before.code := by
        unfold Process.notifyPrepared
        split <;> rfl
      have world : before.notifyPrepared.world = before.world := by
        unfold Process.notifyPrepared
        split <;> rfl
      exact ⟨inCode.notifyPrepared.worker_outside rfl rfl rfl
        (by simp [worker]) nofun, .same code world⟩
  | awaiting asleep =>
      rw [workerStep, at_] at stepped
      cases asleep with
      | true =>
          cases stepped
      | false =>
          dsimp only at stepped
          split at stepped
          · cases stepped
            exact outside rfl rfl rfl (by simp [at_]) nofun
          · cases stepped
            exact outside rfl rfl rfl (by simp [at_]) nofun
  | polling =>
      rw [workerStep, at_] at stepped
      dsimp only at stepped
      split at stepped
      · cases stepped
        exact outside rfl rfl rfl (by simp [at_]) nofun
      · cases stepped
        exact beginTurn inStep inCode at_
  | turning =>
      rw [workerStep, at_] at stepped
      obtain ⟨rest, turn, uses⟩ := inCode.turning at_
      rw [turn] at stepped
      cases rest with
      | step effect later =>
          cases stepped
          exact turnStep inStep inCode at_ turn uses
      | done result =>
          cases stepped
          exact endTurn inStep inCode at_ turn
  | returning =>
      rw [workerStep, at_] at stepped
      dsimp only at stepped
      split at stepped
      · cases stepped
      · cases stepped
      · cases stepped
        exact outside rfl rfl rfl (by simp [at_]) nofun

/-! Five steps of `main` in more than a line; none touches the worker. -/

/-- A control round touches neither. -/
theorem judge_frame
    (rejected : UInt64)
    (answer : MainAnswer)
    (process : Process) :
    process.Aside (judge rejected answer process) ∧
      ((judge rejected answer process).main = .looping ∨
        (judge rejected answer process).main =
          .requesting (some .exception)) := by
  unfold judge
  dsimp only
  split
  · split
    · exact ⟨⟨rfl, rfl, rfl⟩, .inr rfl⟩
    · exact ⟨⟨rfl, rfl, rfl⟩, .inl rfl⟩
  · exact ⟨⟨rfl, rfl, rfl⟩, .inl rfl⟩

/-- Nor does the cut. -/
theorem cutRedirect_frame
    (loader : XdpLoader)
    (answer : MainAnswer)
    (process : Process) :
    process.Aside (cutRedirect loader answer process) ∧
      ∃ after,
        (cutRedirect loader answer process).main =
          .requesting after := by
  unfold cutRedirect
  dsimp only
  split
  · exact ⟨⟨rfl, rfl, rfl⟩, none, rfl⟩
  · split
    · exact ⟨⟨rfl, rfl, rfl⟩, some .exception, rfl⟩
    · exact ⟨⟨rfl, rfl, rfl⟩, none, rfl⟩

/-- Nor does the detach. -/
theorem detachProgram_frame
    (loader : XdpLoader)
    (remaining : UInt32)
    (answer : MainAnswer)
    (process : Process) :
    process.Aside (detachProgram loader remaining answer process) ∧
      ((detachProgram loader remaining answer process).main =
          .summarizing remaining ∨
        ∃ exit,
          (detachProgram loader remaining answer process).main =
            .leaving (some exit)) := by
  unfold detachProgram
  dsimp only
  split
  · exact ⟨⟨rfl, rfl, rfl⟩, .inl rfl⟩
  · exact ⟨⟨rfl, rfl, rfl⟩, .inr ⟨_, rfl⟩⟩

/-- Nor does the export. -/
theorem exportSamples_frame
    (answer : MainAnswer)
    (process : Process) :
    process.Aside (deployment.exportSamples answer process) ∧
      ((deployment.exportSamples answer process).main = .describing ∨
        (deployment.exportSamples answer process).main =
          .finished .exception) := by
  unfold exportSamples
  dsimp only
  split
  · exact ⟨⟨rfl, rfl, rfl⟩, .inl rfl⟩
  · cases answer.throws with
    | true =>
        exact ⟨⟨rfl, rfl, rfl⟩, .inr rfl⟩
    | false =>
        exact ⟨⟨rfl, rfl, rfl⟩, .inl rfl⟩

/-- Nor does the sidecar file. -/
theorem describeRun_frame
    (answer : MainAnswer)
    (process : Process) :
    process.Aside (deployment.describeRun answer process) ∧
      ∃ exit,
        (deployment.describeRun answer process).main =
          .finished exit := by
  unfold describeRun
  dsimp only
  split
  · exact ⟨⟨rfl, rfl, rfl⟩, _, rfl⟩
  · exact ⟨⟨rfl, rfl, rfl⟩, _, rfl⟩

/-- `main` goes from one place outside the packet objects to another. -/
theorem main_aside
    {pc next : MainPc}
    (inCode : before.InCode)
    (at_ : before.main = pc)
    (aside : before.Aside after)
    (then_ : after.main = next)
    (notFilling : pc ≠ .filling)
    (outside : next.outside = true)
    (joined : next.stage.joined = false → pc.stage.joined = false)
    (reported : next.reported = false → pc.reported = false) :
    after.InCode ∧ deployment.OnPackets before after :=
  ⟨inCode.main_outside aside.worker aside.code aside.world
    (at_ ▸ notFilling) (then_ ▸ outside) (then_ ▸ at_ ▸ joined)
    (then_ ▸ at_ ▸ reported), .same aside.code aside.world⟩

/-- The first code on the packet objects is run by `main` alone. -/
theorem fillStep
    {answer : MainAnswer}
    (inStep : before.handshake.InStep)
    (inCode : before.InCode)
    (at_ : before.main = .filling)
    (stepped : deployment.mainStep answer before = some after) :
    after.InCode ∧ deployment.OnPackets before after := by
  obtain ⟨rest, code, uses⟩ := inCode.filling at_
  have absent : before.worker = .absent :=
    inStep.spawned (by rw [Process.handshake, at_]; rfl)
  have notTurning : before.worker ≠ .turning := by
    rw [absent]
    simp
  have unreported := inCode.reported (by rw [at_]; rfl)
  rw [mainStep, at_, code] at stepped
  cases rest with
  | step effect later =>
      cases stepped
      refine ⟨?_, .inr ⟨.work, ?_⟩⟩
      · exact
          { filling := fun _ => ⟨_, rfl, uses.2 before.world⟩
            turning := fun turning => absurd turning notTurning
            draining := fun draining => by cases draining
            drained := by
              rintro remaining (detaching | summarizing)
              · cases detaching
              · cases summarizing
            idle := fun notFilling => absurd rfl notFilling
            reported := fun _ =>
              (uses.1 before.world).1.trans unreported }
      · simp only [Process.packets, code, Code.pending, Machine.next]
  | done result =>
      cases stepped
      refine ⟨?_, .inl ?_⟩
      · exact
          { filling := fun filling => by cases filling
            turning := fun turning => absurd turning notTurning
            draining := fun draining => by cases draining
            drained := by
              rintro remaining (detaching | summarizing)
              · cases detaching
              · cases summarizing
            idle := fun _ _ _ => rfl
            reported := fun _ => unreported }
      · simp only [Process.packets, code, Code.pending]

/-- A worker is started while nobody is inside. -/
theorem spawnStep
    (inStep : before.handshake.InStep)
    (inCode : before.InCode)
    (at_ : before.main = .spawning) :
    let spawned :=
      { before with
        worker := .registering
        main := .awaitingPrepared false }
    spawned.InCode ∧ deployment.OnPackets before spawned := by
  have absent : before.worker = .absent :=
    inStep.spawned (by rw [Process.handshake, at_]; rfl)
  have idle :=
    inCode.idle (by simp [at_]) (by simp [absent]) (by rw [at_]; rfl)
  refine ⟨?_, .same rfl rfl⟩
  exact
    { filling := nofun
      turning := nofun
      draining := nofun
      drained := by
        rintro remaining (detaching | summarizing)
        · cases detaching
        · cases summarizing
      idle := fun _ _ _ => idle
      reported := fun _ => inCode.reported (by rw [at_]; rfl) }

/-- The last code on the packet objects is run by `main` after the join. -/
theorem drainStart
    {answer : MainAnswer}
    (inCode : before.InCode)
    (inStepAfter : after.handshake.InStep)
    (at_ : before.main = .joining none)
    (returned : before.worker = .returned)
    (main : after.main = .draining)
    (code :
      after.code =
        .drain
          (Transmitter.drainUntil deployment.scenario.config
            answer.beforeDeadline))
    (world : after.world = before.world) :
    after.InCode ∧ deployment.OnPackets before after := by
  have idle :=
    inCode.idle (by simp [at_]) (by simp [returned]) (by rw [at_]; rfl)
  have unreported := inCode.reported (by rw [at_]; rfl)
  refine ⟨?_, .inr ⟨.call (.shutdown answer.beforeDeadline), ?_⟩⟩
  · refine .of_drain inStepAfter (by rw [main]; rfl) code
      (drainUntil_calm _) ?_ (fun _ => world ▸ unreported)
    rintro remaining (detaching | summarizing)
    · exact absurd (main.symm.trans detaching) nofun
    · exact absurd (main.symm.trans summarizing) nofun
  · simp only [Process.packets, idle, code, world, Code.pending,
      Machine.next, Scenario.machine, unreported, Option.isNone_none,
      ↓reduceIte]
    rfl

/-- One effect of the draining. -/
theorem drainStep
    {effect : World → World}
    {later : World → Task UInt32}
    (inCode : before.InCode)
    (inStepAfter : after.handshake.InStep)
    (at_ : before.main = .draining)
    (before_ : before.code = .drain (.step effect later))
    (main : after.main = .draining)
    (code : after.code = .drain (later before.world))
    (world : after.world = effect before.world) :
    after.InCode ∧ deployment.OnPackets before after := by
  obtain ⟨rest, same, uses⟩ := inCode.draining at_
  obtain rfl : rest = .step effect later := by
    rw [same] at before_
    cases before_
    rfl
  have unreported := inCode.reported (by rw [at_]; rfl)
  refine ⟨?_, .inr ⟨.work, ?_⟩⟩
  · refine .of_drain inStepAfter (by rw [main]; rfl) code
      (uses.2 before.world) ?_ ?_
    · rintro remaining (detaching | summarizing)
      · exact absurd (main.symm.trans detaching) nofun
      · exact absurd (main.symm.trans summarizing) nofun
    · intro _
      rw [world]
      exact (uses.1 before.world).1.trans unreported
  · simp only [Process.packets, before_, code, world, Code.pending,
      Machine.next]
    rfl

/-- The drain is over; its result is kept until it is reported. -/
theorem drained_aside
    {remaining : UInt32}
    (inCode : before.InCode)
    (inStepAfter : after.handshake.InStep)
    (notReported : before.main.reported = false)
    (code : before.code = .drain (.done remaining))
    (aside : before.Aside after)
    (main :
      after.main = .detaching remaining ∨
        after.main = .summarizing remaining ∨
        ∃ exit, after.main = .leaving (some exit)) :
    after.InCode ∧ deployment.OnPackets before after := by
  have unreported := inCode.reported notReported
  refine ⟨?_, .same aside.code aside.world⟩
  rcases main with main | main | ⟨exit, main⟩
  · refine .of_drain inStepAfter (by rw [main]; rfl)
      (aside.code.trans code) (.done remaining) ?_
      (fun _ => aside.world ▸ unreported)
    rintro other (detaching | summarizing)
    · cases main.symm.trans detaching
      rfl
    · exact absurd (main.symm.trans summarizing) nofun
  · refine .of_drain inStepAfter (by rw [main]; rfl)
      (aside.code.trans code) (.done remaining) ?_
      (fun _ => aside.world ▸ unreported)
    rintro other (detaching | summarizing)
    · exact absurd (main.symm.trans detaching) nofun
    · cases main.symm.trans summarizing
      rfl
  · have returned : after.worker = .returned :=
      inStepAfter.returned
        (by rw [Process.handshake, main]; rfl)
        (by rw [Process.handshake, main]; nofun)
    exact
      { filling := fun filling => absurd (main.symm.trans filling) nofun
        turning := fun turning =>
          absurd (returned.symm.trans turning) nofun
        draining := fun draining =>
          absurd (main.symm.trans draining) nofun
        drained := by
          rintro other (detaching | summarizing)
          · exact absurd (main.symm.trans detaching) nofun
          · exact absurd (main.symm.trans summarizing) nofun
        idle := by
          intro _ _ notJoined
          rw [main] at notJoined
          cases notJoined
        reported := by
          intro notReported
          rw [main] at notReported
          cases notReported }

/-- A wakeup of the worker touches no packet object. -/
theorem notifyActivated_aside (process : Process) :
    process.notifyActivated.code = process.code ∧
      process.notifyActivated.world = process.world ∧
      process.notifyActivated.main = process.main := by
  unfold Process.notifyActivated
  split
  · exact ⟨rfl, rfl, rfl⟩
  · exact ⟨rfl, rfl, rfl⟩

/-- `main` notifies the worker and goes on. -/
theorem notifyStep
    {next : MainPc}
    (inCode : before.InCode)
    (notFilling : before.main ≠ .filling)
    (outside : next.outside = true)
    (joined :
      next.stage.joined = false →
      before.main.stage.joined = false)
    (reported :
      next.reported = false →
      before.main.reported = false) :
    let notified := { before.notifyActivated with main := next }
    notified.InCode ∧ deployment.OnPackets before notified := by
  obtain ⟨code, world, main⟩ := notifyActivated_aside before
  refine ⟨?_, .same code world⟩
  exact inCode.notifyActivated.main_outside rfl rfl rfl
    (main ▸ notFilling) outside (main ▸ joined) (main ▸ reported)

/-- A step of `main` is a step of the reflector, or none at all. -/
theorem mainStep_packets
    {answer : MainAnswer}
    (inStep : before.handshake.InStep)
    (inCode : before.InCode)
    (stepped : deployment.mainStep answer before = some after) :
    after.InCode ∧ deployment.OnPackets before after := by
  have inStepAfter := inStep.mainMove (mainStep_move stepped)
  have aside {pc next : MainPc} :=
    @main_aside deployment before after pc next inCode
  cases at_ : before.main with
  | filling =>
      exact fillStep inStep inCode at_ stepped
  | spawning =>
      rw [mainStep, at_] at stepped
      dsimp only at stepped
      split at stepped
      · cases stepped
        exact aside at_ ⟨rfl, rfl, rfl⟩ rfl nofun rfl (fun _ => rfl) (fun _ => rfl)
      · cases stepped
        exact spawnStep inStep inCode at_
  | awaitingPrepared asleep =>
      rw [mainStep, at_] at stepped
      cases asleep with
      | true =>
          cases stepped
      | false =>
          dsimp only at stepped
          split at stepped
          · cases stepped
            exact aside at_ ⟨rfl, rfl, rfl⟩ rfl nofun rfl (fun _ => rfl)
              (fun _ => rfl)
          · cases stepped
            exact aside at_ ⟨rfl, rfl, rfl⟩ rfl nofun rfl (fun _ => rfl)
              (fun _ => rfl)
  | checkingStop =>
      rw [mainStep, at_] at stepped
      dsimp only at stepped
      split at stepped
      · cases stepped
        exact aside at_ ⟨rfl, rfl, rfl⟩ rfl nofun rfl (fun _ => rfl) (fun _ => rfl)
      · cases stepped
        exact aside at_ ⟨rfl, rfl, rfl⟩ rfl nofun rfl (fun _ => rfl) (fun _ => rfl)
  | checkingStartup =>
      rw [mainStep, at_] at stepped
      dsimp only at stepped
      split at stepped
      · cases stepped
        exact aside at_ ⟨rfl, rfl, rfl⟩ rfl nofun rfl (fun _ => rfl) (fun _ => rfl)
      · cases stepped
        exact aside at_ ⟨rfl, rfl, rfl⟩ rfl nofun rfl (fun _ => rfl) (fun _ => rfl)
  | creatingLoader =>
      rw [mainStep, at_] at stepped
      dsimp only at stepped
      split at stepped
      · cases stepped
        exact aside at_ ⟨rfl, rfl, rfl⟩ rfl nofun rfl (fun _ => rfl) (fun _ => rfl)
      · cases stepped
        exact aside at_ ⟨rfl, rfl, rfl⟩ rfl nofun rfl (fun _ => rfl) (fun _ => rfl)
  | choosing =>
      rw [mainStep, at_] at stepped
      dsimp only at stepped
      split at stepped
      · cases stepped
        exact aside at_ ⟨rfl, rfl, rfl⟩ rfl nofun rfl (fun _ => rfl) (fun _ => rfl)
      · cases stepped
        exact aside at_ ⟨rfl, rfl, rfl⟩ rfl nofun rfl (fun _ => rfl) (fun _ => rfl)
  | activating =>
      rw [mainStep, at_] at stepped
      cases stepped
      exact aside at_ ⟨rfl, rfl, rfl⟩ rfl nofun rfl (fun _ => rfl) (fun _ => rfl)
  | notifying =>
      rw [mainStep, at_] at stepped
      cases stepped
      exact notifyStep inCode (by simp [at_]) rfl (fun _ => by rw [at_]; rfl)
        (fun _ => by rw [at_]; rfl)
  | announcing =>
      rw [mainStep, at_] at stepped
      dsimp only at stepped
      split at stepped
      · cases stepped
        exact aside at_ ⟨rfl, rfl, rfl⟩ rfl nofun rfl (fun _ => rfl) (fun _ => rfl)
      · cases stepped
        exact aside at_ ⟨rfl, rfl, rfl⟩ rfl nofun rfl (fun _ => rfl) (fun _ => rfl)
  | looping =>
      rw [mainStep, at_] at stepped
      dsimp only at stepped
      split at stepped
      · cases stepped
        exact aside at_ ⟨rfl, rfl, rfl⟩ rfl nofun rfl (fun _ => rfl) (fun _ => rfl)
      · cases stepped
        exact aside at_ ⟨rfl, rfl, rfl⟩ rfl nofun rfl (fun _ => rfl) (fun _ => rfl)
  | sleeping =>
      rw [mainStep, at_] at stepped
      cases stepped
      exact aside at_ ⟨rfl, rfl, rfl⟩ rfl nofun rfl (fun _ => rfl) (fun _ => rfl)
  | warming now =>
      rw [mainStep, at_] at stepped
      dsimp only at stepped
      split at stepped
      · cases stepped
        exact aside at_ ⟨rfl, rfl, rfl⟩ rfl nofun rfl (fun _ => rfl) (fun _ => rfl)
      · cases stepped
        exact aside at_ ⟨rfl, rfl, rfl⟩ rfl nofun rfl (fun _ => rfl) (fun _ => rfl)
  | opening now =>
      rw [mainStep, at_] at stepped
      cases stepped
      exact aside at_ ⟨rfl, rfl, rfl⟩ rfl nofun rfl (fun _ => rfl) (fun _ => rfl)
  | reporting =>
      rw [mainStep, at_] at stepped
      dsimp only at stepped
      split at stepped
      · cases stepped
        exact aside at_ ⟨rfl, rfl, rfl⟩ rfl nofun rfl (fun _ => rfl) (fun _ => rfl)
      · cases stepped
        exact aside at_ ⟨rfl, rfl, rfl⟩ rfl nofun rfl (fun _ => rfl) (fun _ => rfl)
  | judging rejected =>
      rw [mainStep, at_] at stepped
      cases stepped
      obtain ⟨frame, then_ | then_⟩ := judge_frame rejected answer before
      · exact aside at_ frame then_ nofun rfl (fun _ => rfl) (fun _ => rfl)
      · exact aside at_ frame then_ nofun rfl (fun _ => rfl) (fun _ => rfl)
  | stopping =>
      rw [mainStep, at_] at stepped
      dsimp only at stepped
      split at stepped
      · cases stepped
        exact aside at_ ⟨rfl, rfl, rfl⟩ rfl nofun rfl (fun _ => rfl) (fun _ => rfl)
      · cases stepped
        exact aside at_ ⟨rfl, rfl, rfl⟩ rfl nofun rfl (fun _ => rfl) (fun _ => rfl)
  | cutting =>
      rw [mainStep, at_] at stepped
      obtain ⟨loader, _, rfl⟩ := Option.map_eq_some_iff.mp stepped
      obtain ⟨frame, _, then_⟩ := cutRedirect_frame loader answer before
      exact aside at_ frame then_ nofun rfl (fun _ => rfl) (fun _ => rfl)
  | requesting exit =>
      rw [mainStep, at_] at stepped
      dsimp only at stepped
      split at stepped
      · cases stepped
        exact aside at_ ⟨rfl, rfl, rfl⟩ rfl nofun rfl (fun _ => rfl) (fun _ => rfl)
      · cases stepped
        exact aside at_ ⟨rfl, rfl, rfl⟩ rfl nofun rfl (fun _ => rfl) (fun _ => rfl)
  | unblocking exit =>
      rw [mainStep, at_] at stepped
      cases stepped
      exact aside at_ ⟨rfl, rfl, rfl⟩ rfl nofun rfl (fun _ => rfl) (fun _ => rfl)
  | waking exit =>
      rw [mainStep, at_] at stepped
      cases stepped
      exact notifyStep inCode (by simp [at_]) rfl (fun _ => by rw [at_]; rfl)
        (fun _ => by rw [at_]; rfl)
  | joining exit =>
      rw [mainStep, at_] at stepped
      dsimp only at stepped
      split at stepped
      · next returned =>
          cases exit with
          | none =>
              cases stepped
              exact drainStart inCode inStepAfter at_ returned rfl rfl rfl
          | some exit =>
              cases stepped
              exact aside at_ ⟨rfl, rfl, rfl⟩ rfl nofun rfl
                (fun _ => rfl) (fun _ => rfl)
      · cases stepped
  | draining =>
      obtain ⟨rest, code, _⟩ := inCode.draining at_
      rw [mainStep, at_, code] at stepped
      cases rest with
      | step effect later =>
          cases stepped
          exact drainStep inCode inStepAfter at_ code rfl rfl rfl
      | done remaining =>
          have notReported : before.main.reported = false := by
            rw [at_]
            rfl
          dsimp only at stepped
          split at stepped
          · cases stepped
            exact drained_aside inCode inStepAfter notReported code
              ⟨rfl, code.symm, rfl⟩ (.inl rfl)
          · split at stepped
            · cases stepped
              exact drained_aside inCode inStepAfter notReported code
                ⟨rfl, code.symm, rfl⟩ (.inr (.inr ⟨_, rfl⟩))
            · cases stepped
              exact drained_aside inCode inStepAfter notReported code
                ⟨rfl, code.symm, rfl⟩ (.inl rfl)
  | detaching remaining =>
      rw [mainStep, at_] at stepped
      obtain ⟨loader, _, rfl⟩ := Option.map_eq_some_iff.mp stepped
      obtain ⟨frame, then_⟩ :=
        detachProgram_frame loader remaining answer before
      exact drained_aside inCode inStepAfter (by rw [at_]; rfl)
        (inCode.drained remaining (.inl at_)) frame (.inr then_)
  | summarizing remaining =>
      rw [mainStep, at_] at stepped
      cases stepped
      have code := inCode.drained remaining (.inr at_)
      have returned : before.worker = .returned :=
        inStep.returned (by rw [Process.handshake, at_]; rfl)
          (by rw [Process.handshake, at_]; nofun)
      refine ⟨?_, .inr ⟨.work, ?_⟩⟩
      · exact
          { filling := nofun
            turning := fun turning =>
              absurd (returned.symm.trans turning) nofun
            draining := nofun
            drained := by
              rintro other (detaching | summarizing)
              · cases detaching
              · cases summarizing
            idle := fun _ _ _ => rfl
            reported := nofun }
      · simp only [Process.packets, code, Code.pending]
        rfl
  | leaving exit =>
      rw [mainStep, at_] at stepped
      cases stepped
      cases exit with
      | none =>
          exact aside at_ ⟨rfl, rfl, rfl⟩ rfl nofun rfl nofun nofun
      | some exit =>
          exact aside at_ ⟨rfl, rfl, rfl⟩ rfl nofun rfl nofun nofun
  | sorting =>
      rw [mainStep, at_] at stepped
      dsimp only at stepped
      split at stepped
      · cases stepped
        exact aside at_ ⟨rfl, rfl, rfl⟩ rfl nofun rfl nofun nofun
      · cases stepped
        exact aside at_ ⟨rfl, rfl, rfl⟩ rfl nofun rfl nofun nofun
  | exporting =>
      rw [mainStep, at_] at stepped
      cases stepped
      obtain ⟨frame, then_ | then_⟩ := exportSamples_frame answer before
      · exact aside at_ frame then_ nofun rfl nofun nofun
      · exact aside at_ frame then_ nofun rfl nofun nofun
  | describing =>
      rw [mainStep, at_] at stepped
      cases stepped
      obtain ⟨frame, _, then_⟩ := describeRun_frame answer before
      exact aside at_ frame then_ nofun rfl nofun nofun
  | finished exit =>
      rw [mainStep, at_] at stepped
      cases stepped

/-- The kernel does not write the run summary. -/
theorem kernel_unreported
    {kernelStep : KernelStep}
    {first second : World}
    (performed :
      kernelStep.perform deployment.scenario.config
          deployment.scenario.admits first =
        some second) :
    second.summary = first.summary := by
  obtain ⟨_, rfl⟩ := KernelStep.perform_eq_some.mp performed
  cases kernelStep <;> rfl

/-- A step of either thread or from outside. -/
theorem step_packets
    {event : ProcessEvent}
    (inStep : before.handshake.InStep)
    (inCode : before.InCode)
    (stepped : deployment.step event before = some after) :
    after.InCode ∧ deployment.OnPackets before after := by
  cases event with
  | main answer =>
      exact mainStep_packets inStep inCode stepped
  | worker answer =>
      exact workerStep_packets inStep inCode stepped
  | signal =>
      cases stepped
      exact ⟨{ inCode with }, .same rfl rfl⟩
  | kernel kernelStep =>
      obtain ⟨world, performed, rfl⟩ := Option.map_eq_some_iff.mp stepped
      refine ⟨{ inCode with
        reported := fun notReported =>
          (kernel_unreported performed).trans
            (inCode.reported notReported) }, .inr ⟨.env kernelStep, ?_⟩⟩
      exact Option.map_eq_some_iff.mpr ⟨world, performed, rfl⟩
  | wakeMain =>
      cases stepped
      refine ⟨inCode.notifyPrepared, ?_⟩
      unfold Process.notifyPrepared
      split
      · exact .same rfl rfl
      · exact .same rfl rfl
  | wakeWorker =>
      cases stepped
      obtain ⟨code, world, _⟩ := notifyActivated_aside before
      exact ⟨inCode.notifyActivated, .same code world⟩

/-- At the start `main` is about to fill the ring. -/
theorem start_inCode : deployment.start.InCode where
  filling _ := ⟨_, rfl, startup_calm⟩
  turning := nofun
  draining := nofun
  drained := by
    rintro remaining (detaching | summarizing)
    · cases detaching
    · cases summarizing
  idle filling := absurd rfl filling
  reported _ := rfl

/-- Every reachable state is one of the sequential reflector. -/
theorem Reachable.packets
    (reachable : deployment.Reachable after) :
    after.InCode ∧
      ∃ events, deployment.scenario.Reaches events after.packets := by
  induction reachable with
  | start =>
      exact ⟨start_inCode, [], rfl⟩
  | step reachable stepped inductionHypothesis =>
      obtain ⟨inCode, events, reaches⟩ := inductionHypothesis
      obtain ⟨inCodeAfter, same | ⟨event, performed⟩⟩ :=
        step_packets reachable.inStep inCode stepped
      · exact ⟨inCodeAfter, events, same ▸ reaches⟩
      · exact ⟨inCodeAfter, events ++ [event],
          Machine.run_snoc reaches performed⟩

/-- Inside a turn the worker takes the steps of the packet path. -/
theorem Reachable.turnEffect
    {effect : World → World}
    {later : World → Task Unit}
    (reachable : deployment.Reachable before)
    (turn : before.code = .turn (.step effect later)) :
    WorkerStep deployment.scenario.config deployment.scenario.rewrite
      false before.world (effect before.world) := by
  obtain ⟨_, events, reaches⟩ := reachable.packets
  have promise := (Scenario.reaches_sound reaches).promise
  rw [Process.packets, turn, Code.pending] at promise
  exact promise.step.2.1

/-! ## What the handshake is for -/

variable {process : Process}

/--
Whatever the two threads, the kernel and the signals do, the packet objects
see a run of the sequential reflector: startup, whole turns one after the
other, and at most one shutdown.
-/
theorem threads_refine_reflector
    (reachable : deployment.Reachable process) :
    ∃ events, deployment.scenario.Reaches events process.packets :=
  reachable.packets.2

/-- The state in which the first turn of the small instance has begun. -/
theorem sample_turning :
    ∃ process,
      sample.Reachable process ∧ process.worker = .turning := by
  obtain ⟨process, ran, turning⟩ :
      ∃ process,
        sample.run sampleActivation sample.start = some process ∧
          process.worker = .turning :=
    ⟨_, rfl, rfl⟩
  exact ⟨process, Reachable.start.run ran, turning⟩

/-- In the first turn of the small instance. -/
theorem threads_refine_reflector_turning :
    ∃ process,
      sample.Reachable process ∧ process.worker = .turning ∧
        ∃ events, sample.scenario.Reaches events process.packets := by
  obtain ⟨process, reachable, turning⟩ := sample_turning
  exact ⟨process, reachable, turning, threads_refine_reflector reachable⟩

/--
The program is attached when the worker is prepared, set up without an error
and not yet let go.  The worker takes a turn only when it was let go, while
the loader exists and nobody has joined it.  What `main` does to the packet
objects and the loader after the join it does alone.
-/
theorem threads_keep_order
    (reachable : deployment.Reachable process) :
    (process.main = .creatingLoader →
      process.prepared = true ∧ process.startup.isOk = true ∧
        process.activated = false ∧ process.worker ≠ .polling ∧
        process.worker ≠ .turning) ∧
      (process.worker = .turning →
        process.startup.isOk = true ∧ process.activated = true ∧
          process.loader.isSome = true ∧
          process.main.stage.joined = false ∧
          process.main ≠ .filling) ∧
      (process.main = .filling →
        process.worker = .absent) ∧
      (process.main.stage.joined = true →
        process.worker = .absent ∨ process.worker = .returned) := by
  have inStep := reachable.inStep
  refine ⟨?_, ?_, ?_, inStep.joined⟩
  · intro creating
    have stage : process.handshake.stage = .creating := by
      rw [Process.handshake, creating]
      rfl
    have held : process.activated = false :=
      inStep.held (by rw [stage]; rfl)
    have notFree : ¬ process.worker.free = true := by
      intro free
      exact absurd ((inStep.free free).symm.trans held) nofun
    refine ⟨?_, inStep.created (.inl stage), held, ?_, ?_⟩
    · have late : process.worker.early = false :=
        inStep.not_early
          (inStep.present (by rw [stage]; nofun) (by rw [stage]; nofun))
          (by rw [stage]; nofun)
      have prepared := inStep.prepared
      rw [show process.handshake.worker.early = false from late] at prepared
      exact prepared
    · intro polling
      exact notFree (by rw [polling]; rfl)
    · intro turning
      exact notFree (by rw [turning]; rfl)
  · intro turning
    exact ⟨inStep.passed (by rw [Process.handshake, turning]; rfl),
      inStep.free (by rw [Process.handshake, turning]; rfl),
      inStep.turning turning,
      (not_reported inStep (by simp [turning]) (by simp [turning])).1,
      not_filling inStep (by simp [turning])⟩
  · intro filling
    exact inStep.spawned (by rw [Process.handshake, filling]; rfl)

/-- In the same turn the loader is there. -/
theorem threads_keep_order_turning :
    ∃ process,
      sample.Reachable process ∧ process.worker = .turning ∧
        process.loader.isSome = true := by
  obtain ⟨process, reachable, turning⟩ := sample_turning
  exact ⟨process, reachable, turning,
    ((threads_keep_order reachable).2.1 turning).2.2.1⟩

end Deployment

end AfXdp
