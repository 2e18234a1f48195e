import AfXdp.RunReceiver

namespace AfXdp

/-!
# The handshake of the two threads

What the two threads of `run_receiver` can see of each other: how far each of
them is, the flags between them, whether the setup of the worker succeeded,
and whether the XDP program has an owner.  Everything else is left out, and
several program counters of `main` fall together.  The invariant of this
protocol is proved here, once, over its moves.
-/

/-- How far `main` is.  An orderly stop is one that no early exit caused. -/
inductive Stage where
  | alone : Stage
  | waiting (asleep : Bool) : Stage
  | checking : Stage
  | creating : Stage
  | attached : Stage
  | notifying : Stage
  | watching : Stage
  | requesting (orderly : Bool) : Stage
  | unblocking (orderly : Bool) : Stage
  | waking (orderly : Bool) : Stage
  | joining (orderly : Bool) : Stage
  | closing : Stage
  | leaving : Stage
  | exporting : Stage
  | finished : Stage
  deriving Repr, DecidableEq

/-- The stage of each program counter of `main`. -/
def MainPc.stage : MainPc → Stage
  | .filling | .spawning =>
      .alone
  | .awaitingPrepared asleep =>
      .waiting asleep
  | .checkingStop | .checkingStartup =>
      .checking
  | .creatingLoader =>
      .creating
  | .choosing | .activating =>
      .attached
  | .notifying =>
      .notifying
  | .announcing | .looping | .sleeping | .warming _ | .opening _
  | .reporting | .judging _ | .stopping | .cutting =>
      .watching
  | .requesting after =>
      .requesting after.isNone
  | .unblocking after =>
      .unblocking after.isNone
  | .waking after =>
      .waking after.isNone
  | .joining after =>
      .joining after.isNone
  | .draining | .detaching _ | .summarizing _ | .leaving none =>
      .closing
  | .leaving (some _) =>
      .leaving
  | .sorting | .exporting | .describing =>
      .exporting
  | .finished _ =>
      .finished

/-- Stages of more than one step. -/
def Stage.lasting : Stage → Bool
  | .alone | .checking | .attached | .watching | .closing | .exporting =>
      true
  | _ =>
      false

/-- What the two threads tell each other, and where they are. -/
structure Handshake where
  stage : Stage
  worker : WorkerPc
  prepared : Bool
  activated : Bool
  stopRequested : Bool
  unblock : Bool
  started : Bool
  loaded : Bool
  deriving Repr, DecidableEq

/-- What a process shows of the handshake. -/
def Process.handshake (process : Process) : Handshake where
  stage := process.main.stage
  worker := process.worker
  prepared := process.prepared
  activated := process.activated
  stopRequested := process.stopRequested
  unblock := process.unblock
  started := process.startup.isOk
  loaded := process.loader.isSome

namespace Handshake

/-- `activated.notify_one()`. -/
def wakeWorker (handshake : Handshake) : Handshake :=
  if handshake.worker = .awaiting true then
    { handshake with worker := .awaiting false }
  else
    handshake

/-- `prepared.notify_one()`. -/
def wakeMain (handshake : Handshake) : Handshake :=
  if handshake.stage = .waiting true then
    { handshake with stage := .waiting false }
  else
    handshake

/-! ## Moves -/

/-- A move of the worker from its position to the next. -/
inductive WorkerMove (before : Handshake) : Handshake → Prop where
  | late
      (at_ : before.worker = .registering)
      (stopped : before.stopRequested = true) :
      WorkerMove before
        { before with
          activated := true
          worker := .preparing }
  | register
      (at_ : before.worker = .registering)
      (running : before.stopRequested = false) :
      WorkerMove before
        { before with
          unblock := true
          worker := .preparing }
  | fail
      (at_ : before.worker = .preparing) :
      WorkerMove before
        { before with
          started := false
          worker := .publishing }
  | prepare
      (at_ : before.worker = .preparing) :
      WorkerMove before { before with worker := .calibrating }
  | calibrate
      (at_ : before.worker = .calibrating)
      (started : Bool) :
      WorkerMove before
        { before with
          started := started
          worker := .publishing }
  | publish
      (at_ : before.worker = .publishing) :
      WorkerMove before
        { before with
          prepared := true
          worker := .notifying }
  | notify
      (at_ : before.worker = .notifying) :
      WorkerMove before { before.wakeMain with worker := .deciding }
  | giveUp
      (at_ : before.worker = .deciding)
      (failed : before.started = false) :
      WorkerMove before { before with worker := .returning }
  | await
      (at_ : before.worker = .deciding)
      (started : before.started = true) :
      WorkerMove before { before with worker := .awaiting false }
  | sleep
      (at_ : before.worker = .awaiting false)
      (held : before.activated = false) :
      WorkerMove before { before with worker := .awaiting true }
  | proceed
      (at_ : before.worker = .awaiting false)
      (activated : before.activated = true) :
      WorkerMove before { before with worker := .polling }
  | begin
      (at_ : before.worker = .polling)
      (running : before.stopRequested = false) :
      WorkerMove before { before with worker := .turning }
  | work
      (at_ : before.worker = .turning) :
      WorkerMove before before
  | end_
      (at_ : before.worker = .turning) :
      WorkerMove before { before with worker := .polling }
  | stop
      (at_ : before.worker = .polling)
      (stopped : before.stopRequested = true) :
      WorkerMove before { before with worker := .returning }
  | return_
      (at_ : before.worker = .returning)
      (idle :
        ∀ orderly,
          before.stage ≠ .unblocking orderly ∧
            before.stage ≠ .waking orderly) :
      WorkerMove before
        { before with
          unblock := false
          worker := .returned }

/-- A move of `main` from its stage to the next. -/
inductive MainMove (before : Handshake) : Handshake → Prop where
  | stay
      (lasting : before.stage.lasting = true) :
      MainMove before before
  | fail
      (at_ : before.stage = .alone) :
      MainMove before { before with stage := .finished }
  | spawn
      (at_ : before.stage = .alone) :
      MainMove before
        { before with
          worker := .registering
          stage := .waiting false }
  | sleep
      (at_ : before.stage = .waiting false)
      (early : before.prepared = false) :
      MainMove before { before with stage := .waiting true }
  | check
      (at_ : before.stage = .waiting false)
      (prepared : before.prepared = true) :
      MainMove before { before with stage := .checking }
  | pass
      (at_ : before.stage = .checking)
      (started : before.started = true) :
      MainMove before { before with stage := .creating }
  | load
      (at_ : before.stage = .creating) :
      MainMove before
        { before with
          loaded := true
          stage := .attached }
  | skip
      (at_ : before.stage = .attached) :
      MainMove before { before with stage := .watching }
  | activate
      (at_ : before.stage = .attached) :
      MainMove before
        { before with
          activated := true
          stage := .notifying }
  | notify
      (at_ : before.stage = .notifying) :
      MainMove before { before.wakeWorker with stage := .watching }
  | abort
      (at_ :
        before.stage = .checking ∨ before.stage = .creating ∨
          before.stage = .watching) :
      MainMove before { before with stage := .requesting false }
  | order
      (at_ : before.stage = .watching) :
      MainMove before { before with stage := .requesting true }
  | requestUnheard
      {orderly : Bool}
      (at_ : before.stage = .requesting orderly)
      (unheard : before.unblock = false) :
      MainMove before
        { before with
          stopRequested := true
          stage := .joining orderly }
  | request
      {orderly : Bool}
      (at_ : before.stage = .requesting orderly)
      (heard : before.unblock = true) :
      MainMove before
        { before with
          stopRequested := true
          unblock := false
          stage := .unblocking orderly }
  | unblock
      {orderly : Bool}
      (at_ : before.stage = .unblocking orderly) :
      MainMove before
        { before with
          activated := true
          stage := .waking orderly }
  | wake
      {orderly : Bool}
      (at_ : before.stage = .waking orderly) :
      MainMove before
        { before.wakeWorker with stage := .joining orderly }
  | join
      (at_ : before.stage = .joining true)
      (returned : before.worker = .returned) :
      MainMove before { before with stage := .closing }
  | joinEarly
      (at_ : before.stage = .joining false)
      (returned : before.worker = .returned) :
      MainMove before { before with stage := .leaving }
  | giveUp
      (at_ : before.stage = .closing) :
      MainMove before { before with stage := .leaving }
  | close
      (at_ : before.stage = .closing) :
      MainMove before
        { before with
          loaded := false
          stage := .exporting }
  | leave
      (at_ : before.stage = .leaving) :
      MainMove before
        { before with
          loaded := false
          stage := .finished }
  | finish
      (at_ : before.stage = .exporting) :
      MainMove before { before with stage := .finished }

/-- Any move, or a spurious wakeup. -/
inductive Move (before : Handshake) : Handshake → Prop where
  | main {after : Handshake} (moved : MainMove before after) :
      Move before after
  | worker {after : Handshake} (moved : WorkerMove before after) :
      Move before after
  | wakeMain : Move before before.wakeMain
  | wakeWorker : Move before before.wakeWorker
  | elsewhere : Move before before

end Handshake

/-! ## The invariant -/

namespace Stage

/-- The worker exists and has not been let go. -/
def held : Stage → Bool
  | .waiting _ | .checking | .creating | .attached =>
      true
  | _ =>
      false

/-- The stop was requested. -/
def requested : Stage → Bool
  | .unblocking _ | .waking _ | .joining _ | .closing | .leaving
  | .exporting | .finished =>
      true
  | _ =>
      false

/-- The worker, if there was one, was joined. -/
def joined : Stage → Bool
  | .closing | .leaving | .exporting | .finished =>
      true
  | _ =>
      false

/-- The program is attached and its owner is in place. -/
def owned : Stage → Bool
  | .attached | .notifying | .watching | .requesting true
  | .unblocking true | .waking true | .joining true | .closing =>
      true
  | _ =>
      false

end Stage

namespace WorkerPc

/-- Before `prepared` is set. -/
def early : WorkerPc → Bool
  | .absent | .registering | .preparing | .calibrating | .publishing =>
      true
  | _ =>
      false

/-- Past the wait for `activated`. -/
def free : WorkerPc → Bool
  | .polling | .turning =>
      true
  | _ =>
      false

/-- The stop callback exists. -/
def listening : WorkerPc → Bool
  | .absent | .registering | .returned =>
      false
  | _ =>
      true

/-- The setup of the thread was found to be in order. -/
def passed : WorkerPc → Bool
  | .awaiting _ | .polling | .turning =>
      true
  | _ =>
      false

/-- Without its callback a prepared worker is over. -/
theorem eq_returned
    {worker : WorkerPc}
    (late : worker.early = false)
    (silent : worker.listening = false) :
    worker = .returned := by
  cases worker with
  | returned =>
      rfl
  | absent | registering | preparing | calibrating | publishing =>
      cases late
  | notifying | deciding | awaiting | polling | turning | returning =>
      cases silent

/-- From here to the next position without touching anything shared. -/
def regular (here next : WorkerPc) : Bool :=
  decide (here ≠ .absent ∧ here ≠ .returned) &&
    decide (next ≠ .absent ∧ next ≠ .returned) &&
    next.early == here.early && next.listening == here.listening

end WorkerPc

namespace Handshake

/-- What the positions of the two threads say about the rest. -/
structure InStep (handshake : Handshake) : Prop where
  absent :
    handshake.worker = .absent →
    (handshake.stage = .alone ∨ handshake.stage = .finished) ∧
      handshake.activated = false ∧ handshake.stopRequested = false ∧
      handshake.loaded = false
  spawned :
    handshake.stage = .alone →
    handshake.worker = .absent
  requested :
    handshake.worker ≠ .absent →
    handshake.stopRequested = handshake.stage.requested
  joined :
    handshake.stage.joined = true →
    handshake.worker = .absent ∨ handshake.worker = .returned
  prepared :
    handshake.prepared = !handshake.worker.early
  waiting :
    handshake.worker.early = true →
    handshake.worker = .absent ∨
      ∃ asleep, handshake.stage = .waiting asleep
  held :
    handshake.stage.held = true →
    handshake.activated = false
  free :
    handshake.worker.free = true →
    handshake.activated = true
  unblock :
    handshake.unblock =
      (handshake.worker.listening && !handshake.stopRequested)
  claimed :
    ∀ orderly,
      handshake.stage = .unblocking orderly ∨
        handshake.stage = .waking orderly →
      handshake.worker ≠ .returned
  woken :
    ∀ orderly,
      handshake.stage = .waking orderly →
      handshake.activated = true
  joining :
    ∀ orderly,
      handshake.stage = .joining orderly →
      handshake.worker ≠ .awaiting true ∧
        (handshake.worker ≠ .returned → handshake.activated = true)
  mainAsleep :
    handshake.stage = .waiting true →
    handshake.prepared = true →
    handshake.worker = .notifying
  workerAsleep :
    handshake.worker = .awaiting true →
    handshake.activated = true →
    handshake.stage = .notifying ∨
      ∃ orderly, handshake.stage = .waking orderly
  passed :
    handshake.worker.passed = true →
    handshake.started = true
  created :
    handshake.stage = .creating ∨ handshake.stage.owned = true →
    handshake.started = true
  attached :
    handshake.stage.owned = true →
    handshake.loaded = true
  released :
    handshake.activated = true →
    handshake.stopRequested = false →
    handshake.loaded = true
  turning :
    handshake.worker = .turning →
    handshake.loaded = true

namespace InStep

variable {before after : Handshake}

/-- While the worker prepares itself `main` waits for it. -/
theorem waits
    (inStep : before.InStep)
    (present : before.worker ≠ .absent)
    (early : before.worker.early = true) :
    ∃ asleep, before.stage = .waiting asleep :=
  (inStep.waiting early).resolve_left present

/-- Nobody sleeps past the activation, unless about to be notified. -/
theorem asleep_unactivated
    (inStep : before.InStep)
    (notNotifying : before.stage ≠ .notifying)
    (notWaking : ∀ orderly, before.stage ≠ .waking orderly)
    (asleep : before.worker = .awaiting true) :
    before.activated = false := by
  cases activated : before.activated with
  | false =>
      rfl
  | true =>
      rcases inStep.workerAsleep asleep activated with at_ | ⟨_, at_⟩
      · exact absurd at_ notNotifying
      · exact absurd at_ (notWaking _)

/-! ### The worker moves -/

/-- The worker goes on without touching anything shared. -/
theorem goOn
    (inStep : before.InStep)
    {here next : WorkerPc}
    (at_ : before.worker = here)
    (regular : here.regular next = true)
    (quiet : before.stage = .waiting true → here ≠ .notifying)
    (awake : next = .awaiting true → before.activated = false)
    (free : next.free = true → before.activated = true)
    (passed : next.passed = true → before.started = true)
    (turning : next = .turning → before.loaded = true) :
    InStep { before with worker := next } := by
  simp only [WorkerPc.regular, Bool.and_eq_true, decide_eq_true_eq,
    beq_iff_eq] at regular
  obtain ⟨⟨⟨present, stays⟩, early⟩, listening⟩ := regular
  rw [← at_] at present early listening quiet
  exact
    { absent := fun gone => absurd gone stays.1
      spawned := fun alone => absurd (inStep.spawned alone) present.1
      requested := fun _ => inStep.requested present.1
      joined := by
        intro joined
        rcases inStep.joined joined with gone | returned
        · exact absurd gone present.1
        · exact absurd returned present.2
      prepared := by
        change before.prepared = !next.early
        rw [early]
        exact inStep.prepared
      waiting := fun isEarly =>
        .inr (inStep.waits present.1 (early ▸ isEarly))
      held := inStep.held
      free := free
      unblock := by
        change before.unblock = (next.listening && !before.stopRequested)
        rw [listening]
        exact inStep.unblock
      claimed := fun _ _ => stays.2
      woken := inStep.woken
      joining := by
        intro orderly joining
        have activated := (inStep.joining orderly joining).2 present.2
        refine ⟨?_, fun _ => activated⟩
        intro asleep
        exact absurd activated (by rw [awake asleep]; decide)
      mainAsleep := fun asleep prepared =>
        absurd (inStep.mainAsleep asleep prepared) (quiet asleep)
      workerAsleep := fun asleep activated =>
        absurd activated (by rw [awake asleep]; decide)
      passed := passed
      created := inStep.created
      attached := inStep.attached
      released := inStep.released
      turning := turning }

/-- The result of the setup may change while nobody relies on it. -/
theorem restart
    (inStep : before.InStep)
    (present : before.worker ≠ .absent)
    (early : before.worker.early = true)
    (unused : before.worker.passed = false)
    (started : Bool) :
    InStep { before with started := started } :=
  { inStep with
    passed := by
      intro passed
      exact absurd passed (by rw [unused]; decide)
    created := by
      obtain ⟨asleep, at_⟩ := inStep.waits present early
      rintro (creating | owned)
      · exact absurd (at_.symm.trans creating) nofun
      · rw [show before.stage.owned = false by rw [at_]; rfl] at owned
        cases owned }

/-- A spurious wakeup of `main`. -/
theorem wokenMain (inStep : before.InStep) : before.wakeMain.InStep := by
  unfold Handshake.wakeMain
  split
  · next at_ =>
      exact
        { inStep with
          absent := by
            intro gone
            rcases (inStep.absent gone).1 with alone | finished
            · exact absurd (at_.symm.trans alone) nofun
            · exact absurd (at_.symm.trans finished) nofun
          spawned := nofun
          requested := by
            intro present
            have requested := inStep.requested present
            rw [at_] at requested
            exact requested
          joined := nofun
          waiting := by
            intro early
            exact (inStep.waiting early).imp id fun _ => ⟨false, rfl⟩
          held := by
            intro _
            exact inStep.held (by rw [at_]; rfl)
          claimed := by
            rintro orderly (unblocking | waking)
            · cases unblocking
            · cases waking
          woken := nofun
          joining := nofun
          mainAsleep := nofun
          workerAsleep := by
            intro asleep activated
            have held := inStep.held (by rw [at_]; rfl)
            exact absurd activated (by
              change before.activated ≠ true
              rw [held]
              decide)
          created := by
            rintro (creating | owned)
            · cases creating
            · cases owned
          attached := nofun }
  · exact inStep

/-- A spurious wakeup of the worker. -/
theorem wokenWorker
    (inStep : before.InStep) :
    before.wakeWorker.InStep := by
  unfold Handshake.wakeWorker
  split
  · next at_ =>
      exact inStep.goOn at_ (by decide) nofun nofun nofun
        (fun _ => inStep.passed (by rw [at_]; rfl)) nofun
  · exact inStep

/-- After its wakeup `main` does not sleep. -/
theorem wakeMain_stage (handshake : Handshake) :
    handshake.wakeMain.stage ≠ .waiting true := by
  unfold Handshake.wakeMain
  split
  · nofun
  · assumption

/-- Nor does the worker after its own. -/
theorem wakeWorker_worker (handshake : Handshake) :
    handshake.wakeWorker.worker ≠ .awaiting true := by
  unfold Handshake.wakeWorker
  split
  · nofun
  · assumption

/-- The worker tells that it is prepared. -/
theorem publish
    (inStep : before.InStep)
    (at_ : before.worker = .publishing) :
    InStep
      { before with
        prepared := true
        worker := .notifying } := by
  have present : before.worker ≠ .absent := by simp [at_]
  obtain ⟨asleep, waiting⟩ := inStep.waits present (by rw [at_]; rfl)
  exact
    { inStep with
      absent := nofun
      spawned := by
        intro alone
        exact absurd (waiting.symm.trans alone) nofun
      requested := fun _ => inStep.requested present
      joined := by
        intro joined
        rw [show before.stage.joined = false by rw [waiting]; rfl]
          at joined
        cases joined
      prepared := rfl
      waiting := nofun
      free := nofun
      unblock := by
        have heard := inStep.unblock
        rw [at_] at heard
        exact heard
      claimed := nofun
      joining := by
        intro orderly joining
        exact absurd (waiting.symm.trans joining) nofun
      mainAsleep := fun _ _ => rfl
      workerAsleep := nofun
      passed := nofun
      turning := nofun }

/-- The stop callback is in place. -/
theorem register
    (inStep : before.InStep)
    (at_ : before.worker = .registering)
    (running : before.stopRequested = false) :
    InStep
      { before with
        unblock := true
        worker := .preparing } := by
  have present : before.worker ≠ .absent := by simp [at_]
  obtain ⟨asleep, waiting⟩ := inStep.waits present (by rw [at_]; rfl)
  exact
    { inStep with
      absent := nofun
      spawned := by
        intro alone
        exact absurd (waiting.symm.trans alone) nofun
      requested := fun _ => inStep.requested present
      joined := by
        intro joined
        rw [show before.stage.joined = false by rw [waiting]; rfl]
          at joined
        cases joined
      prepared := by
        have early := inStep.prepared
        rw [at_] at early
        exact early
      waiting := fun _ => .inr ⟨asleep, waiting⟩
      free := nofun
      unblock := by
        change true = (true && !before.stopRequested)
        rw [running]
        rfl
      claimed := nofun
      joining := by
        intro orderly joining
        exact absurd (waiting.symm.trans joining) nofun
      mainAsleep := by
        intro _ prepared
        have early := inStep.prepared
        rw [at_, show before.prepared = true from prepared] at early
        cases early
      workerAsleep := nofun
      passed := nofun
      turning := nofun }

/-- The thread function is over. -/
theorem finishWorker
    (inStep : before.InStep)
    (at_ : before.worker = .returning)
    (idle :
      ∀ orderly,
        before.stage ≠ .unblocking orderly ∧
          before.stage ≠ .waking orderly) :
    InStep
      { before with
        unblock := false
        worker := .returned } :=
  { inStep with
    absent := nofun
    spawned := by
      intro alone
      have absent := inStep.spawned alone
      rw [at_] at absent
      cases absent
    requested := fun _ => inStep.requested (by simp [at_])
    joined := fun _ => .inr rfl
    prepared := by
      have early := inStep.prepared
      rw [at_] at early
      exact early
    waiting := nofun
    free := nofun
    unblock := rfl
    claimed := by
      rintro orderly (unblocking | waking)
      · exact absurd unblocking (idle orderly).1
      · exact absurd waking (idle orderly).2
    joining := fun _ _ => ⟨nofun, fun running => absurd rfl running⟩
    mainAsleep := by
      intro asleep prepared
      have notifying := inStep.mainAsleep asleep prepared
      rw [at_] at notifying
      cases notifying
    workerAsleep := nofun
    passed := nofun
    turning := nofun }

/-- Every move of the worker keeps to the protocol. -/
theorem workerMove
    (inStep : before.InStep)
    (moved : WorkerMove before after) :
    after.InStep := by
  cases moved with
  | late at_ stopped =>
      obtain ⟨asleep, waiting⟩ :=
        inStep.waits (by simp [at_]) (by rw [at_]; rfl)
      have running := inStep.requested (by simp [at_])
      rw [stopped, waiting] at running
      cases running
  | register at_ running =>
      exact inStep.register at_ running
  | fail at_ =>
      have early : before.worker.early = true := by
        rw [at_]
        rfl
      have restarted :=
        inStep.restart (by simp [at_]) early (by rw [at_]; rfl) false
      exact restarted.goOn at_ (by decide) nofun nofun nofun nofun
        nofun
  | prepare at_ =>
      exact inStep.goOn at_ (by decide) nofun nofun nofun nofun nofun
  | calibrate at_ started =>
      have early : before.worker.early = true := by
        rw [at_]
        rfl
      have restarted :=
        inStep.restart (by simp [at_]) early (by rw [at_]; rfl) started
      exact restarted.goOn at_ (by decide) nofun nofun nofun nofun
        nofun
  | publish at_ =>
      exact inStep.publish at_
  | notify at_ =>
      have same : before.wakeMain.worker = before.worker := by
        unfold Handshake.wakeMain
        split <;> rfl
      exact inStep.wokenMain.goOn (same.trans at_) (by decide)
        (fun asleep => absurd asleep (wakeMain_stage before)) nofun nofun
        nofun nofun
  | giveUp at_ failed =>
      exact inStep.goOn at_ (by decide) nofun nofun nofun nofun nofun
  | await at_ started =>
      exact inStep.goOn at_ (by decide) nofun nofun nofun
        (fun _ => started) nofun
  | sleep at_ held =>
      exact inStep.goOn at_ (by decide) nofun (fun _ => held) nofun
        (fun _ => inStep.passed (by rw [at_]; rfl)) nofun
  | proceed at_ activated =>
      exact inStep.goOn at_ (by decide) nofun nofun (fun _ => activated)
        (fun _ => inStep.passed (by rw [at_]; rfl)) nofun
  | begin at_ running =>
      have activated := inStep.free (by rw [at_]; rfl)
      exact inStep.goOn at_ (by decide) nofun nofun (fun _ => activated)
        (fun _ => inStep.passed (by rw [at_]; rfl))
        (fun _ => inStep.released activated running)
  | work at_ =>
      exact inStep
  | end_ at_ =>
      have activated := inStep.free (by rw [at_]; rfl)
      exact inStep.goOn at_ (by decide) nofun nofun (fun _ => activated)
        (fun _ => inStep.passed (by rw [at_]; rfl)) nofun
  | stop at_ stopped =>
      exact inStep.goOn at_ (by decide) nofun nofun nofun nofun nofun
  | return_ at_ idle =>
      exact inStep.finishWorker at_ idle

/-! ### `main` moves -/

/-- After the start of the worker `main` is never alone again. -/
theorem present
    (inStep : before.InStep)
    (notAlone : before.stage ≠ .alone)
    (notFinished : before.stage ≠ .finished) :
    before.worker ≠ .absent := by
  intro gone
  rcases (inStep.absent gone).1 with alone | finished
  · exact notAlone alone
  · exact notFinished finished

/-- `main` goes on without touching anything shared. -/
theorem advance
    (inStep : before.InStep)
    {here next : Stage}
    (at_ : before.stage = here)
    (stays : here ≠ .alone ∧ here ≠ .finished ∧ next ≠ .alone)
    (requested : next.requested = here.requested)
    (joined : next.joined = true → before.worker = .returned)
    (early :
      before.worker.early = true →
      ∃ asleep, next = .waiting asleep)
    (held : next.held = true → before.activated = false)
    (unclaimed :
      ∀ orderly, next ≠ .unblocking orderly ∧ next ≠ .waking orderly)
    (joining :
      ∀ orderly,
        next = .joining orderly →
        before.worker ≠ .returned →
        before.activated = true)
    (asleep :
      next = .waiting true →
      before.prepared = false)
    (awake :
      before.worker = .awaiting true →
      before.activated = false ∧ ∀ orderly, next ≠ .joining orderly)
    (created :
      next = .creating ∨ next.owned = true →
      before.started = true)
    (attached : next.owned = true → before.loaded = true) :
    InStep { before with stage := next } := by
  rw [← at_] at stays requested
  have present := inStep.present stays.1 stays.2.1
  exact
    { inStep with
      absent := fun gone => absurd gone present
      spawned := fun alone => absurd alone stays.2.2
      requested := by
        intro _
        change before.stopRequested = next.requested
        rw [requested]
        exact inStep.requested present
      joined := fun isJoined => .inr (joined isJoined)
      waiting := fun isEarly => .inr (early isEarly)
      held := held
      claimed := by
        rintro orderly (unblocking | waking)
        · exact absurd unblocking (unclaimed orderly).1
        · exact absurd waking (unclaimed orderly).2
      woken := fun orderly waking =>
        absurd waking (unclaimed orderly).2
      joining := by
        intro orderly isJoining
        refine ⟨?_, joining orderly isJoining⟩
        intro isAsleep
        exact absurd isJoining ((awake isAsleep).2 orderly)
      mainAsleep := by
        intro isAsleep prepared
        exact absurd prepared (by
          change before.prepared ≠ true
          rw [asleep isAsleep]
          decide)
      workerAsleep := by
        intro isAsleep activated
        exact absurd activated (by
          change before.activated ≠ true
          rw [(awake isAsleep).1]
          decide)
      created := created
      attached := attached }

/-- Once `main` went past the wait, the worker is prepared. -/
theorem not_early
    (inStep : before.InStep)
    (present : before.worker ≠ .absent)
    (past : ∀ asleep, before.stage ≠ .waiting asleep) :
    before.worker.early = false := by
  cases early : before.worker.early with
  | false =>
      rfl
  | true =>
      obtain ⟨asleep, at_⟩ := inStep.waits present early
      exact absurd at_ (past asleep)

/-- A step of `main` between two stages in which it has company. -/
theorem advanceFree
    (inStep : before.InStep)
    {here next : Stage}
    (at_ : before.stage = here)
    (stays :
      here ≠ .alone ∧ here ≠ .finished ∧ next ≠ .alone ∧
        here ≠ .notifying ∧
        (∀ asleep, here ≠ .waiting asleep) ∧
        (∀ orderly, here ≠ .waking orderly) ∧
        (∀ asleep, next ≠ .waiting asleep) ∧
        ∀ orderly,
          next ≠ .unblocking orderly ∧ next ≠ .waking orderly ∧
            next ≠ .joining orderly)
    (requested : next.requested = here.requested)
    (joined : next.joined = true → before.worker = .returned)
    (held : next.held = true → here.held = true)
    (created :
      next = .creating ∨ next.owned = true →
      before.started = true)
    (attached : next.owned = true → before.loaded = true) :
    InStep { before with stage := next } := by
  obtain ⟨notAlone, notFinished, nextNotAlone, notNotifying, past,
    notWaking, nextPast, nextFree⟩ := stays
  have present := inStep.present (at_ ▸ notAlone) (at_ ▸ notFinished)
  have late := inStep.not_early present (at_ ▸ past)
  refine inStep.advance at_ ⟨notAlone, notFinished, nextNotAlone⟩
    requested joined ?_ ?_ (fun orderly =>
      ⟨(nextFree orderly).1, (nextFree orderly).2.1⟩)
    (fun orderly joining =>
      absurd joining (nextFree orderly).2.2)
    (fun asleep => absurd asleep (nextPast true)) ?_ created attached
  · intro early
    rw [late] at early
    cases early
  · intro isHeld
    exact inStep.held (by rw [at_]; exact held isHeld)
  · intro asleep
    exact ⟨inStep.asleep_unactivated (at_ ▸ notNotifying)
      (at_ ▸ notWaking) asleep, fun orderly => (nextFree orderly).2.2⟩

/-- `main` starts the worker. -/
theorem spawn
    (inStep : before.InStep)
    (at_ : before.stage = .alone) :
    InStep
      { before with
        worker := .registering
        stage := .waiting false } := by
  have gone := inStep.spawned at_
  obtain ⟨-, idle, running, -⟩ := inStep.absent gone
  exact
    { inStep with
      absent := nofun
      spawned := nofun
      requested := fun _ => running
      joined := nofun
      prepared := by
        have early := inStep.prepared
        rw [gone] at early
        exact early
      waiting := fun _ => .inr ⟨false, rfl⟩
      held := fun _ => idle
      free := nofun
      unblock := by
        have heard := inStep.unblock
        rw [gone] at heard
        exact heard
      claimed := by
        rintro orderly (unblocking | waking)
        · cases unblocking
        · cases waking
      woken := nofun
      joining := nofun
      mainAsleep := nofun
      workerAsleep := nofun
      passed := nofun
      created := by
        rintro (creating | owned)
        · cases creating
        · cases owned
      attached := nofun
      turning := nofun }

/-- No worker was started. -/
theorem fail
    (inStep : before.InStep)
    (at_ : before.stage = .alone) :
    InStep { before with stage := .finished } := by
  have gone := inStep.spawned at_
  exact
    { inStep with
      absent := fun _ => ⟨.inr rfl, (inStep.absent gone).2⟩
      spawned := nofun
      requested := fun present => absurd gone present
      joined := fun _ => .inl gone
      waiting := fun _ => .inl gone
      held := nofun
      claimed := by
        rintro orderly (unblocking | waking)
        · cases unblocking
        · cases waking
      woken := nofun
      joining := nofun
      mainAsleep := nofun
      workerAsleep := by
        intro asleep
        exact absurd (gone.symm.trans asleep) nofun
      created := by
        rintro (creating | owned)
        · cases creating
        · cases owned
      attached := nofun }

/-- The program gets an owner. -/
theorem load
    (inStep : before.InStep)
    (present : before.worker ≠ .absent) :
    InStep { before with loaded := true } :=
  { inStep with
    absent := fun gone => absurd gone present
    attached := fun _ => rfl
    released := fun _ _ => rfl
    turning := fun _ => rfl }

/-- The owner of the program is destroyed when nothing runs any more. -/
theorem unload
    (inStep : before.InStep)
    (returned : before.worker = .returned)
    (requested : before.stage.requested = true)
    (unowned : before.stage.owned = false) :
    InStep { before with loaded := false } :=
  { inStep with
    absent := fun gone => absurd (returned.symm.trans gone) nofun
    attached := by
      intro owned
      rw [show before.stage.owned = false from unowned] at owned
      cases owned
    released := by
      intro _ running
      have stopped := inStep.requested (by simp [returned])
      rw [requested] at stopped
      exact absurd running (by
        change before.stopRequested ≠ false
        rw [stopped]
        decide)
    turning := fun turning => absurd (returned.symm.trans turning) nofun }

/-- Behind the join there is no worker left. -/
theorem returned
    (inStep : before.InStep)
    (joined : before.stage.joined = true)
    (notFinished : before.stage ≠ .finished) :
    before.worker = .returned := by
  refine (inStep.joined joined).resolve_left (inStep.present ?_ notFinished)
  intro alone
  rw [alone] at joined
  cases joined

/-- The worker is let go. -/
theorem activate
    (inStep : before.InStep)
    (at_ : before.stage = .attached) :
    InStep
      { before with
        activated := true
        stage := .notifying } := by
  have present : before.worker ≠ .absent :=
    inStep.present (by simp [at_]) (by simp [at_])
  have late : before.worker.early = false :=
    inStep.not_early present (by simp [at_])
  exact
    { inStep with
      absent := fun gone => absurd gone present
      spawned := nofun
      requested := by
        intro _
        have running := inStep.requested present
        rw [at_] at running
        exact running
      joined := nofun
      waiting := by
        intro early
        rw [show before.worker.early = false from late] at early
        cases early
      held := nofun
      free := fun _ => rfl
      claimed := by
        rintro orderly (unblocking | waking)
        · cases unblocking
        · cases waking
      woken := nofun
      joining := nofun
      mainAsleep := nofun
      workerAsleep := fun _ _ => .inl rfl
      created := fun _ => inStep.created (.inr (by rw [at_]; rfl))
      attached := fun _ => inStep.attached (by rw [at_]; rfl)
      released := fun _ _ => inStep.attached (by rw [at_]; rfl) }

/-- What holds of every stage of a stop is carried over to the next one. -/
theorem stopping
    (inStep : before.InStep)
    {here next : Stage}
    (at_ : before.stage = here)
    (owned : next.owned = here.owned)
    (notCreating : next ≠ .creating) :
    (next = .creating ∨ next.owned = true → before.started = true) ∧
      (next.owned = true → before.loaded = true) := by
  constructor
  · rintro (creating | isOwned)
    · exact absurd creating notCreating
    · exact inStep.created (.inr (by rw [at_, ← owned]; exact isOwned))
  · intro isOwned
    exact inStep.attached (by rw [at_, ← owned]; exact isOwned)

/-- The stop is requested and its callback is there to be run. -/
theorem request
    (inStep : before.InStep)
    {orderly : Bool}
    (at_ : before.stage = .requesting orderly)
    (heard : before.unblock = true) :
    InStep
      { before with
        stopRequested := true
        unblock := false
        stage := .unblocking orderly } := by
  have present : before.worker ≠ .absent :=
    inStep.present (by simp [at_]) (by simp [at_])
  have late : before.worker.early = false :=
    inStep.not_early present (by simp [at_])
  have carried :=
    inStep.stopping at_
      (show (Stage.unblocking orderly).owned = _ by cases orderly <;> rfl)
      nofun
  exact
    { inStep with
      absent := fun gone => absurd gone present
      spawned := nofun
      requested := fun _ => rfl
      joined := nofun
      waiting := by
        intro early
        rw [show before.worker.early = false from late] at early
        cases early
      held := nofun
      unblock := by
        change false = (before.worker.listening && !true)
        rw [Bool.not_true, Bool.and_false]
      claimed := by
        intro _ _ returned
        have listening := inStep.unblock
        rw [heard, show before.worker = .returned from returned]
          at listening
        cases listening
      woken := nofun
      joining := nofun
      mainAsleep := nofun
      workerAsleep := by
        intro asleep activated
        have held :=
          inStep.asleep_unactivated (by simp [at_]) (by simp [at_]) asleep
        exact absurd activated (by
          change before.activated ≠ true
          rw [held]
          decide)
      created := carried.1
      attached := carried.2
      released := nofun }

/-- The stop is requested after the thread function has returned. -/
theorem requestUnheard
    (inStep : before.InStep)
    {orderly : Bool}
    (at_ : before.stage = .requesting orderly)
    (unheard : before.unblock = false) :
    InStep
      { before with
        stopRequested := true
        stage := .joining orderly } := by
  have present : before.worker ≠ .absent :=
    inStep.present (by simp [at_]) (by simp [at_])
  have late : before.worker.early = false :=
    inStep.not_early present (by simp [at_])
  have running := inStep.requested present
  have carried :=
    inStep.stopping at_
      (show (Stage.joining orderly).owned = _ by cases orderly <;> rfl)
      nofun
  -- Only a worker that is over has no callback here.
  have returned : before.worker = .returned := by
    have silent := inStep.unblock
    rw [unheard, running, at_,
      show (Stage.requesting orderly).requested = false from rfl,
      Bool.not_false, Bool.and_true] at silent
    exact WorkerPc.eq_returned late silent.symm
  exact
    { inStep with
      absent := fun gone => absurd gone present
      spawned := nofun
      requested := fun _ => rfl
      joined := nofun
      waiting := by
        intro early
        rw [show before.worker.early = false from late] at early
        cases early
      held := nofun
      unblock := by
        change before.unblock = (before.worker.listening && !true)
        rw [unheard, Bool.not_true, Bool.and_false]
      claimed := by
        rintro _ (unblocking | waking)
        · cases unblocking
        · cases waking
      woken := nofun
      joining := by
        intro _ _
        exact ⟨fun asleep => absurd (returned.symm.trans asleep) nofun,
          fun active => absurd returned active⟩
      mainAsleep := nofun
      workerAsleep := fun asleep =>
        absurd (returned.symm.trans asleep) nofun
      created := carried.1
      attached := carried.2
      released := nofun }

/-- The stop callback lets the worker go, so that it can see the stop. -/
theorem letGo
    (inStep : before.InStep)
    {orderly : Bool}
    (at_ : before.stage = .unblocking orderly) :
    InStep
      { before with
        activated := true
        stage := .waking orderly } := by
  have present : before.worker ≠ .absent :=
    inStep.present (by simp [at_]) (by simp [at_])
  have late : before.worker.early = false :=
    inStep.not_early present (by simp [at_])
  have stopped := inStep.requested present
  rw [at_] at stopped
  have carried :=
    inStep.stopping at_
      (show (Stage.waking orderly).owned = _ by cases orderly <;> rfl)
      nofun
  exact
    { inStep with
      absent := fun gone => absurd gone present
      spawned := nofun
      requested := fun _ => stopped
      joined := nofun
      waiting := by
        intro early
        rw [show before.worker.early = false from late] at early
        cases early
      held := nofun
      free := fun _ => rfl
      claimed := fun _ _ => inStep.claimed orderly (.inl at_)
      woken := fun _ _ => rfl
      joining := nofun
      mainAsleep := nofun
      workerAsleep := fun _ _ => .inr ⟨orderly, rfl⟩
      created := carried.1
      attached := carried.2
      released := by
        intro _ running
        exact absurd (stopped.symm.trans running) nofun }

/-- So does every move of `main`. -/
theorem mainMove
    (inStep : before.InStep)
    (moved : MainMove before after) :
    after.InStep := by
  cases moved with
  | stay lasting =>
      exact inStep
  | fail at_ =>
      exact inStep.fail at_
  | spawn at_ =>
      exact inStep.spawn at_
  | sleep at_ early =>
      refine inStep.advance at_ (by simp) rfl nofun
        (fun _ => ⟨true, rfl⟩)
        (fun _ => inStep.held (by rw [at_]; rfl)) (by simp) nofun
        (fun _ => early) ?_ (by rintro (creating | owned) <;> contradiction)
        nofun
      intro asleep
      exact ⟨inStep.asleep_unactivated (by simp [at_]) (by simp [at_])
        asleep, nofun⟩
  | check at_ prepared =>
      refine inStep.advance at_ (by simp) rfl nofun ?_
        (fun _ => inStep.held (by rw [at_]; rfl)) (by simp) nofun
        nofun ?_ (by rintro (creating | owned) <;> contradiction) nofun
      · intro early
        have late := inStep.prepared
        rw [prepared, early] at late
        cases late
      · intro asleep
        exact ⟨inStep.asleep_unactivated (by simp [at_]) (by simp [at_])
          asleep, nofun⟩
  | pass at_ started =>
      exact inStep.advanceFree at_ (by simp) rfl nofun (fun _ => rfl)
        (fun _ => started) nofun
  | load at_ =>
      have loaded :=
        inStep.load (inStep.present (by simp [at_]) (by simp [at_]))
      exact loaded.advanceFree at_ (by simp) rfl nofun (fun _ => rfl)
        (fun _ => inStep.created (.inl at_)) (fun _ => rfl)
  | skip at_ =>
      have owned : before.stage.owned = true := by
        rw [at_]
        rfl
      exact inStep.advanceFree at_ (by simp) rfl nofun nofun
        (fun _ => inStep.created (.inr owned))
        (fun _ => inStep.attached owned)
  | activate at_ =>
      exact inStep.activate at_
  | notify at_ =>
      have same : before.wakeWorker.stage = before.stage := by
        unfold Handshake.wakeWorker
        split <;> rfl
      have woken := inStep.wokenWorker
      have present : before.wakeWorker.worker ≠ .absent :=
        woken.present (by simp [same, at_]) (by simp [same, at_])
      have late : before.wakeWorker.worker.early = false :=
        woken.not_early present (by simp [same, at_])
      have owned : before.wakeWorker.stage.owned = true := by
        rw [same, at_]
        rfl
      refine woken.advance (same.trans at_) (by simp) rfl nofun ?_ nofun
        (by simp) nofun nofun ?_ (fun _ => woken.created (.inr owned))
        (fun _ => woken.attached owned)
      · intro early
        rw [late] at early
        cases early
      · intro asleep
        exact absurd asleep (wakeWorker_worker before)
  | abort at_ =>
      have free (stage : Stage) (at_ : before.stage = stage)
          (stays :
            stage ≠ .alone ∧ stage ≠ .finished ∧ stage ≠ .notifying ∧
              (∀ asleep, stage ≠ .waiting asleep) ∧
              ∀ orderly, stage ≠ .waking orderly)
          (running : stage.requested = false) :
          InStep { before with stage := .requesting false } :=
        inStep.advanceFree at_ (by simp [stays]) running.symm nofun nofun
          (by rintro (creating | owned) <;> contradiction) nofun
      rcases at_ with at_ | at_ | at_
      · exact free _ at_ (by simp) rfl
      · exact free _ at_ (by simp) rfl
      · exact free _ at_ (by simp) rfl
  | order at_ =>
      have owned : before.stage.owned = true := by
        rw [at_]
        rfl
      exact inStep.advanceFree at_ (by simp) rfl nofun nofun
        (fun _ => inStep.created (.inr owned))
        (fun _ => inStep.attached owned)
  | requestUnheard at_ unheard =>
      exact inStep.requestUnheard at_ unheard
  | request at_ heard =>
      exact inStep.request at_ heard
  | unblock at_ =>
      exact inStep.letGo at_
  | @wake orderly at_ =>
      have same : before.wakeWorker.stage = before.stage := by
        unfold Handshake.wakeWorker
        split <;> rfl
      have woken := inStep.wokenWorker
      have present : before.wakeWorker.worker ≠ .absent :=
        woken.present (by simp [same, at_]) (by simp [same, at_])
      have late : before.wakeWorker.worker.early = false :=
        woken.not_early present (by simp [same, at_])
      have carried :=
        woken.stopping (same.trans at_)
          (show (Stage.joining orderly).owned = _ by cases orderly <;> rfl)
          nofun
      refine woken.advance (same.trans at_) (by simp) rfl nofun ?_ nofun
        (by simp) (fun _ _ _ => woken.woken orderly (same.trans at_))
        nofun ?_ carried.1 carried.2
      · intro early
        rw [late] at early
        cases early
      · intro asleep
        exact absurd asleep (wakeWorker_worker before)
  | join at_ returned =>
      have owned : before.stage.owned = true := by
        rw [at_]
        rfl
      exact inStep.advanceFree at_ (by simp) rfl (fun _ => returned)
        nofun (fun _ => inStep.created (.inr owned))
        (fun _ => inStep.attached owned)
  | joinEarly at_ returned =>
      exact inStep.advanceFree at_ (by simp) rfl (fun _ => returned)
        nofun (by rintro (creating | owned) <;> contradiction) nofun
  | giveUp at_ =>
      have returned := inStep.returned (by rw [at_]; rfl) (by simp [at_])
      exact inStep.advanceFree at_ (by simp) rfl (fun _ => returned)
        nofun (by rintro (creating | owned) <;> contradiction) nofun
  | close at_ =>
      have returned := inStep.returned (by rw [at_]; rfl) (by simp [at_])
      have advanced :
          InStep { before with stage := .exporting } :=
        inStep.advanceFree at_ (by simp) rfl (fun _ => returned)
          nofun (by rintro (creating | owned) <;> contradiction) nofun
      exact advanced.unload returned rfl rfl
  | leave at_ =>
      have returned := inStep.returned (by rw [at_]; rfl) (by simp [at_])
      have advanced :
          InStep { before with stage := .finished } :=
        inStep.advanceFree at_ (by simp) rfl (fun _ => returned)
          nofun (by rintro (creating | owned) <;> contradiction) nofun
      exact advanced.unload returned rfl rfl
  | finish at_ =>
      have returned := inStep.returned (by rw [at_]; rfl) (by simp [at_])
      exact inStep.advanceFree at_ (by simp) rfl (fun _ => returned)
        nofun (by rintro (creating | owned) <;> contradiction) nofun

/-- The invariant is kept by every move. -/
theorem move
    (inStep : before.InStep)
    (moved : Move before after) :
    after.InStep := by
  cases moved with
  | main moved =>
      exact inStep.mainMove moved
  | worker moved =>
      exact inStep.workerMove moved
  | wakeMain =>
      exact inStep.wokenMain
  | wakeWorker =>
      exact inStep.wokenWorker
  | elsewhere =>
      exact inStep

/-- A worker that has returned stays where it is. -/
theorem stays_returned
    (inStep : before.InStep)
    (moved : Move before after)
    (returned : before.worker = .returned) :
    after.worker = .returned := by
  have woken : before.wakeWorker.worker = .returned := by
    rw [wakeWorker, if_neg (by simp [returned]), returned]
  cases moved with
  | main moved =>
      cases moved with
      | spawn at_ =>
          exact absurd ((inStep.spawned at_).symm.trans returned) nofun
      | notify _ =>
          exact woken
      | wake _ =>
          exact woken
      | _ =>
          exact returned
  | worker moved =>
      cases moved with
      | return_ at_ =>
          rfl
      | work at_ =>
          exact returned
      | late at_ | register at_ | fail at_ | prepare at_ | calibrate at_
      | publish at_ | notify at_ | giveUp at_ | await at_ | sleep at_
      | proceed at_ | begin at_ | end_ at_ | stop at_ =>
          exact absurd (at_.symm.trans returned) nofun
  | wakeMain =>
      unfold wakeMain
      split
      · exact returned
      · exact returned
  | wakeWorker =>
      exact woken
  | elsewhere =>
      exact returned

end InStep

end Handshake

end AfXdp
