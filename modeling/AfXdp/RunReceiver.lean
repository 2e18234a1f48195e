import AfXdp.ReceiverRuns
import AfXdp.RunMetadata
import AfXdp.XdpLoader

namespace AfXdp

open Interleaving
open TextStream

/-!
# `run_receiver`

The two threads of `main.cpp` from the moment the socket exists.  `main` fills
the Fill ring, starts the worker, waits until it is prepared, attaches the XDP
program, lets the worker go, watches it once a second, and shuts everything
down again.  The worker prepares its thread, waits, and polls until it is
stopped.  They meet in two flags that are waited on, a stop token with its
callback, and the signal flag.

Every access to one of these is a step of its own.  Anything that prints may
throw; the destructors that run then are those of the source, in its order.
-/

/-! ## The thread setup of `Receiver` -/

/-- `EINVAL`. -/
def Errno.einval : Errno :=
  ⟨22, by decide⟩

/-- `ENODATA`. -/
def Errno.enodata : Errno :=
  ⟨61, by decide⟩

/-- `ECANCELED`. -/
def Errno.ecanceled : Errno :=
  ⟨125, by decide⟩

namespace Receiver

/-- `CPU_SETSIZE`. -/
def cpuSetSize : Int :=
  1024

/-- `pin_to_cpu`, with the outcome of `pthread_setaffinity_np`. -/
def pinToCpu (cpu : Int) (affinity : Option Errno) : Except Errno Unit :=
  if cpuSetSize ≤ cpu then
    .error .einval
  else
    match affinity with
    | some error =>
        .error error
    | none =>
        .ok ()

/-- `set_realtime`, with the outcome of `sched_setscheduler`. -/
def setRealtime : Option Errno → Except Errno Unit
  | some error =>
      .error error
  | none =>
      .ok ()

/-- `prepare_thread`. -/
def prepareThread
    (cpuAffinity : Int)
    (realtimeSched : Bool)
    (affinity scheduler : Option Errno) :
    Except Errno Unit := do
  if 0 ≤ cpuAffinity then
    pinToCpu cpuAffinity affinity
  if realtimeSched then
    setRealtime scheduler

end Receiver

/-! ## What a run records -/

/-- Keep a result of `kernel_stats`, and the first error for good. -/
def RunRecord.noteKernelStats
    (run : RunRecord)
    (result : Except Errno KernelStats) :
    RunRecord :=
  match result with
  | .ok _ =>
      { run with kernelStats := result }
  | .error error =>
      { run with
        kernelStats := result
        firstKernelStatsErrno :=
          if run.firstKernelStatsErrno = 0 then
            error.code
          else
            run.firstKernelStatsErrno }

/-! ## Program counters -/

/-- How `run_receiver` is left. -/
inductive Exit where
  | status (code : Nat) : Exit
  | exception : Exit
  | terminated : Exit
  deriving Repr, DecidableEq

/--
Where `main` is.  An `after` that is some exit is the destructor of the thread
on an early way out; one that is none is the orderly shutdown.
-/
inductive MainPc where
  | filling : MainPc
  | spawning : MainPc
  | awaitingPrepared (asleep : Bool) : MainPc
  | checkingStop : MainPc
  | checkingStartup : MainPc
  | creatingLoader : MainPc
  | choosing : MainPc
  | activating : MainPc
  | notifying : MainPc
  | announcing : MainPc
  | looping : MainPc
  | sleeping : MainPc
  | warming (now : Int) : MainPc
  | opening (now : Int) : MainPc
  | reporting : MainPc
  | judging (rejected : UInt64) : MainPc
  | stopping : MainPc
  | cutting : MainPc
  | requesting (after : Option Exit) : MainPc
  | unblocking (after : Option Exit) : MainPc
  | waking (after : Option Exit) : MainPc
  | joining (after : Option Exit) : MainPc
  | draining : MainPc
  | detaching (remaining : UInt32) : MainPc
  | summarizing (remaining : UInt32) : MainPc
  | leaving (exit : Option Exit) : MainPc
  | sorting : MainPc
  | exporting : MainPc
  | describing : MainPc
  | finished (exit : Exit) : MainPc
  deriving Repr, DecidableEq

/-- Where the worker's thread function is. -/
inductive WorkerPc where
  | absent : WorkerPc
  | registering : WorkerPc
  | preparing : WorkerPc
  | calibrating : WorkerPc
  | publishing : WorkerPc
  | notifying : WorkerPc
  | deciding : WorkerPc
  | awaiting (asleep : Bool) : WorkerPc
  | polling : WorkerPc
  | turning : WorkerPc
  | returning : WorkerPc
  | returned : WorkerPc
  deriving Repr, DecidableEq

/-- The code on the packet objects that is in progress, of either thread. -/
inductive Code where
  | idle : Code
  | startup (rest : Task Unit) : Code
  | turn (rest : Task Unit) : Code
  | drain (rest : Task UInt32) : Code

/-! ## The state of both threads -/

/-- When a callback started and ended, and whether the window was open then. -/
structure Span where
  began : UInt64
  ended : UInt64
  windowOpen : Bool
  deriving Repr, DecidableEq

/--
Everything that is fixed: the reflector, the command line, what was found out
while the socket was made, the outcomes of the loader's calls, and how numbers
with a fraction are printed.
-/
structure Deployment where
  scenario : Scenario
  args : Args
  workerCpu : Int
  xskFd : Int
  zeroCopy : Bool
  hugetlb : Bool
  outcomes : Nat → Option Errno
  indexes : Nat → String → InterfaceIndex
  host : Host
  /-- What `%.0f` prints. -/
  fixed : Float → Text

/--
The shared state and the locals of both threads.  `timed` is the `t0` of a
callback that is being timed, and `csv` and `metadata` are the two files.  The
start of the callback in progress, all callbacks so far, and what the sidecar
file was written from are auxiliary.
-/
structure Process where
  world : World
  code : Code
  session : Session
  samples : Samples
  timed : Option UInt64
  opened : Option (UInt64 × Bool)
  spans : List Span
  gStop : Bool
  prepared : Bool
  activated : Bool
  stopRequested : Bool
  unblock : Bool
  startup : Except Errno TscCalibration
  main : MainPc
  worker : WorkerPc
  loader : Option XdpLoader
  calibration : TscCalibration
  activatedAt : Int
  lastRejected : UInt64
  run : RunRecord
  exitCode : Nat
  csv : Text
  metadata : Text
  described : Option Sidecar

/-- What the outside answers to a step of `main`. -/
structure MainAnswer where
  throws : Bool
  now : Int
  statistics : StatisticsReply
  beforeDeadline : List Bool
  refusals : Nat → Option (Refusal StdioFailure)

/-- What the outside answers to a step of the worker. -/
structure WorkerAnswer where
  affinity : Option Errno
  scheduler : Option Errno
  calibration : Except Errno TscCalibration
  policy : Int
  priority : Option Int
  ticks : UInt64

/-- What can happen next: a step of a thread, or something from outside. -/
inductive ProcessEvent where
  | main (answer : MainAnswer) : ProcessEvent
  | worker (answer : WorkerAnswer) : ProcessEvent
  | signal : ProcessEvent
  | kernel (step : KernelStep) : ProcessEvent
  | wakeMain : ProcessEvent
  | wakeWorker : ProcessEvent

namespace Process

/-! ## Leaving early -/

/-- Destructors run from the thread on: it is stopped and joined first. -/
def unwind (exit : Exit) (process : Process) : Process :=
  { process with main := .requesting (some exit) }

/-- Destructors run and the thread was joined before. -/
def unwindJoined (exit : Exit) (process : Process) : Process :=
  { process with main := .leaving (some exit) }

/-- An exit of the source that is lost if the message before it throws. -/
def exitAfterMessage (throws : Bool) (exit : Exit) : Exit :=
  if throws then .exception else exit

/-! ## Waiting and waking -/

/-- `activated.notify_one()`. -/
def notifyActivated (process : Process) : Process :=
  if process.worker = .awaiting true then
    { process with worker := .awaiting false }
  else
    process

/-- `prepared.notify_one()`. -/
def notifyPrepared (process : Process) : Process :=
  if process.main = .awaitingPrepared true then
    { process with main := .awaitingPrepared false }
  else
    process

/-! ## The timer in the callback -/

/--
The parts of the lambda `strategy` that are about time.  It asks whether to
take a time stamp before it counts the callback, and records the difference
after it has counted the outcome.
-/
def clockCallback
    (ticks : UInt64)
    (before after : World)
    (process : Process) :
    Process :=
  if after.bench.callbacks ≠ before.bench.callbacks then
    { process with
      timed :=
        if process.samples.recording then some ticks else none
      opened := some (ticks, process.samples.enabled) }
  else if after.aux.verdicts.length ≠ before.aux.verdicts.length then
    { process with
      samples :=
        match process.timed with
        | some t0 =>
            process.samples.record (ticks - t0)
        | none =>
            process.samples
      timed := none
      opened := none
      spans :=
        match process.opened with
        | some (began, windowOpen) =>
            process.spans ++
              [{ began := began, ended := ticks, windowOpen := windowOpen }]
        | none =>
            process.spans }
  else
    process

end Process

namespace Deployment

variable (deployment : Deployment)

/-! ## The worker -/

/-- One step of the worker's thread function. -/
def workerStep
    (answer : WorkerAnswer)
    (process : Process) :
    Option Process :=
  match process.worker with
  | .absent =>
      none
  | .registering =>
      -- A callback that comes too late is run by the constructor.
      if process.stopRequested then
        some
          { process with
            activated := true
            worker := .preparing }
      else
        some
          { process with
            unblock := true
            worker := .preparing }
  | .preparing =>
      match Receiver.prepareThread deployment.workerCpu
          deployment.args.realtime answer.affinity answer.scheduler with
      | .error error =>
          some
            { process with
              startup := .error error
              worker := .publishing }
      | .ok () =>
          some { process with worker := .calibrating }
  | .calibrating =>
      some
        { process with
          startup := answer.calibration
          run :=
            { process.run with
              schedulerPolicy := answer.policy
              schedulerPriority :=
                answer.priority.getD process.run.schedulerPriority }
          worker := .publishing }
  | .publishing =>
      some
        { process with
          prepared := true
          worker := .notifying }
  | .notifying =>
      some { process.notifyPrepared with worker := .deciding }
  | .deciding =>
      match process.startup with
      | .error _ =>
          some { process with worker := .returning }
      | .ok _ =>
          some { process with worker := .awaiting false }
  | .awaiting true =>
      none
  | .awaiting false =>
      if process.activated then
        some { process with worker := .polling }
      else
        some { process with worker := .awaiting true }
  | .polling =>
      if process.stopRequested then
        some { process with worker := .returning }
      else
        some
          { process with
            code :=
              .turn
                (Main.workerTurn deployment.scenario.config
                  deployment.scenario.rewrite)
            worker := .turning }
  | .turning =>
      match process.code with
      | .turn (.step effect rest) =>
          some
            { process.clockCallback answer.ticks process.world
                (effect process.world) with
              world := effect process.world
              code := .turn (rest process.world) }
      | .turn (.done _) =>
          some
            { process with
              code := .idle
              worker := .polling }
      | _ =>
          none
  | .returning =>
      -- The destructor of the callback waits while `main` is running it.
      match process.main with
      | .unblocking _ =>
          none
      | .waking _ =>
          none
      | _ =>
          some
            { process with
              unblock := false
              worker := .returned }
  | .returned =>
      none

/-! ## The control thread -/

/-- The part of a control round after the counters were read. -/
def judge
    (rejected : UInt64)
    (answer : MainAnswer)
    (process : Process) :
    Process :=
  let result := Xsk.kernelStats answer.statistics
  let noted :=
    { process with
      run := process.run.noteKernelStats result
      exitCode := if result.isOk then process.exitCode else 1 }
  if rejected - process.lastRejected > Main.txRejectionLimit then
    if answer.throws then
      noted.unwind .exception
    else
      { noted with
        run :=
          { noted.run with stopReason := .txRejectionAnomaly }
        exitCode := 1
        gStop := true
        lastRejected := rejected
        main := .looping }
  else
    { noted with
      lastRejected := rejected
      main := .looping }

/-- `stop_redirect` and its message. -/
def cutRedirect
    (loader : XdpLoader)
    (answer : MainAnswer)
    (process : Process) :
    Process :=
  let ran := loader.stopRedirect process.session
  let cut :=
    { process with
      session := ran.2
      loader := some ran.1.2 }
  match ran.1.1 with
  | .ok () =>
      { cut with main := .requesting none }
  | .error error =>
      if answer.throws then
        cut.unwind .exception
      else
        { cut with
          exitCode := 1
          run := { cut.run with stopRedirectErrno := error.code }
          main := .requesting none }

/-- `detach` and its message. -/
def detachProgram
    (loader : XdpLoader)
    (remaining : UInt32)
    (answer : MainAnswer)
    (process : Process) :
    Process :=
  let ran := loader.detach process.session
  let detached :=
    { process with
      session := ran.2
      loader := some ran.1.2 }
  match ran.1.1 with
  | .ok () =>
      { detached with main := .summarizing remaining }
  | .error _ =>
      detached.unwindJoined
        (Process.exitAfterMessage answer.throws (.status 1))

/-- What the sidecar file is written from. -/
def sidecar (process : Process) : Sidecar where
  host := deployment.host
  args := deployment.args
  run := process.run
  summary := process.world.summary.getD .zero
  tsc := process.calibration
  exitCode := process.exitCode

/-- A file that does not exist yet. -/
def newFile (answer : MainAnswer) : Stream StdioFailure where
  refusals := answer.refusals
  calls := 0
  text := []

/-- `dump_csv` and its message. -/
def exportSamples (answer : MainAnswer) (process : Process) : Process :=
  let counted :=
    { process with
      run :=
        { process.run with samplesRecorded := process.samples.count } }
  let ran :=
    (process.samples.dumpCsv deployment.fixed
      process.calibration.nsPerTick).run (newFile answer)
  match ran.1 with
  | .ok () =>
      { counted with
        csv := ran.2.text
        run := { counted.run with csvExported := true }
        main := .describing }
  | .error _ =>
      { counted with
        csv := ran.2.text
        exitCode := 1
        main := if answer.throws then .finished .exception else .describing }

/-- `dump_run_metadata`, its message, and the last words. -/
def describeRun (answer : MainAnswer) (process : Process) : Process :=
  let sidecar := deployment.sidecar process
  let ran := (Main.dumpRunMetadata sidecar).run (newFile answer)
  match ran.1 with
  | .ok () =>
      { process with
        metadata := ran.2.text
        described := some sidecar
        main :=
          .finished
            (Process.exitAfterMessage answer.throws
              (.status process.exitCode)) }
  | .error _ =>
      { process with
        metadata := ran.2.text
        exitCode := 1
        main :=
          .finished (Process.exitAfterMessage answer.throws (.status 1)) }

/-- One step of `run_receiver`. -/
def mainStep
    (answer : MainAnswer)
    (process : Process) :
    Option Process :=
  match process.main with
  | .filling =>
      match process.code with
      | .startup (.step effect rest) =>
          some
            { process with
              world := effect process.world
              code := .startup (rest process.world) }
      | .startup (.done _) =>
          some
            { process with
              code := .idle
              main := .spawning }
      | _ =>
          none
  | .spawning =>
      if answer.throws then
        some { process with main := .finished .exception }
      else
        some
          { process with
            worker := .registering
            main := .awaitingPrepared false }
  | .awaitingPrepared true =>
      none
  | .awaitingPrepared false =>
      if process.prepared then
        some { process with main := .checkingStop }
      else
        some { process with main := .awaitingPrepared true }
  | .checkingStop =>
      if process.gStop then
        some (process.unwind (.status 0))
      else
        some { process with main := .checkingStartup }
  | .checkingStartup =>
      match process.startup with
      | .error _ =>
          some
            (process.unwind
              (Process.exitAfterMessage answer.throws (.status 1)))
      | .ok calibration =>
          some
            { process with
              calibration := calibration
              main := .creatingLoader }
  | .creatingLoader =>
      let created :=
        XdpLoader.create "xdp_prog.bpf.o" deployment.args.iface
          deployment.args.queue deployment.xskFd deployment.args.filterIp
          process.session
      match created.1 with
      | .error _ =>
          some
            ({ process with session := created.2 }.unwind
              (Process.exitAfterMessage answer.throws (.status 1)))
      | .ok loader =>
          some
            { process with
              session := created.2
              loader := some loader
              run := { process.run with nativeXdp := loader.nativeMode }
              main := .choosing }
  | .choosing =>
      some
        { process with
          activatedAt := answer.now
          main := if process.gStop then .looping else .activating }
  | .activating =>
      some
        { process with
          activated := true
          main := .notifying }
  | .notifying =>
      some { process.notifyActivated with main := .announcing }
  | .announcing =>
      if answer.throws then
        some (process.unwind .exception)
      else
        some { process with main := .looping }
  | .looping =>
      some
        { process with
          main := if process.gStop then .stopping else .sleeping }
  | .sleeping =>
      some { process with main := .warming answer.now }
  | .warming now =>
      if !process.run.samplingStarted &&
          decide (Main.sampleWarmup ≤ now - process.activatedAt) &&
          !process.gStop then
        some { process with main := .opening now }
      else
        some { process with main := .reporting }
  | .opening now =>
      some
        { process with
          samples := process.samples.start
          run :=
            { process.run with
              samplingStarted := true
              samplingStartAfter := now - process.activatedAt }
          main := .reporting }
  | .reporting =>
      if answer.throws then
        some (process.unwind .exception)
      else
        some
          { process with
            main :=
              .judging process.world.transmitter.framesRejected }
  | .judging rejected =>
      some (judge rejected answer process)
  | .stopping =>
      if answer.throws then
        some (process.unwind .exception)
      else
        some { process with main := .cutting }
  | .cutting =>
      process.loader.map fun loader => cutRedirect loader answer process
  | .requesting after =>
      some
        { process with
          stopRequested := true
          unblock := false
          main :=
            if process.unblock then .unblocking after else .joining after }
  | .unblocking after =>
      some
        { process with
          activated := true
          main := .waking after }
  | .waking after =>
      some { process.notifyActivated with main := .joining after }
  | .joining after =>
      if process.worker = .returned then
        match after with
        | none =>
            some
              { process with
                run :=
                  { process.run with
                    activeDuration := answer.now - process.activatedAt }
                code :=
                  .drain
                    (Transmitter.drainUntil deployment.scenario.config
                      answer.beforeDeadline)
                main := .draining }
        | some exit =>
            some { process with main := .leaving (some exit) }
      else
        none
  | .draining =>
      match process.code with
      | .drain (.step effect rest) =>
          some
            { process with
              world := effect process.world
              code := .drain (rest process.world) }
      | .drain (.done remaining) =>
          let noted :=
            { process with
              run := { process.run with txAbandoned := remaining } }
          if remaining = 0 then
            some { noted with main := .detaching remaining }
          else if answer.throws then
            some (noted.unwindJoined .exception)
          else
            some
              { noted with
                exitCode := 1
                main := .detaching remaining }
      | _ =>
          none
  | .detaching remaining =>
      process.loader.map fun loader =>
        detachProgram loader remaining answer process
  | .summarizing remaining =>
      let result := Xsk.kernelStats answer.statistics
      some
        { process with
          world := Main.summarize remaining process.world
          code := .idle
          run := process.run.noteKernelStats result
          exitCode := if result.isOk then process.exitCode else 1
          main := .leaving none }
  | .leaving exit =>
      let session :=
        match process.loader with
        | none =>
            process.session
        | some loader =>
            (loader.release process.session).2
      some
        { process with
          session := session
          loader := none
          main :=
            match exit with
            | none =>
                .sorting
            | some exit =>
                .finished exit }
  | .sorting =>
      -- `report` must not throw: a message that does ends the program.
      if answer.throws then
        some { process with main := .finished .terminated }
      else
        some
          { process with
            samples :=
              (process.samples.report process.calibration.nsPerTick).2
            main := .exporting }
  | .exporting =>
      some (deployment.exportSamples answer process)
  | .describing =>
      some (deployment.describeRun answer process)
  | .finished _ =>
      none

/-! ## Runs -/

/-- One event, if it is possible now. -/
def step : ProcessEvent → Process → Option Process
  | .main answer, process =>
      deployment.mainStep answer process
  | .worker answer, process =>
      deployment.workerStep answer process
  | .signal, process =>
      some { process with gStop := true }
  | .kernel kernelStep, process =>
      (kernelStep.perform deployment.scenario.config
        deployment.scenario.admits process.world).map fun world =>
          { process with world := world }
  | .wakeMain, process =>
      some process.notifyPrepared
  | .wakeWorker, process =>
      some process.notifyActivated

/-- The socket exists and the Fill ring is about to be filled. -/
def start : Process where
  world := deployment.scenario.start.state
  code := .startup deployment.scenario.start.pending
  session :=
    { outcomes := deployment.outcomes
      indexes := deployment.indexes
      calls := 0
      opened := 0
      trace := [] }
  samples := .create Main.sampleCapacity
  timed := none
  opened := none
  spans := []
  gStop := false
  prepared := false
  activated := false
  stopRequested := false
  unblock := false
  startup := .error .ecanceled
  main := .filling
  worker := .absent
  loader := none
  calibration :=
    { nsPerTick := 0
      pairMinTicks := 0
      pairMedianTicks := 0 }
  activatedAt := 0
  lastRejected := 0
  run :=
    { workerCpu := deployment.workerCpu
      schedulerPolicy := -1
      schedulerPriority := -1
      zeroCopy := deployment.zeroCopy
      nativeXdp := false
      hugetlb := deployment.hugetlb
      samplingStarted := false
      csvExported := false
      samplingStartAfter := 0
      activeDuration := 0
      samplesRecorded := 0
      txAbandoned := 0
      firstKernelStatsErrno := 0
      stopRedirectErrno := 0
      stopReason := .signal
      kernelStats := .error .enodata }
  exitCode := 0
  csv := []
  metadata := []
  described := none

/-- Perform a list of events. -/
def run : List ProcessEvent → Process → Option Process
  | [], process =>
      some process
  | event :: later, process =>
      (deployment.step event process).bind (run later)

/-- Reachable in any order of steps and with any answers. -/
inductive Reachable : Process → Prop where
  | start : Reachable deployment.start
  | step
      {event : ProcessEvent}
      {before after : Process}
      (reachable : Reachable before)
      (stepped : deployment.step event before = some after) :
      Reachable after

/-- A run leads from reachable states to reachable ones. -/
theorem Reachable.run
    {deployment : Deployment}
    {events : List ProcessEvent}
    {before after : Process}
    (reachable : deployment.Reachable before)
    (ran : deployment.run events before = some after) :
    deployment.Reachable after := by
  induction events generalizing before with
  | nil =>
      cases ran
      exact reachable
  | cons event later inductionHypothesis =>
      simp only [Deployment.run, Option.bind_eq_some_iff] at ran
      obtain ⟨middle, stepped, rest⟩ := ran
      exact inductionHypothesis (.step reachable stepped) rest

/-! ## A small instance -/

/-- Two frames, no pinning, and outside calls that all succeed. -/
def sample : Deployment where
  scenario := .sample
  args := {}
  workerCpu := -1
  xskFd := 7
  zeroCopy := true
  hugetlb := true
  outcomes _ := none
  indexes _ _ := ⟨1, by decide⟩
  host := Main.sampleSidecar.host
  fixed _ := "0".toList

/-- `main` is answered at the given time, and nothing throws. -/
def sampleAnswer (now : Int) : MainAnswer where
  throws := false
  now := now
  statistics := .ok ⟨List.replicate 48 0, by decide⟩
  beforeDeadline := []
  refusals _ := none

/-- A step of `main` at that time, with nothing refused. -/
def sampleMain (now : Int) : ProcessEvent :=
  .main (sampleAnswer now)

/-- The worker is answered with the given ticks, and nothing fails. -/
def sampleWorker (ticks : UInt64) : ProcessEvent :=
  .worker
    { affinity := none
      scheduler := none
      calibration := .ok Main.sampleSidecar.tsc
      policy := 0
      priority := some 0
      ticks := ticks }

/-- Startup, the handshake, and the first step of the first turn. -/
def sampleActivation : List ProcessEvent :=
  List.replicate 9 (sampleMain 0) ++
    List.replicate 6 (sampleWorker 0) ++
    List.replicate 10 (sampleMain 0) ++
    List.replicate 4 (sampleWorker 0)

end Deployment

end AfXdp
