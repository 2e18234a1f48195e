import AfXdp.ReceiverCode

namespace AfXdp

open Interleaving
open SequenceIndex

/-!
# Runs of the reflector

The worker of `main.cpp` beside the kernel: startup, any number of turns, and
at most one shutdown, with the kernel's steps anywhere in between.
-/

/-- What the control flow of the program may call next. -/
inductive WorkerCall where
  | turn : WorkerCall
  | shutdown (beforeDeadline : List Bool) : WorkerCall
  deriving Repr, DecidableEq

/--
What a run of the reflector depends on: its configuration, what the callback
does to packets, which packets the XDP program lets through, the contents of
fresh memory, and the outcomes of the wakeup calls.
-/
structure Scenario where
  config : Config
  rewrite : Rewrite
  admits : List UInt8 → Bool
  memory : Memory
  sendto : Nat → Option Errno
  recvfrom : Nat → Option Errno

namespace Scenario

/-- The worker's calls and the kernel's steps. -/
def machine
    (scenario : Scenario) :
    Machine World WorkerCall KernelStep where
  code
    | .turn =>
        Main.workerTurn scenario.config scenario.rewrite
    | .shutdown beforeDeadline =>
        Main.shutdown scenario.config beforeDeadline
  ready _ world :=
    world.summary.isNone
  env step world :=
    step.perform scenario.config scenario.admits world

/-- Everything is constructed and `main` is about to fill the Fill ring. -/
def start (scenario : Scenario) : Configuration World where
  pending :=
    Main.startup scenario.config
  state :=
    World.initial scenario.config scenario.memory
      scenario.sendto scenario.recvfrom

/-- The run with these events is possible and ends in `final`. -/
def Reaches
    (scenario : Scenario)
    (events : List (Event WorkerCall KernelStep))
    (final : Configuration World) : Prop :=
  scenario.machine.run events scenario.start = some final

/-- What the worker is judged against. -/
def setting (scenario : Scenario) (floor : Floor) : Setting World Own :=
  workerSetting scenario.config scenario.rewrite scenario.admits
    false floor

/-- No assumption about how far the kernel is. -/
def ground : Floor where
  completed := 0
  filled := 0

/-- Nothing is required of the indexes at the start. -/
theorem ground_reached (world : World) : ground.Reached world where
  completed := Nat.zero_le _
  filled := Nat.zero_le _

end Scenario

/-! ## The initial state -/

namespace World

variable (config : Config)
variable (memory : Memory)
variable (sendto recvfrom : Nat → Option Errno)

/-- The invariant holds at the start. -/
theorem initial_core :
    Core config (World.initial config memory sendto recvfrom) where
  rx :=
    Channel.create_consuming config.rxOrder.isLt _
  completion :=
    Channel.create_consuming config.completionOrder.isLt _
  tx :=
    Channel.create_producing config.txOrder.isLt _
  fill :=
    Channel.create_producing config.fillOrder.isLt _
  rxDone :=
    Nat.le_refl 0
  completionDone :=
    Nat.le_refl 0
  fillWindow :=
    .nil (Nat.le_refl 0) (Nat.zero_le _)
  txWindow :=
    { published := rfl
      used := rfl
      staged := .nil (Nat.le_refl 0) (Nat.zero_le _)
      start := nofun
      fits := nofun
      closed := fun _ => rfl }
  partition := by
    intro frame
    simp [World.roster, World.initial, World.rxPending,
      World.txPending, World.completionPending, Channel.pending,
      Channel.create, FrameAllocator.create, Config.frames]
  outstanding :=
    rfl
  delivered :=
    rfl
  handed :=
    rfl
  transmitted :=
    rfl
  inside := by
    intro packet member
    simp [World.rxPackets, World.txPending, World.initial] at member
  intact := by
    intro packet member
    simp [World.rxPackets, World.txPending, World.initial] at member
  allocatorCapacity :=
    rfl
  asserts :=
    decide_eq_true config.framesFit

/-- The start is between calls. -/
theorem initial_between :
    Between (World.initial config memory sendto recvfrom).own where
  rxDone := rfl
  completionDone := rfl
  fillWindow := rfl
  hand := rfl
  current := rfl
  txUsed := rfl
  reserved := rfl
  sendtoNoted := rfl
  recvfromNoted := rfl
  counted := rfl

end World

namespace Scenario

variable {scenario : Scenario}
variable {events : List (Event WorkerCall KernelStep)}
variable {final : Configuration World}

/-! ## Soundness of runs -/

/-- Whatever the worker may call keeps to its specification. -/
theorem calls_guaranteed
    (issued : WorkerCall)
    (world : World)
    (invariant : (scenario.setting ground).invariant world)
    (between : Between world.own) :
    Guaranteed (scenario.setting ground)
      (fun _ => .own (scenario.setting ground) Between)
      (scenario.machine.code issued) world := by
  cases issued with
  | turn =>
      exact workerTurn_meets between (Nat.zero_le _) world
        invariant rfl
  | shutdown beforeDeadline =>
      exact shutdown_meets between (Nat.zero_le _) world
        invariant rfl

/-- The startup is sound. -/
theorem start_sound :
    scenario.machine.Sound (scenario.setting ground)
      (.own (scenario.setting ground) Between) scenario.start where
  invariant :=
    ⟨World.initial_core _ _ _ _, ground_reached _⟩
  promise :=
    startup_meets (World.initial_between _ _ _ _) rfl rfl _
      ⟨World.initial_core _ _ _ _, ground_reached _⟩ rfl

/-- So is every state of a run. -/
theorem reaches_sound
    (reaches : scenario.Reaches events final) :
    scenario.machine.Sound (scenario.setting ground)
      (.own (scenario.setting ground) Between) final :=
  Machine.run_sound (fun stepped => stepped)
    (fun issued world _ invariant between _ =>
      calls_guaranteed issued world invariant between)
    reaches start_sound

/-- The invariant of the packet path holds in every reachable state. -/
theorem reaches_core
    (reaches : scenario.Reaches events final) :
    Core scenario.config final.state :=
  (reaches_sound reaches).invariant.1

/-- Between two calls the worker is idle and has counted its packets. -/
theorem reaches_between
    (reaches : scenario.Reaches events final)
    (boundary : final.AtBoundary) :
    Between final.state.own :=
  (reaches_sound reaches).between_holds boundary

/--
An invariant of runs: it is enough to look at one step of the kernel or of the
worker from a state of the packet path's invariant.
-/
theorem reaches_invariant
    {property : World → Prop}
    (initially : property scenario.start.state)
    (kernel :
      ∀ {step before after},
        Core scenario.config before →
        KernelStep.perform scenario.config scenario.admits before
          step = some after →
        property before →
        property after)
    (worker :
      ∀ {before after},
        Core scenario.config before →
        WorkerStep scenario.config scenario.rewrite false
          before after →
        property before →
        property after)
    (reaches : scenario.Reaches events final) :
    property final.state := by
  refine Machine.run_invariant (fun stepped => stepped)
    (fun issued world _ invariant between _ =>
      calls_guaranteed issued world invariant between)
    property ?_ reaches start_sound initially
  rintro event before after _ moved ⟨core, _⟩ held
  cases moved with
  | interference performed =>
      exact kernel core performed held
  | issue =>
      exact held
  | worked step =>
      exact worker core step held

/-! ## A small instance -/

/-- Two frames of 64 bytes, rings of two entries and no failing wakeup. -/
def sample : Scenario where
  config :=
    { capacity := 2
      numFrames := 2
      frameOrder := 6
      rxOrder := 1
      txOrder := 1
      fillOrder := 1
      completionOrder := 1
      batchSize := 1
      fillRefillThreshold := 1
      busyPoll := true
      framesFit := by decide }
  rewrite := fun _ frame => (true, frame)
  admits := fun _ => true
  memory := fun _ => 0
  sendto := fun _ => none
  recvfrom := fun _ => none

/-- An IPv4 packet with an empty UDP datagram from 10.0.0.1 to 10.0.0.2. -/
def samplePacket : List UInt8 :=
  [2, 0, 0, 0, 0, 1, 2, 0, 0, 0, 0, 2, 8, 0,
    0x45, 0, 0, 28, 0, 0, 0x40, 0, 64, 17, 0, 0, 10, 0, 0, 1, 10, 0, 0, 2,
    0x12, 0x34, 0x56, 0x78, 0, 8, 0, 0]

/-- Startup, one packet in, one turn of the worker, the packet out. -/
def sampleRun : List (Event WorkerCall KernelStep) :=
  List.replicate 7 .work ++
    [.env .takeFill,
      .env (.dma 64 0 samplePacket),
      .env (.deliver { addr := 64, len := 42, options := 0 }),
      .call .turn] ++
    List.replicate 23 .work ++
    [.env .takeTx]

/-- The same run up to the final report. -/
def sampleShutdown : List (Event WorkerCall KernelStep) :=
  sampleRun ++
    [.env (.complete { addr := 64, len := 42, options := 0 }),
      .call (.shutdown [])] ++
    List.replicate 10 .work

end Scenario

end AfXdp
