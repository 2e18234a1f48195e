import AfXdp.RingChannel
import AfXdp.Umem

namespace AfXdp

open SequenceIndex

/-!
# The state of one socket, its worker and the kernel behind it

The fields of `Xsk`, `FrameAllocator`, `Transmitter`, `Receiver` and the
benchmark counters of `main.cpp` that the packet path reads or writes, the
UMEM bytes, and what the kernel holds.  `Aux` and the histories inside
`Channel` and `Kernel` are auxiliary: the program never reads them.
-/

/-- A failed system call's `errno`, which is never zero. -/
structure Errno where
  code : Nat
  positive : 0 < code
  deriving Repr, DecidableEq

namespace Errno

/-- `EINTR`. -/
def eintr : Errno :=
  ⟨4, by decide⟩

/-- `EAGAIN`. -/
def eagain : Errno :=
  ⟨11, by decide⟩

/-- `EBUSY`. -/
def ebusy : Errno :=
  ⟨16, by decide⟩

/-- `ENOBUFS`. -/
def enobufs : Errno :=
  ⟨105, by decide⟩

end Errno

/-- `is_expected_wakeup_retry`. -/
def isExpectedWakeupRetry (error : Errno) : Bool :=
  error = .eagain || error = .eintr || error = .ebusy

/--
Everything that is fixed before the worker starts.  Sizes that the code wants
to be powers of two are given by their exponents.
-/
structure Config where
  capacity : Nat
  numFrames : UInt32
  frameOrder : Fin 32
  rxOrder : Fin 32
  txOrder : Fin 32
  fillOrder : Fin 32
  completionOrder : Fin 32
  batchSize : UInt32
  fillRefillThreshold : UInt32
  busyPoll : Bool
  framesFit : numFrames.toNat ≤ capacity

namespace Config

/-- The size of a frame in bytes. -/
def frameSize (config : Config) : UInt32 :=
  stored (2 ^ config.frameOrder.val)

/-- The frames that the allocator's constructor puts into circulation. -/
def frames (config : Config) : List UInt64 :=
  FrameAllocator.frameOffsets config.numFrames config.frameSize

/-- `fill_threshold_`, from the configured value or the ring size. -/
def fillThreshold (config : Config) : UInt32 :=
  if config.fillRefillThreshold > 0 then
    config.fillRefillThreshold
  else
    stored (2 ^ config.fillOrder.val) / 2

end Config

/-- The mutable fields of `class Transmitter`. -/
structure Transmitter where
  txStart : UInt32
  txAvail : UInt32
  txUsed : UInt32
  reserved : Bool
  outstanding : UInt32
  framesSubmitted : UInt64
  framesReclaimed : UInt64
  framesRejected : UInt64
  retryableWakeupErrors : UInt64
  firstWakeupError : Nat
  deriving Repr, DecidableEq

/-- The mutable fields of `class Receiver`. -/
structure Receiver where
  packetsReceived : UInt64
  fillRefills : UInt64
  firstWakeupError : Nat
  deriving Repr, DecidableEq

/-- `struct BenchStats` of `run_receiver`. -/
structure BenchStats where
  callbacks : UInt64
  bytes : UInt64
  staged : UInt64
  unsupported : UInt64
  deriving Repr, DecidableEq

/-- The counters of `struct RunSummary`. -/
structure RunSummary where
  rxProcessed : UInt64
  callbacks : UInt64
  callbackBytes : UInt64
  unsupported : UInt64
  txStaged : UInt64
  txSubmitted : UInt64
  txReclaimed : UInt64
  txRejected : UInt64
  fillRefillBatches : UInt64
  txRetryableWakeupErrors : UInt64
  txAbandoned : UInt32
  rxFirstWakeupErrno : Nat
  txFirstWakeupErrno : Nat
  deriving Repr, DecidableEq

/--
The results of the wakeup system calls: the outcome of every call, by its
number, and how many calls were made so far.
-/
structure Wakeups where
  sendto : Nat → Option Errno
  recvfrom : Nat → Option Errno
  sendtoCalls : Nat
  recvfromCalls : Nat

/-- A descriptor with the bytes it named at some moment. -/
abbrev Packet :=
  XdpDesc × List UInt8

/--
What the kernel holds, and two histories: each descriptor it published on RX
with the bytes at that moment, and each descriptor it consumed from TX with
the bytes at that moment.
-/
structure Kernel where
  rxHeld : List UInt64
  txHeld : List XdpDesc
  delivered : List Packet
  transmitted : List Packet
  deriving Repr, DecidableEq

/-- How far the callback is with the packet it was handed. -/
inductive Progress where
  | taken : Progress
  | opened : Progress
  | decided (accepted : Bool) (output : List UInt8) : Progress
  | offered (output : List UInt8) (sent : Bool) : Progress
  deriving Repr, DecidableEq

namespace Progress

/-- The offer to the transmitter has an outcome. -/
def offer (sent : Bool) : Progress → Progress
  | .decided _ output =>
      .offered output sent
  | other =>
      other

/-- The bytes that the callback left, once it has decided. -/
def output : Progress → List UInt8
  | .decided _ output =>
      output
  | .offered output _ =>
      output
  | _ =>
      []

end Progress

/-- The packet that the callback is working on. -/
structure InFlight where
  packet : Packet
  progress : Progress
  deriving Repr, DecidableEq

/-- The callback's decision on a packet, the bytes it left, and the outcome. -/
structure Verdict where
  accepted : Bool
  output : List UInt8
  sent : Bool
  deriving Repr, DecidableEq

/--
Auxiliary state of the worker: the handled but unreleased prefixes of its RX
and Completion windows, the frames written to Fill and not yet published, the
packets whose frames the caller holds, every packet handed out, every verdict,
every accepted send with the bytes at that moment, how many wakeup outcomes
were looked at, how many of those on RX were only printed at startup, and
whether all assertions held so far.
-/
structure Aux where
  rxDone : Nat
  completionDone : Nat
  fillWindow : List UInt64
  hand : List Packet
  handed : List Packet
  verdicts : List Verdict
  current : Option InFlight
  sendLog : List Packet
  sendtoNoted : Nat
  recvfromNoted : Nat
  recvfromPrinted : Nat
  assertsHeld : Bool
  deriving Repr, DecidableEq

/-- The state of the process and of the kernel. -/
structure World where
  rx : Channel XdpDesc
  tx : Channel XdpDesc
  fill : Channel UInt64
  completion : Channel UInt64
  memory : Memory
  allocator : FrameAllocator
  transmitter : Transmitter
  receiver : Receiver
  bench : BenchStats
  wakeups : Wakeups
  kernel : Kernel
  aux : Aux
  summary : Option RunSummary

/-- A null descriptor, the contents of fresh ring memory. -/
def XdpDesc.zero : XdpDesc where
  addr := 0
  len := 0
  options := 0

namespace World

/--
The state after `Xsk::create`, the allocator's constructor and the other
constructors, before the initial refill.
-/
def initial
    (config : Config)
    (memory : Memory)
    (sendto recvfrom : Nat → Option Errno) :
    World where
  rx :=
    Channel.create (fun _ => .zero) (stored (2 ^ config.rxOrder.val))
  tx :=
    Channel.create (fun _ => .zero) (stored (2 ^ config.txOrder.val))
  fill :=
    Channel.create (fun _ => 0) (stored (2 ^ config.fillOrder.val))
  completion :=
    Channel.create (fun _ => 0)
      (stored (2 ^ config.completionOrder.val))
  memory := memory
  allocator :=
    FrameAllocator.create config.capacity
      config.numFrames config.frameSize
  transmitter :=
    { txStart := 0
      txAvail := 0
      txUsed := 0
      reserved := false
      outstanding := 0
      framesSubmitted := 0
      framesReclaimed := 0
      framesRejected := 0
      retryableWakeupErrors := 0
      firstWakeupError := 0 }
  receiver :=
    { packetsReceived := 0
      fillRefills := 0
      firstWakeupError := 0 }
  bench :=
    { callbacks := 0
      bytes := 0
      staged := 0
      unsupported := 0 }
  wakeups :=
    { sendto := sendto
      recvfrom := recvfrom
      sendtoCalls := 0
      recvfromCalls := 0 }
  kernel :=
    { rxHeld := []
      txHeld := []
      delivered := []
      transmitted := [] }
  aux :=
    { rxDone := 0
      completionDone := 0
      fillWindow := []
      hand := []
      handed := []
      verdicts := []
      current := none
      sendLog := []
      sendtoNoted := 0
      recvfromNoted := 0
      recvfromPrinted := 0
      assertsHeld := decide (config.numFrames.toNat ≤ config.capacity) }
  summary := none

end World

/-! ## The kernel's steps

Assumed of the kernel, which is not part of the program: it takes Fill and TX
entries in order, writes only frames it holds for RX, publishes on RX only
such frames, publishes on Completion each consumed TX address once, and does
not overfill a ring.  `admits` stands for the attached XDP program: only
packets it redirects are delivered.
-/

/-- What the kernel can do with the rings and the UMEM. -/
inductive KernelStep where
  | takeFill : KernelStep
  | deliver (desc : XdpDesc) : KernelStep
  | takeTx : KernelStep
  | complete (desc : XdpDesc) : KernelStep
  | dma
      (frame : UInt64) (offset : Nat) (bytes : List UInt8) :
      KernelStep
  | setTxFlags (flags : UInt32) : KernelStep
  | setFillFlags (flags : UInt32) : KernelStep
  deriving Repr, DecidableEq

namespace KernelStep

/-- Does the step touch a ring index or a descriptor? -/
def isRingStep : KernelStep → Bool
  | .takeFill => true
  | .deliver _ => true
  | .takeTx => true
  | .complete _ => true
  | .dma .. => false
  | .setTxFlags _ => false
  | .setFillFlags _ => false

/-- May a conforming kernel take this step now? -/
def Allowed
    (config : Config)
    (admits : List UInt8 → Bool)
    (world : World) :
    KernelStep → Prop
  | .takeFill =>
      world.fill.ring.occupancy ≠ 0
  | .deliver desc =>
      desc.base config.frameSize ∈ world.kernel.rxHeld ∧
        desc.Inside config.frameSize ∧
        world.rx.ring.occupancy < world.rx.ring.numDescs ∧
        admits (desc.bytes world.memory) = true
  | .takeTx =>
      world.tx.ring.occupancy ≠ 0
  | .complete desc =>
      desc ∈ world.kernel.txHeld ∧
        world.completion.ring.occupancy <
          world.completion.ring.numDescs
  | .dma frame offset bytes =>
      frame ∈ world.kernel.rxHeld ∧
        offset + bytes.length ≤ config.frameSize.toNat
  | .setTxFlags _ =>
      True
  | .setFillFlags _ =>
      True

instance
    (config : Config)
    (admits : List UInt8 → Bool)
    (world : World)
    (step : KernelStep) :
    Decidable (step.Allowed config admits world) :=
  match step with
  | .takeFill => inferInstanceAs (Decidable (_ ≠ _))
  | .deliver _ => inferInstanceAs (Decidable (_ ∧ _))
  | .takeTx => inferInstanceAs (Decidable (_ ≠ _))
  | .complete _ => inferInstanceAs (Decidable (_ ∧ _))
  | .dma .. => inferInstanceAs (Decidable (_ ∧ _))
  | .setTxFlags _ => inferInstanceAs (Decidable True)
  | .setFillFlags _ => inferInstanceAs (Decidable True)

/-- What the step does. -/
def effect (config : Config) (world : World) : KernelStep → World
  | .takeFill =>
      { world with
        fill := world.fill.peerConsume 1
        kernel :=
          { world.kernel with
            rxHeld :=
              world.fill.ring.descAt world.fill.ring.consumer ::
                world.kernel.rxHeld } }
  | .deliver desc =>
      { world with
        rx := world.rx.peerPut desc
        kernel :=
          { world.kernel with
            rxHeld :=
              world.kernel.rxHeld.erase (desc.base config.frameSize)
            delivered :=
              world.kernel.delivered ++
                [(desc, desc.bytes world.memory)] } }
  | .takeTx =>
      let desc := world.tx.ring.descAt world.tx.ring.consumer
      { world with
        tx := world.tx.peerConsume 1
        kernel :=
          { world.kernel with
            txHeld := desc :: world.kernel.txHeld
            transmitted :=
              world.kernel.transmitted ++
                [(desc, desc.bytes world.memory)] } }
  | .complete desc =>
      { world with
        completion := world.completion.peerPut desc.addr
        kernel :=
          { world.kernel with
            txHeld := world.kernel.txHeld.erase desc } }
  | .dma frame offset bytes =>
      { world with
        memory :=
          world.memory.overwrite (frame.toNat + offset) bytes }
  | .setTxFlags flags =>
      { world with tx := world.tx.peerSetFlags flags }
  | .setFillFlags flags =>
      { world with fill := world.fill.peerSetFlags flags }

/-- Perform a kernel step, if it is one that a conforming kernel may take. -/
def perform
    (config : Config)
    (admits : List UInt8 → Bool)
    (world : World)
    (step : KernelStep) :
    Option World :=
  if step.Allowed config admits world then
    some (step.effect config world)
  else
    none

/-- A step that is performed is allowed. -/
theorem perform_eq_some
    {config : Config}
    {admits : List UInt8 → Bool}
    {world after : World}
    {step : KernelStep} :
    step.perform config admits world = some after ↔
      step.Allowed config admits world ∧
        step.effect config world = after := by
  rw [perform, Option.ite_none_right_eq_some, Option.some.injEq]

end KernelStep

end AfXdp
