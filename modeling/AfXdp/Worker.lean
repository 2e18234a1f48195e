import AfXdp.InterleavingMachine
import AfXdp.World

namespace AfXdp

open Interleaving
open SequenceIndex

/-!
# The worker's code

`Transmitter`, the ring-level part of `Xsk`, `Receiver` and the callback of
`main.cpp`, function by function, as programs of atomic steps.  A step does at
most one access to memory that the kernel can see (an index load or store, a
descriptor, a flag word, packet bytes, a system call) together with the
private computation around it.  The kernel may act before every step.
-/

/-- A piece of worker code. -/
abbrev Task :=
  Prog World

/-! ## Atomic steps on the allocator -/

namespace World

/-- `alloc_.free(offset)`, with its assertion. -/
def freeFrame (world : World) (offset : UInt64) : World :=
  { world with
    allocator := world.allocator.free offset
    aux :=
      { world.aux with
        assertsHeld :=
          world.aux.assertsHeld && world.allocator.freeAsserts } }

/-- `assert(condition)`. -/
def assertThat (world : World) (condition : Bool) : World :=
  { world with
    aux :=
      { world.aux with
        assertsHeld := world.aux.assertsHeld && condition } }

/-- The caller gives up the frame of the packet at `addr`. -/
def leaveHand (world : World) (addr : UInt64) : World :=
  { world with
    aux :=
      { world.aux with
        hand := world.aux.hand.eraseP fun packet => packet.1.addr = addr } }

/-- Record how far the callback got. -/
def progress (world : World) (change : Progress → Progress) : World :=
  { world with
    aux :=
      { world.aux with
        current :=
          world.aux.current.map fun inFlight =>
            { inFlight with progress := change inFlight.progress } } }

end World

/-! ## `xsk.hpp` -/

namespace Xsk

/-- The zero-length `sendto` on the socket. -/
def sendto (world : World) : Option Errno × World :=
  (world.wakeups.sendto world.wakeups.sendtoCalls,
    { world with
      wakeups :=
        { world.wakeups with
          sendtoCalls := world.wakeups.sendtoCalls + 1 } })

/-- The zero-length `recvfrom` on the socket. -/
def recvfrom (world : World) : Option Errno × World :=
  (world.wakeups.recvfrom world.wakeups.recvfromCalls,
    { world with
      wakeups :=
        { world.wakeups with
          recvfromCalls := world.wakeups.recvfromCalls + 1 } })

/-- `request_tx_progress`: one `sendto`, if busy polling or asked for. -/
def requestTxProgress (config : Config) : Task (Option Errno) := do
  let wanted ← Prog.ask fun world =>
    config.busyPoll || world.tx.ring.needWakeup
  if wanted then
    Prog.act sendto
  else
    return none

/-- `request_rx_progress`: one `recvfrom`, if busy polling or asked for. -/
def requestRxProgress (config : Config) : Task (Option Errno) := do
  let wanted ← Prog.ask fun world =>
    config.busyPoll || world.fill.ring.needWakeup
  if wanted then
    Prog.act recvfrom
  else
    return none

/-- `fill_.writable_range(fill_.capacity())`. -/
def fillWindow (world : World) : Range × World :=
  let window := world.fill.writableRange world.fill.ring.capacity
  (window.1, { world with fill := window.2 })

/-- Pop one frame and write it to the Fill slot at `index`. -/
def fillPush (index : UInt32) (world : World) : Bool × World :=
  match world.allocator.alloc with
  | none =>
      (false, world)
  | some (frame, allocator) =>
      (true,
        { world with
          allocator := allocator
          fill := world.fill.setDescAt index frame
          aux :=
            { world.aux with
              fillWindow := world.aux.fillWindow ++ [frame] } })

/-- `fill_.publish_written_entries(pushed)`. -/
def fillPublish (pushed : UInt32) (world : World) : World :=
  { world with
    fill := world.fill.publishWrittenEntries pushed
    aux := { world.aux with fillWindow := [] } }

/-- The loop of `refill_fill`: stop at the window's end or an empty pool. -/
def fillLoop (start : UInt32) : (remaining pushed : Nat) → Task Nat
  | 0, pushed =>
      return pushed
  | remaining + 1, pushed => do
      let popped ← Prog.act (fillPush (start + stored pushed))
      if popped then
        fillLoop start remaining (pushed + 1)
      else
        return pushed

/-- `refill_fill`. -/
def refillFill : Task UInt32 := do
  let window ← Prog.act fillWindow
  let pushed ← fillLoop window.start window.amount.toNat 0
  Prog.when (pushed > 0) (Prog.update (fillPublish (stored pushed)))
  return stored pushed

/-- `fill().queued_entry_count()`. -/
def fillQueuedEntryCount : Task UInt32 := do
  let producer ← Prog.ask fun world => world.fill.ring.producer
  let consumer ← Prog.ask fun world => world.fill.ring.consumer
  return MmapRing.queuedEntryCount producer consumer

end Xsk

/-! ## `transmitter.hpp` -/

namespace Transmitter

/-- `completion().readable_range(budget)`. -/
def completionWindow (budget : UInt32) (world : World) : Range × World :=
  let window := world.completion.readableRange budget
  (window.1, { world with completion := window.2 })

/-- Free the frame named by the Completion entry at `index`. -/
def freeCompleted
    (config : Config)
    (index : UInt32)
    (world : World) :
    World :=
  let freed :=
    world.freeFrame
      (frameBase config.frameSize (world.completion.ring.descAt index))
  { freed with
    aux :=
      { freed.aux with
        completionDone := freed.aux.completionDone + 1 } }

/-- Release `amount` Completion entries and settle the counters. -/
def releaseCompleted (amount : UInt32) (world : World) : World :=
  { world with
    completion := world.completion.releaseConsumedEntries amount
    transmitter :=
      { world.transmitter with
        outstanding := world.transmitter.outstanding - amount
        framesReclaimed :=
          world.transmitter.framesReclaimed + amount.toUInt64 }
    aux := { world.aux with completionDone := 0 } }

/-- `reclaim_completed_frames`. -/
def reclaimCompletedFrames
    (config : Config)
    (budget : UInt32) :
    Task UInt32 := do
  let window ← Prog.act (completionWindow budget)
  if window.amount = 0 then
    return 0
  else do
    Prog.update fun world =>
      world.assertThat (window.amount ≤ world.transmitter.outstanding)
    Prog.forRange window.amount.toNat fun index =>
      Prog.update (freeCompleted config (window.start + stored index))
    Prog.update (releaseCompleted window.amount)
    return window.amount

/-- `frames_rejected_.fetch_add(1)`. -/
def rejectFrame (world : World) : World :=
  { world with
    transmitter :=
      { world.transmitter with
        framesRejected := world.transmitter.framesRejected + 1 } }
    |>.progress (Progress.offer false)

/-- `if (!reserved_) { ... }`: start a TX window. -/
def reserve (world : World) : World :=
  if world.transmitter.reserved then
    world
  else
    let window := world.tx.writableRange world.tx.ring.capacity
    { world with
      tx := window.2
      transmitter :=
        { world.transmitter with
          txAvail := window.1.amount
          txStart := window.1.start
          txUsed := 0
          reserved := true } }

/--
`if (tx_used_ == tx_avail_) { ... }`: ask again when the window is used up.
The result says whether it still is.
-/
def refresh (world : World) : Bool × World :=
  if world.transmitter.txUsed = world.transmitter.txAvail then
    let window := world.tx.writableRange world.tx.ring.capacity
    (world.transmitter.txUsed = window.1.amount,
      { world with
        tx := window.2
        transmitter :=
          { world.transmitter with txAvail := window.1.amount } })
  else
    (false, world)

/-- Write the next descriptor of the window and count it. -/
def stage (addr : UInt64) (length : UInt32) (world : World) : World :=
  let desc : XdpDesc := { addr := addr, len := length, options := 0 }
  let index := world.transmitter.txStart + world.transmitter.txUsed
  let staged : World :=
    { world with
      tx := world.tx.setDescAt index desc
      transmitter :=
        { world.transmitter with
          txUsed := world.transmitter.txUsed + 1 }
      aux :=
        { world.aux with
          sendLog :=
            world.aux.sendLog ++ [(desc, desc.bytes world.memory)] } }
  (staged.leaveHand addr).progress (Progress.offer true)

/-- `send_in_place`. -/
def sendInPlace
    (config : Config)
    (addr : UInt64)
    (length : UInt32) :
    Task Bool := do
  if length = 0 ∨ length > config.frameSize then
    Prog.update rejectFrame
    return false
  else do
    Prog.update reserve
    let full ← Prog.act refresh
    if full then
      Prog.update rejectFrame
      return false
    else do
      Prog.update (stage addr length)
      return true

/-- Publish what is staged and close the TX window. -/
def publishStaged (world : World) : World :=
  let transmitter := world.transmitter
  if transmitter.txUsed > 0 then
    { world with
      tx := world.tx.publishWrittenEntries transmitter.txUsed
      transmitter :=
        { transmitter with
          outstanding := transmitter.outstanding + transmitter.txUsed
          framesSubmitted :=
            transmitter.framesSubmitted + transmitter.txUsed.toUInt64
          txUsed := 0
          reserved := false } }
  else
    { world with
      transmitter :=
        { transmitter with
          txUsed := 0
          reserved := false } }

/-- Classify the outcome of a TX wakeup. -/
def classifyWakeup
    (transmitter : Transmitter) :
    Option Errno → Transmitter
  | none =>
      transmitter
  | some error =>
      if isExpectedWakeupRetry error || error = .enobufs then
        { transmitter with
          retryableWakeupErrors :=
            transmitter.retryableWakeupErrors + 1 }
      else if transmitter.firstWakeupError = 0 then
        { transmitter with
          firstWakeupError := error.code }
      else
        transmitter

/-- The same, with the outcome counted as looked at. -/
def noteTxWakeup (result : Option Errno) (world : World) : World :=
  { world with
    transmitter := world.transmitter.classifyWakeup result
    aux :=
      { world.aux with
        sendtoNoted := world.wakeups.sendtoCalls } }

/-- `publish_and_service_tx`. -/
def publishAndServiceTx (config : Config) : Task Unit := do
  Prog.update publishStaged
  let idle ← Prog.ask fun world => world.transmitter.outstanding == 0
  if idle then
    return ()
  else do
    let budget ← Prog.ask fun world => world.completion.ring.capacity
    let reaped ← reclaimCompletedFrames config budget
    let idle ← Prog.ask fun world => world.transmitter.outstanding == 0
    if idle then
      return ()
    else do
      let result ← Xsk.requestTxProgress config
      Prog.update (noteTxWakeup result)
      Prog.when (reaped < budget) do
        let _ ← reclaimCompletedFrames config (budget - reaped)
        return ()

/--
`drain_until`.  The list has the outcomes of the comparison with the deadline;
once it is used up the deadline has passed.
-/
def drainUntil (config : Config) : (beforeDeadline : List Bool) → Task UInt32
  | [] => do
      publishAndServiceTx config
      Prog.ask fun world => world.transmitter.outstanding
  | early :: later => do
      publishAndServiceTx config
      let outstanding ← Prog.ask fun world =>
        world.transmitter.outstanding
      if outstanding ≠ 0 ∧ early = true then
        drainUntil config later
      else
        return outstanding

end Transmitter

/-! ## `receiver.hpp` -/

/-- `struct PacketView`: `data` is the span of `len` bytes at `addr`. -/
structure PacketView where
  addr : UInt64
  len : UInt32
  deriving Repr, DecidableEq

/-- What the callback says about the frame it was given. -/
inductive FrameDisposition where
  | recycle : FrameDisposition
  | transferred : FrameDisposition
  deriving Repr, DecidableEq

namespace Receiver

/-- `rx().readable_range(batch_size)`. -/
def rxWindow (batchSize : UInt32) (world : World) : Range × World :=
  let window := world.rx.readableRange batchSize
  (window.1, { world with rx := window.2 })

/-- Take the RX descriptor at `index` out of the window, into the hand. -/
def takeDesc (index : UInt32) (world : World) : XdpDesc × World :=
  let desc := world.rx.ring.descAt index
  let packet : Packet := (desc, desc.bytes world.memory)
  (desc,
    { world with
      aux :=
        { world.aux with
          rxDone := world.aux.rxDone + 1
          hand := packet :: world.aux.hand
          handed := world.aux.handed ++ [packet] } })

/-- Read the descriptor and hand its packet to the callback. -/
def handOut (index : UInt32) (world : World) : XdpDesc × World :=
  let taken := takeDesc index world
  (taken.1,
    { taken.2 with
      aux :=
        { taken.2.aux with
          current :=
            some
              { packet := (taken.1, taken.1.bytes world.memory)
                progress := .taken } } })

/-- Free the frame of the descriptor, read again through its reference. -/
def recycle
    (config : Config)
    (index : UInt32)
    (world : World) :
    World :=
  let desc := world.rx.ring.descAt index
  (world.freeFrame (frameBase config.frameSize desc.addr)).leaveHand
    desc.addr

/-- `rx().release_consumed_entries(n)`. -/
def rxRelease (amount : UInt32) (world : World) : World :=
  { world with
    rx := world.rx.releaseConsumedEntries amount
    aux := { world.aux with rxDone := 0 } }

/-- Classify the outcome of an RX wakeup. -/
def classifyWakeup
    (receiver : Receiver) :
    Option Errno → Receiver
  | none =>
      receiver
  | some error =>
      if !isExpectedWakeupRetry error &&
          receiver.firstWakeupError = 0 then
        { receiver with firstWakeupError := error.code }
      else
        receiver

/-- The same, with the outcome counted as looked at. -/
def noteRxWakeup (result : Option Errno) (world : World) : World :=
  { world with
    receiver := world.receiver.classifyWakeup result
    aux :=
      { world.aux with
        recvfromNoted := world.wakeups.recvfromCalls } }

/-- `fill_refills_.fetch_add(1)`. -/
def countRefill (world : World) : World :=
  { world with
    receiver :=
      { world.receiver with
        fillRefills := world.receiver.fillRefills + 1 } }

/-- One iteration of the batch loop. -/
def handleDesc
    (config : Config)
    (callback : PacketView → Task FrameDisposition)
    (index : UInt32) :
    Task Unit := do
  let desc ← Prog.act (handOut index)
  let disposition ← callback { addr := desc.addr, len := desc.len }
  Prog.when (disposition = .recycle)
    (Prog.update (recycle config index))

/-- The refill part of the maintenance pass. -/
def maintainFill (config : Config) : Task UInt32 := do
  let queued ← Xsk.fillQueuedEntryCount
  if queued < config.fillThreshold then do
    let pushed ← Xsk.refillFill
    Prog.when (pushed > 0) (Prog.update countRefill)
    return pushed
  else
    return 0

/-- The wakeup part of the maintenance pass. -/
def maintainRx (config : Config) (amount pushed : UInt32) : Task Unit := do
  let wanted ←
    (if amount = 0 ∨ pushed > 0 then
      pure true
    else
      Prog.ask fun world => world.fill.ring.needWakeup)
  Prog.when (wanted = true) do
    let result ← Xsk.requestRxProgress config
    Prog.update (noteRxWakeup result)

/-- `process_rx_and_maintain_io`. -/
def processRxAndMaintainIo
    (config : Config)
    (callback : PacketView → Task FrameDisposition)
    (commitTx : Task Unit) :
    Task UInt32 := do
  let window ← Prog.act (rxWindow config.batchSize)
  Prog.forRange window.amount.toNat fun offset =>
    handleDesc config callback (window.start + stored offset)
  Prog.when (window.amount > 0) (Prog.update (rxRelease window.amount))
  commitTx
  let pushed ← maintainFill config
  maintainRx config window.amount pushed
  return window.amount

/-- `packets_received_.fetch_add(processed)`. -/
def countReceived (processed : UInt32) (world : World) : World :=
  { world with
    receiver :=
      { world.receiver with
        packetsReceived :=
          world.receiver.packetsReceived + processed.toUInt64 } }

/-- One turn of the loop of `Receiver::run`. -/
def runOnce
    (config : Config)
    (callback : PacketView → Task FrameDisposition)
    (commitTx : Task Unit) :
    Task Unit := do
  let processed ← processRxAndMaintainIo config callback commitTx
  Prog.when (processed ≠ 0) (Prog.update (countReceived processed))

end Receiver

/-! ## `main.cpp` -/

/--
What a callback does to the bytes of a packet and whether it then offers the
packet to the transmitter.  It may depend on everything handed out so far.
-/
abbrev Rewrite :=
  List Packet → List UInt8 → Bool × List UInt8

namespace Main

/-- Count the callback and read the packet bytes. -/
def openPacket (packet : PacketView) (world : World) : List UInt8 × World :=
  (world.memory.span packet.addr.toNat packet.len.toNat,
    { world with
      bench :=
        { world.bench with
          callbacks := world.bench.callbacks + 1
          bytes := world.bench.bytes + packet.len.toUInt64 } }
      |>.progress fun _ => .opened)

/-- Write the packet bytes back, inside the packet's span. -/
def rewritePacket
    (packet : PacketView)
    (accepted : Bool)
    (output : List UInt8)
    (world : World) :
    World :=
  let memory :=
    world.memory.overwrite packet.addr.toNat
      (output.take packet.len.toNat)
  let left := memory.span packet.addr.toNat packet.len.toNat
  { world with
    memory := memory
    aux :=
      { world.aux with
        hand :=
          world.aux.hand.map fun (held : Packet) =>
            if held.1.addr = packet.addr then
              (held.1, held.1.bytes memory)
            else
              held } }
    |>.progress fun _ => .decided accepted left

/-- Count the outcome; the callback is finished with its packet. -/
def settle (accepted transferred : Bool) (world : World) : World :=
  let output :=
    (world.aux.current.map fun inFlight =>
      inFlight.progress.output).getD []
  { world with
    bench :=
      { world.bench with
        unsupported :=
          if accepted then
            world.bench.unsupported
          else
            world.bench.unsupported + 1
        staged :=
          if transferred then
            world.bench.staged + 1
          else
            world.bench.staged }
    aux :=
      { world.aux with
        verdicts :=
          world.aux.verdicts ++
            [{ accepted := accepted
               output := output
               sent := transferred }]
        current := none } }

/-- The lambda `strategy`, with `reflect_swap` a parameter. -/
def strategy
    (config : Config)
    (rewrite : Rewrite)
    (packet : PacketView) :
    Task FrameDisposition := do
  let data ← Prog.act (openPacket packet)
  let handed ← Prog.ask fun world => world.aux.handed
  Prog.update
    (rewritePacket packet (rewrite handed data).1 (rewrite handed data).2)
  let transferred ←
    (if (rewrite handed data).1 then
      Transmitter.sendInPlace config packet.addr packet.len
    else
      pure false)
  Prog.update (settle (rewrite handed data).1 transferred)
  return if transferred then .transferred else .recycle

/-- An unexpected outcome of the first RX wakeup is printed and forgotten. -/
def printInitialWakeup (world : World) : World :=
  { world with
    aux :=
      { world.aux with
        recvfromNoted := world.wakeups.recvfromCalls
        recvfromPrinted := world.wakeups.recvfromCalls } }

/-- Before the worker starts: fill the Fill ring and wake the kernel once. -/
def startup (config : Config) : Task Unit := do
  let _ ← Xsk.refillFill
  let _ ← Xsk.requestRxProgress config
  Prog.update printInitialWakeup

/-- The worker's turn: `Receiver::run` with `strategy` and `service_tx`. -/
def workerTurn (config : Config) (rewrite : Rewrite) : Task Unit :=
  Receiver.runOnce config (strategy config rewrite)
    (Transmitter.publishAndServiceTx config)

/-- Fill in the counters of the run summary. -/
def summarize (remaining : UInt32) (world : World) : World :=
  { world with
    summary :=
      some
        { rxProcessed := world.receiver.packetsReceived
          callbacks := world.bench.callbacks
          callbackBytes := world.bench.bytes
          unsupported := world.bench.unsupported
          txStaged := world.bench.staged
          txSubmitted := world.transmitter.framesSubmitted
          txReclaimed := world.transmitter.framesReclaimed
          txRejected := world.transmitter.framesRejected
          fillRefillBatches := world.receiver.fillRefills
          txRetryableWakeupErrors :=
            world.transmitter.retryableWakeupErrors
          txAbandoned := remaining
          rxFirstWakeupErrno := world.receiver.firstWakeupError
          txFirstWakeupErrno := world.transmitter.firstWakeupError } }

/-- After the worker was joined: drain, then report. -/
def shutdown (config : Config) (beforeDeadline : List Bool) : Task Unit := do
  let remaining ← Transmitter.drainUntil config beforeDeadline
  Prog.update (summarize remaining)

end Main

/-! ## Using the transmitter directly

A caller that takes RX frames into its own hands and gives each of them back,
to the transmitter or to the allocator.
-/

namespace Client

/-- Take up to `batchSize` frames from RX, as `Receiver` does. -/
def receive (batchSize : UInt32) : Task Unit := do
  let window ← Prog.act (Receiver.rxWindow batchSize)
  Prog.forRange window.amount.toNat fun offset => do
    let _ ← Prog.act (Receiver.takeDesc (window.start + stored offset))
    return ()
  Prog.when (window.amount > 0)
    (Prog.update (Receiver.rxRelease window.amount))

/-- Return a frame that the caller owns to the allocator. -/
def giveBack (config : Config) (addr : UInt64) (world : World) : World :=
  (world.freeFrame (frameBase config.frameSize addr)).leaveHand addr

end Client

end AfXdp
