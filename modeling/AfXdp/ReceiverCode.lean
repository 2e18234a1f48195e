import AfXdp.WorkerCode

namespace AfXdp

open Interleaving
open SequenceIndex

/-!
# The receive loop and its callback

Specifications of the functions of `Receiver` and of the callback of
`main.cpp`, up to one whole turn of the worker.
-/

section Functions

variable {config : Config}
variable {rewrite : Rewrite}
variable {admits : List UInt8 → Bool}
variable {direct : Bool}
variable {floor : Floor}
variable {own : Own}

/-! ## The callback -/

/-- The callback sees the bytes that the packet came with. -/
theorem openPacket_meets
    {packet : Packet}
    (current :
      own.current = some { packet := packet, progress := .taken })
    (alone : own.hand = [packet]) :
    Meets (workerSetting config rewrite admits false floor)
      (· = own)
      (Prog.act
        (Main.openPacket
          { addr := packet.1.addr, len := packet.1.len }))
      (fun data after =>
        after =
            { own with
              current :=
                some { packet := packet, progress := .opened } } ∧
          data = packet.2) := by
  refine Meets.act ?_
  rintro world core _ rfl
  refine ⟨.openPacket current, ?_, ?_⟩
  · change world.aux.current = _ at current
    simp only [Main.openPacket, World.progress, World.own, current,
      Option.map_some]
  · change world.aux.hand = _ at alone
    exact core.intact packet (by simp [alone])

/-- The bytes of the packet are rewritten where they lie. -/
theorem rewritePacket_meets
    {packet : Packet}
    (current :
      own.current = some { packet := packet, progress := .opened })
    (alone : own.hand = [packet]) :
    Meets (workerSetting config rewrite admits false floor)
      (· = own)
      (Prog.update
        (Main.rewritePacket
          { addr := packet.1.addr, len := packet.1.len }
          (rewrite own.handed packet.2).1
          (rewrite own.handed packet.2).2))
      (fun _ after =>
        ∃ output,
          after =
            { own with
              hand := [(packet.1, output)]
              current :=
                some
                  { packet := packet
                    progress :=
                      .decided (rewrite own.handed packet.2).1
                        output } }) := by
  refine Meets.update ?_
  rintro world core _ rfl
  refine ⟨.rewritePacket current alone,
    packet.1.bytes
      (world.memory.overwrite packet.1.addr.toNat
        ((rewrite world.own.handed packet.2).2.take
          packet.1.len.toNat)), ?_⟩
  change world.aux.current = _ at current
  change world.aux.hand = _ at alone
  simp only [Main.rewritePacket, World.progress, World.own, current,
    alone, Option.map_some, List.map_cons, List.map_nil, ↓reduceIte]
  rfl

/-- Only an accepted packet is offered to the transmitter. -/
theorem offer_meets
    {packet : Packet}
    {output : List UInt8}
    {accepted : Bool}
    (current :
      own.current =
        some
          { packet := packet
            progress := .decided accepted output })
    (alone : own.hand = [(packet.1, output)]) :
    Meets (workerSetting config rewrite admits false floor)
      (· = own)
      (if accepted then
        Transmitter.sendInPlace config packet.1.addr packet.1.len
      else
        pure false)
      (fun transferred after =>
        (∃ transmitter,
          after =
            { own with
              transmitter := transmitter
              hand :=
                if transferred then [] else [(packet.1, output)]
              current :=
                some
                  { packet := packet
                    progress :=
                      if accepted then
                        .offered output transferred
                      else
                        .decided false output } }) ∧
          (accepted = false → transferred = false)) := by
  cases accepted with
  | false =>
      refine Meets.done ⟨⟨own.transmitter, ?_⟩, fun _ => rfl⟩
      simp only [Bool.false_eq_true, ↓reduceIte]
      rw [← current, ← alone]
  | true =>
      have offered : Offered false own (packet.1, output) :=
        { member := by simp [alone]
          offering := ⟨packet, output, current, alone, rfl⟩ }
      refine (sendInPlace_meets offered).weaken ?_
      rintro transferred _ ⟨transmitter, rfl⟩
      refine ⟨⟨transmitter, ?_⟩, nofun⟩
      rw [current, alone]
      simp [Progress.offer]

/-- The outcome of the callback is counted and written down. -/
theorem settle_meets
    {packet : Packet}
    {output : List UInt8}
    {accepted transferred : Bool}
    (current :
      own.current =
        some
          { packet := packet
            progress :=
              if accepted then
                .offered output transferred
              else
                .decided false output })
    (offered : accepted = false → transferred = false) :
    Meets (workerSetting config rewrite admits false floor)
      (· = own) (Prog.update (Main.settle accepted transferred))
      (fun _ after => after = { own with current := none }) := by
  refine Meets.update ?_
  rintro world core _ rfl
  exact ⟨.settle current offered, rfl⟩

/-- The frame leaves the hand exactly if the packet was transferred. -/
theorem strategy_meets
    {packet : Packet}
    (current :
      own.current = some { packet := packet, progress := .taken })
    (alone : own.hand = [packet]) :
    Meets (workerSetting config rewrite admits false floor)
      (· = own)
      (Main.strategy config rewrite
        { addr := packet.1.addr, len := packet.1.len })
      (fun disposition after =>
        ∃ transmitter output,
          after =
            { own with
              transmitter := transmitter
              current := none
              hand :=
                if disposition = .recycle then
                  [(packet.1, output)]
                else
                  [] }) := by
  refine Meets.bind _ (openPacket_meets current alone) ?_
  rintro data _ ⟨rfl, rfl⟩
  refine Meets.bind
    (fun handed after =>
      after =
          { own with
            current :=
              some { packet := packet, progress := .opened } } ∧
        handed = own.handed)
    (Meets.ask ?_) ?_
  · rintro world core _ same
    exact ⟨rfl, congrArg Own.handed same⟩
  rintro handed _ ⟨rfl, rfl⟩
  refine Meets.bind _ (rewritePacket_meets rfl alone) ?_
  rintro _ _ ⟨output, rfl⟩
  refine Meets.bind _ (offer_meets rfl rfl) ?_
  rintro transferred _ ⟨⟨transmitter, rfl⟩, offered⟩
  refine Meets.bind _ (settle_meets rfl offered) ?_
  rintro _ _ rfl
  refine Meets.done ⟨transmitter, output, ?_⟩
  cases transferred <;> rfl

/-! ## RX -/

/-- The window on RX begins at the first entry that is not taken. -/
theorem rxWindow_meets
    {batchSize : UInt32} :
    Meets (workerSetting config rewrite admits direct floor)
      (· = own) (Prog.act (Receiver.rxWindow batchSize))
      (fun window after =>
        ∃ seen,
          after = { own with rxSeen := seen } ∧
            window.start = stored own.rxTaken ∧
            own.rxTaken + window.amount.toNat ≤ seen) := by
  refine Meets.act ?_
  rintro world core _ rfl
  have after := core.rx.readableRange batchSize
  have known := after.window
  have amount := core.rx.readableRange_amount batchSize
  rw [Channel.readableRange_taken] at known
  refine ⟨.rxWindow world batchSize, _, rfl,
    core.rx.readableRange_start _, ?_⟩
  change
    world.rx.taken +
        (world.rx.readableRange batchSize).1.amount.toNat ≤
      (world.rx.readableRange batchSize).2.seen
  omega

/-- The next descriptor is handed out, and its packet is the one in work. -/
theorem handOut_meets
    {index : UInt32}
    (next : index = stored (own.rxTaken + own.rxDone))
    (inWindow : own.rxTaken + own.rxDone < own.rxSeen)
    (between : own.current = none)
    (empty : own.hand = []) :
    Meets (workerSetting config rewrite admits direct floor)
      (· = own) (Prog.act (Receiver.handOut index))
      (fun desc after =>
        ∃ packet : Packet,
          desc = packet.1 ∧
            after =
              { own with
                rxDone := own.rxDone + 1
                hand := [packet]
                handed := own.handed ++ [packet]
                current :=
                  some { packet := packet, progress := .taken } }) := by
  refine Meets.act ?_
  rintro world core _ rfl
  change world.aux.hand = [] at empty
  refine ⟨.handOut next inWindow between empty,
    (world.rx.ring.descAt index,
      (world.rx.ring.descAt index).bytes world.memory), rfl, ?_⟩
  simp only [Receiver.handOut, Receiver.takeDesc, World.own, empty]

/-- The descriptor of the last packet is still in its slot. -/
theorem recycle_meets
    {index : UInt32}
    {done : Nat}
    {packet : Packet}
    {output : List UInt8}
    (position : index = stored (own.rxTaken + done))
    (last : own.rxDone = done + 1)
    (handed : own.handed.getLast? = some packet)
    (alone : own.hand = [(packet.1, output)]) :
    Meets (workerSetting config rewrite admits direct floor)
      (· = own) (Prog.update (Receiver.recycle config index))
      (fun _ after =>
        ∃ free,
          after = { own with freeFrames := free, hand := [] }) := by
  refine Meets.update ?_
  rintro world core _ rfl
  change world.aux.rxDone = done + 1 at last
  change world.aux.handed.getLast? = some packet at handed
  change world.aux.hand = _ at alone
  have known := core.rxDone
  obtain ⟨entry, found, slot⟩ :=
    core.rx_entry (Nat.le_add_right world.rx.taken done) (by omega)
  have same : entry = packet := by
    have inDelivered := (List.getElem?_eq_some_iff.mp found).1
    rw [core.handed, List.getLast?_eq_getElem?, List.length_take,
      List.getElem?_take, last] at handed
    rw [Nat.min_eq_left (by omega), if_pos (by omega),
      show world.rx.taken + (done + 1) - 1 = world.rx.taken + done by
        omega,
      found] at handed
    exact Option.some.inj handed
  subst same position
  have step :
      WorkerStep config rewrite direct world
        (Client.giveBack config entry.1.addr world) :=
    @WorkerStep.giveBack config rewrite direct world
      (entry.1, output) (by simp [alone])
  have recycled :
      Receiver.recycle config
          (stored (world.own.rxTaken + done)) world =
        Client.giveBack config entry.1.addr world := by
    change
      Client.giveBack config
        (world.rx.ring.descAt
          (stored (world.rx.taken + done))).addr world = _
    rw [slot]
  rw [recycled]
  refine ⟨step,
    frameBase config.frameSize entry.1.addr ::
      world.allocator.frames, ?_⟩
  simp [Client.giveBack, World.freeFrame, World.leaveHand, World.own,
    FrameAllocator.free, alone]

/-- Releasing all that was handed out gives the entries back. -/
theorem rxRelease_meets
    {amount : UInt32}
    (all : amount.toNat = own.rxDone) :
    Meets (workerSetting config rewrite admits direct floor)
      (· = own) (Prog.update (Receiver.rxRelease amount))
      (fun _ after =>
        after =
          { own with
            rxTaken := own.rxTaken + amount.toNat
            rxDone := 0 }) := by
  refine Meets.update ?_
  rintro world core _ rfl
  exact ⟨.rxRelease all, rfl⟩

/-- One descriptor of the batch: its frame is sent or freed. -/
theorem handleDesc_meets
    {index : UInt32}
    (next : index = stored (own.rxTaken + own.rxDone))
    (inWindow : own.rxTaken + own.rxDone < own.rxSeen)
    (between : own.current = none)
    (empty : own.hand = []) :
    Meets (workerSetting config rewrite admits false floor)
      (· = own)
      (Receiver.handleDesc config (Main.strategy config rewrite) index)
      (fun _ after =>
        ∃ transmitter free handed,
          after =
            { own with
              rxDone := own.rxDone + 1
              transmitter := transmitter
              freeFrames := free
              handed := handed }) := by
  refine Meets.bind _
    (handOut_meets next inWindow between empty) ?_
  rintro _ _ ⟨packet, rfl, rfl⟩
  refine Meets.bind _ (strategy_meets rfl rfl) ?_
  rintro disposition _ ⟨transmitter, output, rfl⟩
  refine Meets.when ?_ ?_
  · rintro rfl
    refine (recycle_meets (by exact next) rfl
      List.getLast?_concat rfl).weaken ?_
    rintro _ _ ⟨free, rfl⟩
    refine ⟨transmitter, free, own.handed ++ [packet], ?_⟩
    rw [between, empty]
  · intro transferred
    refine ⟨transmitter, own.freeFrames, own.handed ++ [packet], ?_⟩
    rw [if_neg transferred, between, empty]

/-! ## Maintenance -/

/-- A refill is counted, and nothing else changes. -/
theorem countRefill_meets :
    Meets (workerSetting config rewrite admits direct floor)
      (· = own) (Prog.update Receiver.countRefill)
      (fun _ after =>
        after =
          { own with
            receiver :=
              { own.receiver with
                fillRefills := own.receiver.fillRefills + 1 } }) := by
  refine Meets.update ?_
  rintro world core _ rfl
  exact ⟨.countRefill world, rfl⟩

/-- Fill is topped up to the threshold as far as the pool allows. -/
theorem maintainFill_meets
    (closed : own.fillWindow = []) :
    Meets (workerSetting config rewrite admits direct floor)
      (· = own) (Receiver.maintainFill config)
      (fun _ after =>
        ∃ length seen free refills,
          after =
              { own with
                fillLength := length
                fillSeen := seen
                freeFrames := free
                receiver :=
                  { own.receiver with fillRefills := refills } } ∧
            (free = [] ∨
              floor.filled +
                  min config.fillThreshold.toNat
                    (2 ^ config.fillOrder.val) ≤
                length)) := by
  refine Meets.bind _ fillQueuedEntryCount_meets ?_
  rintro queued start ⟨rfl, bound⟩
  split
  · refine Meets.bind _ (refillFill_meets closed) ?_
    rintro pushed _ ⟨seen, free, rfl, filled⟩
    have enough :
        free = [] ∨
          floor.filled +
              min config.fillThreshold.toNat
                (2 ^ config.fillOrder.val) ≤
            start.fillLength + pushed.toNat :=
      filled.imp_right fun whole => by omega
    refine Meets.bind
      (fun _ after =>
        ∃ refills,
          after =
            { start with
              fillLength := start.fillLength + pushed.toNat
              fillSeen := seen
              freeFrames := free
              receiver :=
                { start.receiver with fillRefills := refills } })
      (Meets.when ?_ ?_) ?_
    · intro _
      refine countRefill_meets.weaken ?_
      rintro _ _ rfl
      exact ⟨_, rfl⟩
    · intro _
      exact ⟨_, rfl⟩
    · rintro _ _ ⟨refills, rfl⟩
      exact Meets.done ⟨_, _, _, _, rfl, enough⟩
  · next above =>
      rw [UInt32.lt_iff_toNat_lt] at above
      refine Meets.done ⟨_, _, _, _, rfl, .inr ?_⟩
      omega

/-- A result that was not noted before is noted. -/
theorem noteRxWakeup_meets
    {result : Option Errno}
    (fresh :
      Fresh own.wakeups.recvfrom own.wakeups.recvfromCalls
        own.recvfromNoted result) :
    Meets (workerSetting config rewrite admits direct floor)
      (· = own) (Prog.update (Receiver.noteRxWakeup result))
      (fun _ after =>
        ∃ first,
          after =
            { own with
              receiver :=
                { own.receiver with firstWakeupError := first }
              recvfromNoted := own.wakeups.recvfromCalls }) := by
  refine Meets.update ?_
  rintro world core _ rfl
  obtain ⟨first, classified⟩ :=
    world.receiver.classifyWakeup_eq result
  refine ⟨.noteRxWakeup fresh, first, ?_⟩
  simp only [World.own, Receiver.noteRxWakeup, classified]

/-- A wakeup is asked for when it helps, and its result is noted. -/
theorem maintainRx_meets
    {amount pushed : UInt32}
    (noted : own.recvfromNoted = own.wakeups.recvfromCalls) :
    Meets (workerSetting config rewrite admits direct floor)
      (· = own) (Receiver.maintainRx config amount pushed)
      (fun _ after =>
        ∃ calls first,
          after =
            { own with
              receiver :=
                { own.receiver with firstWakeupError := first }
              wakeups :=
                { own.wakeups with recvfromCalls := calls }
              recvfromNoted := calls }) := by
  refine Meets.bind (fun _ after => after = own) ?_ ?_
  · split
    · exact Meets.done rfl
    · exact Meets.ask fun _ _ _ _ => rfl
  rintro wanted reached rfl
  refine Meets.when ?_ ?_
  · intro _
    refine Meets.bind _ (requestRxProgress_meets noted) ?_
    rintro result _ ⟨calls, rfl, fresh⟩
    refine (noteRxWakeup_meets fresh).weaken ?_
    rintro _ _ ⟨first, rfl⟩
    exact ⟨calls, first, rfl⟩
  · intro _
    have same :
        reached =
          { reached with
            recvfromNoted := reached.wakeups.recvfromCalls } := by
      rw [← noted]
    exact ⟨_, _, same⟩

/-! ## One turn of the worker -/

/-- What holds of the worker's own part between two passes. -/
structure Idle (own : Own) : Prop where
  rxDone :
    own.rxDone = 0
  completionDone :
    own.completionDone = 0
  fillWindow :
    own.fillWindow = []
  hand :
    own.hand = []
  current :
    own.current = none
  txUsed :
    own.transmitter.txUsed = 0
  reserved :
    own.transmitter.reserved = false
  sendtoNoted :
    own.sendtoNoted = own.wakeups.sendtoCalls
  recvfromNoted :
    own.recvfromNoted = own.wakeups.recvfromCalls

/-- What a pass over RX leaves, besides an idle worker. -/
structure Passed
    (config : Config)
    (floor : Floor)
    (own : Own)
    (amount : UInt32)
    (after : Own) : Prop extends Idle after where
  rxTaken :
    after.rxTaken = own.rxTaken + amount.toNat
  packetsReceived :
    after.receiver.packetsReceived = own.receiver.packetsReceived
  completed :
    floor.completed ≤ after.completionTaken
  filled :
    after.freeFrames = [] ∨
      floor.filled +
          min config.fillThreshold.toNat (2 ^ config.fillOrder.val) ≤
        after.fillLength

/-- The loop over the batch handles every descriptor of the window. -/
theorem batch_meets
    {window : Range}
    (idle : Idle own)
    (start : window.start = stored own.rxTaken)
    (known : own.rxTaken + window.amount.toNat ≤ own.rxSeen) :
    Meets (workerSetting config rewrite admits false floor)
      (· = own)
      (Prog.forRange window.amount.toNat fun offset =>
        Receiver.handleDesc config (Main.strategy config rewrite)
          (window.start + stored offset))
      (fun _ after =>
        ∃ transmitter free handed,
          after =
            { own with
              rxDone := window.amount.toNat
              transmitter := transmitter
              freeFrames := free
              handed := handed }) := by
  refine Meets.forRange
    (fun index after =>
      ∃ transmitter free handed,
        after =
          { own with
            rxDone := index
            transmitter := transmitter
            freeFrames := free
            handed := handed })
    ⟨own.transmitter, own.freeFrames, own.handed,
      by rw [← idle.rxDone]⟩ ?_
  rintro index _ inRange ⟨transmitter, free, handed, rfl⟩
  refine (handleDesc_meets ?_ ?_
    (by exact idle.current) (by exact idle.hand)).weaken ?_
  · rw [start, stored_add_stored]
  · simp only
    omega
  · rintro _ _ ⟨transmitter, free, handed, rfl⟩
    exact ⟨transmitter, free, handed, rfl⟩

/-- After the batch its entries are released, if there were any. -/
theorem release_meets
    {amount : UInt32}
    (all : amount.toNat = own.rxDone) :
    Meets (workerSetting config rewrite admits direct floor)
      (· = own)
      (Prog.when (amount > 0)
        (Prog.update (Receiver.rxRelease amount)))
      (fun _ after =>
        after =
          { own with
            rxTaken := own.rxTaken + amount.toNat
            rxDone := 0 }) := by
  refine Meets.when ?_ ?_
  · intro _
    exact rxRelease_meets all
  · intro none
    have zero : amount.toNat = 0 := by
      rw [gt_iff_lt, UInt32.lt_iff_toNat_lt,
        UInt32.toNat_zero] at none
      omega
    rw [zero, Nat.add_zero, ← all.symm.trans zero]

/-- A whole pass, from the window on RX to the wakeup. -/
theorem processRxAndMaintainIo_meets
    (idle : Idle own)
    (near :
      floor.completed ≤
        own.completionTaken + 2 ^ config.completionOrder.val) :
    Meets (workerSetting config rewrite admits false floor)
      (· = own)
      (Receiver.processRxAndMaintainIo config
        (Main.strategy config rewrite)
        (Transmitter.publishAndServiceTx config))
      (fun amount after => Passed config floor own amount after) := by
  refine Meets.bind _ rxWindow_meets ?_
  rintro window _ ⟨seen, rfl, start, known⟩
  refine Meets.bind _
    (batch_meets { idle with } start known) ?_
  rintro _ _ ⟨transmitter, free, handed, rfl⟩
  refine Meets.bind _ (release_meets rfl) ?_
  rintro _ _ rfl
  refine Meets.bind _
    (publishAndServiceTx_meets
      (by exact idle.completionDone) (by exact idle.current)
      (by exact idle.sendtoNoted) near) ?_
  rintro _ _ ⟨⟨taken, completionSeen, reclaimed, serviced, calls, rfl,
    unused, closed, _, completed⟩, _⟩
  refine Meets.bind _
    (maintainFill_meets (by exact idle.fillWindow)) ?_
  rintro pushed _ ⟨length, fillSeen, left, refills, rfl, filled⟩
  refine Meets.bind _
    (maintainRx_meets (by exact idle.recvfromNoted)) ?_
  rintro _ _ ⟨rxCalls, first, rfl⟩
  exact Meets.done
    { rxDone := rfl
      completionDone := idle.completionDone
      fillWindow := idle.fillWindow
      hand := idle.hand
      current := idle.current
      txUsed := unused
      reserved := closed
      sendtoNoted := rfl
      recvfromNoted := rfl
      rxTaken := rfl
      packetsReceived := rfl
      completed := completed
      filled := filled }

/-- Between two turns all packets of the finished passes are counted. -/
structure Between (own : Own) : Prop extends Idle own where
  counted :
    own.receiver.packetsReceived = UInt64.ofNat own.rxTaken

/-- The packets of the pass are counted. -/
theorem countReceived_meets
    {processed : UInt32} :
    Meets (workerSetting config rewrite admits direct floor)
      (· = own) (Prog.update (Receiver.countReceived processed))
      (fun _ after =>
        after =
          { own with
            receiver :=
              { own.receiver with
                packetsReceived :=
                  own.receiver.packetsReceived +
                    processed.toUInt64 } }) := by
  refine Meets.update ?_
  rintro world core _ rfl
  exact ⟨.countReceived world processed, rfl⟩

/-- Counting a batch in 64 bits. -/
theorem ofNat_add_toUInt64 (count : Nat) (amount : UInt32) :
    UInt64.ofNat (count + amount.toNat) =
      UInt64.ofNat count + amount.toUInt64 := by
  have small := amount.toNat_lt
  have same : UInt64.ofNat amount.toNat = amount.toUInt64 := by
    apply UInt64.toNat_inj.mp
    rw [UInt32.toNat_toUInt64,
      UInt64.toNat_ofNat_of_lt' (by rw [UInt64.size]; omega)]
  rw [UInt64.ofNat_add, same]

/-- A turn of the worker begins and ends between passes. -/
theorem workerTurn_meets
    (between : Between own)
    (near :
      floor.completed ≤
        own.completionTaken + 2 ^ config.completionOrder.val) :
    Meets (workerSetting config rewrite admits false floor)
      (· = own) (Main.workerTurn config rewrite)
      (fun _ after => Between after) := by
  refine Meets.bind _
    (processRxAndMaintainIo_meets between.toIdle near) ?_
  intro processed middle passed
  have counted :
      middle.receiver.packetsReceived + processed.toUInt64 =
        UInt64.ofNat middle.rxTaken := by
    rw [passed.packetsReceived, between.counted, passed.rxTaken,
      ofNat_add_toUInt64]
  refine Meets.when ?_ ?_
  · intro _
    refine countReceived_meets.weaken ?_
    rintro _ _ rfl
    exact
      { passed.toIdle with
        counted := counted }
  · intro none
    have zero : processed = 0 := by simpa using none
    rw [zero] at counted
    exact
      { passed.toIdle with
        counted := by simpa using counted }

/-! ## Startup and shutdown -/

/-- The first wakeup is printed, not counted. -/
theorem printInitialWakeup_meets
    (first : own.recvfromNoted = 0)
    (unset : own.receiver.firstWakeupError = 0) :
    Meets (workerSetting config rewrite admits direct floor)
      (· = own) (Prog.update Main.printInitialWakeup)
      (fun _ after =>
        after =
          { own with
            recvfromNoted := own.wakeups.recvfromCalls }) := by
  refine Meets.update ?_
  rintro world core _ rfl
  exact ⟨.printInitialWakeup first unset, rfl⟩

/-- The startup ends between passes. -/
theorem startup_meets
    (between : Between own)
    (first : own.recvfromNoted = 0)
    (unset : own.receiver.firstWakeupError = 0) :
    Meets (workerSetting config rewrite admits direct floor)
      (· = own) (Main.startup config)
      (fun _ after => Between after) := by
  refine Meets.bind _ (refillFill_meets between.fillWindow) ?_
  rintro pushed _ ⟨seen, free, rfl, _⟩
  refine Meets.bind _
    (requestRxProgress_meets (by exact between.recvfromNoted)) ?_
  rintro result _ ⟨calls, rfl, _⟩
  refine (printInitialWakeup_meets
    (by exact first) (by exact unset)).weaken ?_
  rintro _ _ rfl
  exact { between with recvfromNoted := rfl }

/-- The summary is written, and nothing else. -/
theorem summarize_meets
    {remaining : UInt32}
    (between : Between own)
    (drained : remaining = own.transmitter.outstanding) :
    Meets (workerSetting config rewrite admits direct floor)
      (· = own) (Prog.update (Main.summarize remaining))
      (fun _ after => after = own) := by
  refine Meets.update ?_
  rintro world core _ rfl
  exact ⟨.summarize drained between.current between.txUsed
    between.rxDone between.counted, rfl⟩

/-- The shutdown ends between passes. -/
theorem shutdown_meets
    {beforeDeadline : List Bool}
    (between : Between own)
    (near :
      floor.completed ≤
        own.completionTaken + 2 ^ config.completionOrder.val) :
    Meets (workerSetting config rewrite admits direct floor)
      (· = own) (Main.shutdown config beforeDeadline)
      (fun _ after => Between after) := by
  refine Meets.bind _
    (drainUntil_meets between.completionDone between.current
      between.sendtoNoted near) ?_
  rintro remaining middle ⟨serviced, drained⟩
  have still : Between middle := by
    obtain ⟨_, _, _, _, _, rfl, unused, closed, _⟩ := serviced
    exact
      { between with
        txUsed := unused
        reserved := closed
        sendtoNoted := rfl }
  refine (summarize_meets still drained).weaken ?_
  rintro _ _ rfl
  exact still

end Functions

end AfXdp
