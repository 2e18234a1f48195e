import AfXdp.Worker

namespace AfXdp

open Interleaving
open SequenceIndex

/-!
# Who owns which frame

The invariant of the packet path.  Every frame is in exactly one place, the
rings and their windows are in order, the TX accounting is exact, and the
bytes of every packet in flight are the ones its history records.

This module states the invariant and shows that the kernel's steps keep it.
-/

namespace World

/-- RX entries that the worker has not taken yet. -/
def rxPending (world : World) : List XdpDesc :=
  world.rx.log.drop (world.rx.taken + world.aux.rxDone)

/-- Completion entries whose frames the worker has not freed yet. -/
def completionPending (world : World) : List UInt64 :=
  world.completion.log.drop
    (world.completion.taken + world.aux.completionDone)

/-- Descriptors that were sent and that the kernel has not consumed. -/
def txPending (world : World) : List Packet :=
  world.aux.sendLog.drop world.tx.taken

/-- Descriptors that are staged and not published. -/
def txStaged (world : World) : List XdpDesc :=
  (world.aux.sendLog.drop world.tx.log.length).map Prod.fst

/-- RX packets that the worker has not taken yet, as they were delivered. -/
def rxPackets (world : World) : List Packet :=
  world.kernel.delivered.drop (world.rx.taken + world.aux.rxDone)

/-- The frame of every entry of every place, one place after the other. -/
def roster (config : Config) (world : World) : List UInt64 :=
  world.allocator.frames ++
    world.aux.fillWindow ++
    world.fill.pending ++
    world.kernel.rxHeld ++
    world.rxPending.map (XdpDesc.base config.frameSize) ++
    world.aux.hand.map (fun packet => packet.1.base config.frameSize) ++
    world.txPending.map
      (fun packet => packet.1.base config.frameSize) ++
    world.kernel.txHeld.map (XdpDesc.base config.frameSize) ++
    world.completionPending.map (frameBase config.frameSize)

end World

/--
The TX window.  Everything sent is published or staged, the staged
descriptors are in the slots after the published ones, and an open window
starts at the producer index.
-/
structure TxWindow
    (order : Nat)
    (tx : Channel XdpDesc)
    (transmitter : Transmitter)
    (sendLog : List Packet) : Prop where
  published :
    (sendLog.take tx.log.length).map Prod.fst = tx.log
  used :
    sendLog.length = tx.log.length + transmitter.txUsed.toNat
  staged :
    Channel.Staged order tx.seen tx
      ((sendLog.drop tx.log.length).map Prod.fst)
  start :
    transmitter.reserved = true →
    transmitter.txStart = stored tx.log.length
  fits :
    transmitter.reserved = true →
    transmitter.txUsed.toNat ≤ transmitter.txAvail.toNat ∧
      tx.log.length + transmitter.txAvail.toNat ≤
        tx.seen + 2 ^ order
  closed :
    transmitter.reserved = false →
    transmitter.txUsed = 0

/-- The bytes in memory are the ones that the packet had. -/
def Intact (memory : Memory) (packet : Packet) : Prop :=
  packet.1.bytes memory = packet.2

/-- The invariant of the packet path. -/
structure Core (config : Config) (world : World) : Prop where
  rx :
    Channel.Consuming config.rxOrder.val world.rx
  completion :
    Channel.Consuming config.completionOrder.val world.completion
  tx :
    Channel.Producing config.txOrder.val world.tx
  fill :
    Channel.Producing config.fillOrder.val world.fill
  rxDone :
    world.rx.taken + world.aux.rxDone ≤ world.rx.seen
  completionDone :
    world.completion.taken + world.aux.completionDone ≤
      world.completion.seen
  fillWindow :
    Channel.Staged config.fillOrder.val world.fill.seen
      world.fill world.aux.fillWindow
  txWindow :
    TxWindow config.txOrder.val
      world.tx world.transmitter world.aux.sendLog
  partition :
    ∀ frame,
      (world.roster config).count frame = config.frames.count frame
  outstanding :
    world.transmitter.outstanding.toNat =
      world.tx.pending.length +
        world.kernel.txHeld.length +
        world.completion.pending.length
  delivered :
    world.kernel.delivered.map Prod.fst = world.rx.log
  handed :
    world.aux.handed =
      world.kernel.delivered.take
        (world.rx.taken + world.aux.rxDone)
  transmitted :
    world.kernel.transmitted =
      world.aux.sendLog.take world.tx.taken
  inside :
    ∀ packet,
      packet ∈ world.rxPackets ++ world.aux.hand ++ world.txPending →
      packet.1.Inside config.frameSize
  intact :
    ∀ packet,
      packet ∈ world.rxPackets ++ world.aux.hand ++ world.txPending →
      Intact world.memory packet
  allocatorCapacity :
    world.allocator.capacity = config.capacity
  asserts :
    world.aux.assertsHeld = true

namespace Core

variable {config : Config} {world : World}

/-! ## Consequences of the partition -/

/-- Only frames of the pool are in circulation. -/
theorem mem_frames
    (core : Core config world)
    {frame : UInt64}
    (member : frame ∈ world.roster config) :
    frame ∈ config.frames := by
  have positive := List.count_pos_iff.mpr member
  rw [core.partition] at positive
  exact List.count_pos_iff.mp positive

/-- No frame is in two places, or twice in one. -/
theorem count_le_one
    (core : Core config world)
    (frame : UInt64) :
    (world.roster config).count frame ≤ 1 := by
  rw [core.partition]
  exact List.nodup_iff_count_le_one.mp
    (frameOffsets_nodup config.frameOrder.isLt config.numFrames) frame

/-- Frames in circulation are aligned. -/
theorem aligned
    (core : Core config world)
    {frame : UInt64}
    (member : frame ∈ world.roster config) :
    frameBase config.frameSize frame = frame :=
  frameBase_of_mem config.frameOrder.isLt (core.mem_frames member)

/-- The RX packets not yet taken are the RX entries not yet taken. -/
theorem rxPackets_fst (core : Core config world) :
    world.rxPackets.map Prod.fst = world.rxPending := by
  rw [World.rxPackets, World.rxPending, ← core.delivered,
    List.map_drop]

/-- The frame of a packet in flight is not one the kernel holds for RX. -/
theorem packet_apart
    (core : Core config world)
    {packet : Packet}
    (member :
      packet ∈ world.rxPackets ++ world.aux.hand ++ world.txPending)
    {frame : UInt64}
    (held : frame ∈ world.kernel.rxHeld) :
    packet.1.base config.frameSize ≠ frame := by
  intro same
  have once := core.count_le_one frame
  have inKernel := List.count_pos_iff.mpr held
  have inFlight :
      0 <
        (world.rxPending.map
          (XdpDesc.base config.frameSize)).count frame +
        (world.aux.hand.map fun held =>
          held.1.base config.frameSize).count frame +
        (world.txPending.map fun sent =>
          sent.1.base config.frameSize).count frame := by
    subst same
    simp only [List.mem_append] at member
    rcases member with (inRx | inHand) | inTx
    · have inPending : packet.1 ∈ world.rxPending := by
        rw [← core.rxPackets_fst]
        exact List.mem_map_of_mem inRx
      have positive :=
        List.count_pos_iff.mpr
          (List.mem_map_of_mem (f := XdpDesc.base config.frameSize)
            inPending)
      omega
    · have positive :=
        List.count_pos_iff.mpr
          (List.mem_map_of_mem
            (f := fun held : Packet => held.1.base config.frameSize)
            inHand)
      omega
    · have positive :=
        List.count_pos_iff.mpr
          (List.mem_map_of_mem
            (f := fun sent : Packet => sent.1.base config.frameSize)
            inTx)
      omega
  simp only [World.roster, List.count_append] at once
  omega

end Core

/-! ## The kernel's steps -/

namespace Core

variable {config : Config} {world : World}

/-- Taking a Fill entry moves its frame to the kernel. -/
theorem takeFill
    (core : Core config world)
    (nonempty : world.fill.ring.occupancy ≠ 0) :
    Core config (KernelStep.effect config world .takeFill) := by
  have occupied := core.fill.occupied_of_ne nonempty
  rw [KernelStep.effect, core.fill.descAt_consumer occupied]
  refine
    { core with
      fill := core.fill.peerConsume occupied
      fillWindow := core.fillWindow.peerConsume 1
      partition := ?_ }
  intro frame
  have before := core.partition frame
  simp only [World.roster, Channel.pending_cons occupied,
    List.count_append, List.count_cons] at before
  simp only [World.roster, Channel.pending, Channel.peerConsume,
    List.count_append, List.count_cons, World.rxPending,
    World.txPending, World.completionPending] at before ⊢
  omega

/-- Publishing on RX moves a held frame to the RX ring. -/
theorem deliver
    (core : Core config world)
    {desc : XdpDesc}
    (held : desc.base config.frameSize ∈ world.kernel.rxHeld)
    (inside : desc.Inside config.frameSize)
    (room : world.rx.ring.occupancy < world.rx.ring.numDescs) :
    Core config
      (KernelStep.effect config world (.deliver desc)) := by
  obtain ⟨consuming, log⟩ :=
    core.rx.peerPut (core.rx.room_of_lt room) desc
  have window := core.rxDone
  have stale := core.rx.stale
  have lengths := congrArg List.length core.delivered
  rw [List.length_map] at lengths
  have inLog :
      world.rx.taken + world.aux.rxDone ≤ world.rx.log.length := by
    omega
  have inDelivered :
      world.rx.taken + world.aux.rxDone ≤
        world.kernel.delivered.length := by
    omega
  have packets :
      (world.kernel.delivered ++
          [(desc, desc.bytes world.memory)]).drop
          (world.rx.taken + world.aux.rxDone) =
        world.rxPackets ++ [(desc, desc.bytes world.memory)] :=
    List.drop_append_of_le_length inDelivered
  have arrived :
      ∀ packet,
        packet ∈
          world.rxPackets ++ [(desc, desc.bytes world.memory)] ++
            world.aux.hand ++ world.txPending →
        packet ∈
            world.rxPackets ++ world.aux.hand ++ world.txPending ∨
          packet = (desc, desc.bytes world.memory) := by
    intro packet member
    simp only [List.mem_append, List.mem_singleton] at member ⊢
    tauto
  rw [KernelStep.effect]
  refine
    { core with
      rx := consuming
      partition := ?_
      delivered := ?_
      handed := ?_
      inside := ?_
      intact := ?_ }
  · intro frame
    have before := core.partition frame
    have erased := (List.perm_cons_erase held).count_eq frame
    simp only [World.roster, World.rxPending, World.txPending,
      World.completionPending, log, List.count_append,
      List.count_cons] at before erased ⊢
    have sameTaken : (world.rx.peerPut desc).taken = world.rx.taken :=
      rfl
    simp only [sameTaken, List.drop_append_of_le_length inLog,
      List.map_append, List.map_cons, List.map_nil,
      List.count_append, List.count_cons, List.count_nil]
    omega
  · rw [log, List.map_append, core.delivered]
    rfl
  · exact core.handed.trans
      (List.take_append_of_le_length inDelivered).symm
  · intro packet member
    have cases := arrived packet (packets ▸ member)
    rcases cases with old | rfl
    · exact core.inside packet old
    · exact inside
  · intro packet member
    have cases := arrived packet (packets ▸ member)
    rcases cases with old | rfl
    · exact core.intact packet old
    · rfl

/-- The descriptor that the kernel consumes next is the next one sent. -/
theorem next_sent
    (core : Core config world)
    (occupied : world.tx.taken < world.tx.log.length) :
    ∃ bytes,
      world.aux.sendLog[world.tx.taken]? =
        some (world.tx.log[world.tx.taken], bytes) := by
  have used := core.txWindow.used
  have sent : world.tx.taken < world.aux.sendLog.length := by omega
  have entry :
      world.aux.sendLog[world.tx.taken].1 =
        world.tx.log[world.tx.taken] := by
    have published := core.txWindow.published
    simp only [List.map_take] at published
    have atTaken := congrArg (·[world.tx.taken]?) published
    simpa [List.getElem?_take, occupied, sent] using atTaken
  refine ⟨world.aux.sendLog[world.tx.taken].2, ?_⟩
  rw [← entry]
  exact List.getElem?_eq_getElem sent

/-- Consuming a TX descriptor moves its frame to the kernel. -/
theorem takeTx
    (core : Core config world)
    (nonempty : world.tx.ring.occupancy ≠ 0) :
    Core config (KernelStep.effect config world .takeTx) := by
  have occupied := core.tx.occupied_of_ne nonempty
  obtain ⟨bytes, sent⟩ := core.next_sent occupied
  obtain ⟨inSendLog, entry⟩ := List.getElem?_eq_some_iff.mp sent
  have pending :
      world.txPending =
        (world.tx.log[world.tx.taken], bytes) ::
          world.aux.sendLog.drop (world.tx.taken + 1) := by
    rw [World.txPending, List.drop_eq_getElem_cons inSendLog, entry]
  have stillPending :
      ∀ packet,
        packet ∈
          world.rxPackets ++ world.aux.hand ++
            world.aux.sendLog.drop (world.tx.taken + 1) →
        packet ∈
          world.rxPackets ++ world.aux.hand ++ world.txPending := by
    intro packet member
    rw [pending]
    simp only [List.mem_append, List.mem_cons] at member ⊢
    tauto
  have bytesNow :
      (world.tx.log[world.tx.taken]).bytes world.memory = bytes :=
    core.intact (world.tx.log[world.tx.taken], bytes)
      (by simp [pending])
  simp only [KernelStep.effect, core.tx.descAt_consumer occupied,
    bytesNow]
  refine
    { core with
      tx := core.tx.peerConsume occupied
      txWindow :=
        { core.txWindow with
          staged := core.txWindow.staged.peerConsume 1 }
      partition := ?_
      outstanding := ?_
      transmitted := ?_
      inside := fun packet member =>
        core.inside packet (stillPending packet member)
      intact := fun packet member =>
        core.intact packet (stillPending packet member) }
  · intro frame
    have before := core.partition frame
    simp only [World.roster, pending, List.map_cons,
      List.count_append, List.count_cons] at before
    simp only [World.roster, World.txPending, Channel.peerConsume,
      List.map_cons, List.count_append, List.count_cons,
      World.rxPending, World.completionPending] at before ⊢
    omega
  · have before := core.outstanding
    rw [Channel.pending_cons occupied] at before
    simp only [Channel.pending, Channel.peerConsume,
      List.length_cons] at before ⊢
    omega
  · change
      world.kernel.transmitted ++
          [(world.tx.log[world.tx.taken], bytes)] =
        world.aux.sendLog.take (world.tx.taken + 1)
    rw [core.transmitted, List.take_add_one, sent]
    rfl

/-- Publishing on Completion gives a consumed frame back. -/
theorem complete
    (core : Core config world)
    {desc : XdpDesc}
    (held : desc ∈ world.kernel.txHeld)
    (room :
      world.completion.ring.occupancy <
        world.completion.ring.numDescs) :
    Core config
      (KernelStep.effect config world (.complete desc)) := by
  obtain ⟨consuming, log⟩ :=
    core.completion.peerPut (core.completion.room_of_lt room) desc.addr
  have window := core.completionDone
  have stale := core.completion.stale
  have ordered := core.completion.ordered
  have inLog :
      world.completion.taken + world.aux.completionDone ≤
        world.completion.log.length := by
    omega
  have sameTaken :
      (world.completion.peerPut desc.addr).taken =
        world.completion.taken :=
    rfl
  rw [KernelStep.effect]
  refine
    { core with
      completion := consuming
      partition := ?_
      outstanding := ?_ }
  · intro frame
    have before := core.partition frame
    have erased :
        (world.kernel.txHeld.map
            (XdpDesc.base config.frameSize)).count frame =
          ((desc :: world.kernel.txHeld.erase desc).map
            (XdpDesc.base config.frameSize)).count frame :=
      ((List.perm_cons_erase held).map _).count_eq frame
    simp only [World.roster, World.rxPending, World.txPending,
      World.completionPending, log, sameTaken,
      List.drop_append_of_le_length inLog, List.map_append,
      List.map_cons, List.map_nil, List.count_append,
      List.count_cons, List.count_nil, XdpDesc.base]
      at before erased ⊢
    omega
  · have before := core.outstanding
    have erased := (List.perm_cons_erase held).length_eq
    simp only [Channel.pending, log, sameTaken, List.length_drop,
      List.length_append, List.length_cons, List.length_nil]
      at before erased ⊢
    omega

/-- The kernel's writes reach no packet in flight. -/
theorem dma
    (core : Core config world)
    {frame : UInt64}
    {offset : Nat}
    {bytes : List UInt8}
    (held : frame ∈ world.kernel.rxHeld)
    (within :
      offset + bytes.length ≤ config.frameSize.toNat) :
    Core config
      (KernelStep.effect config world (.dma frame offset bytes)) := by
  have aligned : frameBase config.frameSize frame = frame :=
    core.aligned (by simp [World.roster, held])
  rw [Config.frameSize, toNat_stored_two_pow config.frameOrder.isLt]
    at within
  have inFrame :
      frame.toNat + offset + bytes.length ≤
        frame.toNat + 2 ^ config.frameOrder.val := by
    omega
  refine { core with intact := ?_ }
  intro packet member
  have unchanged :=
    XdpDesc.bytes_overwrite config.frameOrder.isLt
      (core.inside packet member) aligned
      (core.packet_apart member held)
      (Nat.le_add_right _ offset) inFrame world.memory
  exact unchanged.trans (core.intact packet member)

/-- The invariant survives every step of the kernel. -/
theorem kernelStep
    {admits : List UInt8 → Bool}
    {step : KernelStep}
    {after : World}
    (core : Core config world)
    (performed : step.perform config admits world = some after) :
    Core config after := by
  obtain ⟨allowed, rfl⟩ := KernelStep.perform_eq_some.mp performed
  cases step with
  | takeFill =>
      exact core.takeFill allowed
  | deliver desc =>
      exact core.deliver allowed.1 allowed.2.1 allowed.2.2.1
  | takeTx =>
      exact core.takeTx allowed
  | complete desc =>
      exact core.complete allowed.1 allowed.2
  | dma frame offset bytes =>
      exact core.dma allowed.1 allowed.2
  | setTxFlags flags =>
      exact
        { core with
          tx := { core.tx with }
          txWindow :=
            { core.txWindow with
              staged := { core.txWindow.staged with } } }
  | setFillFlags flags =>
      exact
        { core with
          fill := { core.fill with }
          fillWindow := { core.fillWindow with } }

end Core

end AfXdp
