import AfXdp.Ownership

namespace AfXdp

open Interleaving
open SequenceIndex

/-!
# The worker's atomic steps

Which atomic steps the worker's code takes and under which conditions on its
own state, as one relation.  Every one of them keeps the invariant of the
packet path.  That the code takes no other steps is shown function by function
later; facts about whole runs need only the relation.
-/

/-- Classifying a wakeup touches the two error fields only. -/
theorem Transmitter.classifyWakeup_eq
    (transmitter : Transmitter)
    (result : Option Errno) :
    ∃ retryable first,
      transmitter.classifyWakeup result =
        { transmitter with
          retryableWakeupErrors := retryable
          firstWakeupError := first } := by
  cases result with
  | none =>
      exact ⟨_, _, rfl⟩
  | some error =>
      rw [Transmitter.classifyWakeup]
      split
      · exact ⟨_, _, rfl⟩
      · split
        · exact ⟨_, _, rfl⟩
        · exact ⟨_, _, rfl⟩

/-- Classifying a wakeup touches the error field only. -/
theorem Receiver.classifyWakeup_eq
    (receiver : Receiver)
    (result : Option Errno) :
    ∃ first,
      receiver.classifyWakeup result =
        { receiver with firstWakeupError := first } := by
  cases result with
  | none =>
      exact ⟨_, rfl⟩
  | some error =>
      rw [Receiver.classifyWakeup]
      split
      · exact ⟨_, rfl⟩
      · exact ⟨_, rfl⟩

/-- Nothing is staged unless the count says so. -/
theorem Transmitter.txUsed_eq_zero
    {transmitter : Transmitter}
    (unused : ¬ transmitter.txUsed > 0) :
    transmitter.txUsed = 0 := by
  apply UInt32.toNat_inj.mp
  simp only [gt_iff_lt, UInt32.lt_iff_toNat_lt,
    UInt32.toNat_zero] at unused ⊢
  omega

/-! ## Steps with branches -/

section Branches

variable {motive : World → Prop}
variable {world : World}

/-- The two branches of an entry of Fill: the pool is empty, or not. -/
@[elab_as_elim] theorem Xsk.fillPush_branches
    {index : UInt32}
    (empty : motive world)
    (pushed :
      ∀ frame allocator,
        motive
          { world with
            allocator := allocator
            fill := world.fill.setDescAt index frame
            aux :=
              { world.aux with
                fillWindow := world.aux.fillWindow ++ [frame] } }) :
    motive (Xsk.fillPush index world).2 := by
  rw [Xsk.fillPush]
  split
  · exact empty
  · next frame allocator _ =>
      exact pushed frame allocator

/-- The two branches of `reserve`: there is a window, or one is opened. -/
@[elab_as_elim] theorem Transmitter.reserve_branches
    (reserved : motive world)
    (started :
      motive
        { world with
          tx := (world.tx.writableRange world.tx.ring.capacity).2
          transmitter :=
            { world.transmitter with
              txAvail :=
                (world.tx.writableRange
                  world.tx.ring.capacity).1.amount
              txStart :=
                (world.tx.writableRange
                  world.tx.ring.capacity).1.start
              txUsed := 0
              reserved := true } }) :
    motive (Transmitter.reserve world) := by
  rw [Transmitter.reserve]
  split
  · exact reserved
  · exact started

/-- The two branches of `refresh`: there is room, or the ring is asked. -/
@[elab_as_elim] theorem Transmitter.refresh_branches
    (left : motive world)
    (asked :
      motive
        { world with
          tx := (world.tx.writableRange world.tx.ring.capacity).2
          transmitter :=
            { world.transmitter with
              txAvail :=
                (world.tx.writableRange
                  world.tx.ring.capacity).1.amount } }) :
    motive (Transmitter.refresh world).2 := by
  rw [Transmitter.refresh]
  split
  · exact asked
  · exact left

/-- A window that is not used up after the second query has slots left. -/
theorem Transmitter.refresh_ne
    (notFull : (Transmitter.refresh world).1 = false) :
    (Transmitter.refresh world).2.transmitter.txUsed.toNat ≠
      (Transmitter.refresh world).2.transmitter.txAvail.toNat := by
  intro same
  have usedUp := UInt32.toNat_inj.mp same
  rw [Transmitter.refresh] at notFull usedUp
  split at notFull
  · next asked =>
      rw [if_pos asked] at usedUp
      exact of_decide_eq_false notFull usedUp
  · next left =>
      rw [if_neg left] at usedUp
      exact left usedUp

/-- The two branches of the publication: something is staged, or nothing. -/
@[elab_as_elim] theorem Transmitter.publishStaged_branches
    (staged :
      world.transmitter.txUsed > 0 →
      motive
        { world with
          tx :=
            world.tx.publishWrittenEntries world.transmitter.txUsed
          transmitter :=
            { world.transmitter with
              outstanding :=
                world.transmitter.outstanding +
                  world.transmitter.txUsed
              framesSubmitted :=
                world.transmitter.framesSubmitted +
                  world.transmitter.txUsed.toUInt64
              txUsed := 0
              reserved := false } })
    (nothing :
      ¬ world.transmitter.txUsed > 0 →
      motive
        { world with
          transmitter :=
            { world.transmitter with
              txUsed := 0
              reserved := false } }) :
    motive (Transmitter.publishStaged world) := by
  rw [Transmitter.publishStaged]
  split
  · next used =>
      exact staged used
  · next unused =>
      exact nothing unused

end Branches

/-! ## The TX window -/

namespace TxWindow

variable {order : Nat}
variable {tx : Channel XdpDesc}
variable {transmitter : Transmitter}
variable {sendLog : List Packet}

/-- `tx_used_` counts what is staged. -/
theorem staged_length
    (window : TxWindow order tx transmitter sendLog) :
    ((sendLog.drop tx.log.length).map Prod.fst).length =
      transmitter.txUsed.toNat := by
  rw [List.length_map, List.length_drop, window.used]
  omega

/-- The index that `send_in_place` writes is behind everything staged. -/
theorem next_index
    (window : TxWindow order tx transmitter sendLog)
    (isOpen : transmitter.reserved = true) :
    transmitter.txStart + transmitter.txUsed =
      stored
        (tx.log.length +
          ((sendLog.drop tx.log.length).map Prod.fst).length) := by
  rw [window.start isOpen, window.staged_length, stored_add]

/-- An open window that is not used up has room for one more entry. -/
theorem room_for_one
    (window : TxWindow order tx transmitter sendLog)
    (isOpen : transmitter.reserved = true)
    (room : transmitter.txUsed.toNat < transmitter.txAvail.toNat) :
    tx.log.length +
        ((sendLog.drop tx.log.length).map Prod.fst).length <
      tx.seen + 2 ^ order := by
  have fits := window.fits isOpen
  rw [window.staged_length]
  omega

/-- Asking for a window opens one at the producer index. -/
theorem reserve
    (window : TxWindow order tx transmitter sendLog)
    (producing : Channel.Producing order tx)
    (isClosed : transmitter.reserved = false) :
    TxWindow order (tx.writableRange tx.ring.capacity).2
      { transmitter with
        txAvail := (tx.writableRange tx.ring.capacity).1.amount
        txStart := (tx.writableRange tx.ring.capacity).1.start
        txUsed := 0
        reserved := true }
      sendLog := by
  have unused := window.closed isClosed
  have used := window.used
  rw [unused] at used
  exact
    { published := window.published
      used := used
      staged := producing.writableRange_staged window.staged _
      start := fun _ => producing.writableRange_start tx.ring.capacity
      fits := fun _ =>
        ⟨Nat.zero_le _, producing.writableRange_fits tx.ring.capacity⟩
      closed := fun _ => rfl }

/-- Asking again never shrinks an open window below what is staged. -/
theorem refresh
    (window : TxWindow order tx transmitter sendLog)
    (producing : Channel.Producing order tx)
    (isOpen : transmitter.reserved = true) :
    TxWindow order (tx.writableRange tx.ring.capacity).2
      { transmitter with
        txAvail := (tx.writableRange tx.ring.capacity).1.amount }
      sendLog := by
  have fits := window.fits isOpen
  have granted :
      tx.log.length + transmitter.txUsed.toNat ≤
        tx.seen + 2 ^ order := by
    omega
  exact
    { window with
      staged := producing.writableRange_staged window.staged _
      fits := fun _ =>
        ⟨producing.le_writableRange_amount granted,
          producing.writableRange_fits tx.ring.capacity⟩ }

/-- A window in which nothing is staged may be given up. -/
theorem close
    (window : TxWindow order tx transmitter sendLog)
    (unused : transmitter.txUsed = 0) :
    TxWindow order tx
      { transmitter with
        txUsed := 0
        reserved := false }
      sendLog := by
  have used := window.used
  rw [unused] at used
  exact
    { window with
      used := used
      start := fun isOpen => by cases isOpen
      fits := fun isOpen => by cases isOpen
      closed := fun _ => rfl }

/-- One more entry is staged. -/
theorem stage
    (window : TxWindow order tx transmitter sendLog)
    (producing : Channel.Producing order tx)
    (isOpen : transmitter.reserved = true)
    (room : transmitter.txUsed.toNat < transmitter.txAvail.toNat)
    (packet : Packet) :
    TxWindow order
      (tx.setDescAt
        (stored
          (tx.log.length +
            ((sendLog.drop tx.log.length).map Prod.fst).length))
        packet.1)
      { transmitter with txUsed := transmitter.txUsed + 1 }
      (sendLog ++ [packet]) := by
  have fits := window.fits isOpen
  have used := window.used
  have roomAtEnd := window.room_for_one isOpen room
  have count :
      (transmitter.txUsed + 1).toNat =
        transmitter.txUsed.toNat + 1 := by
    have bound := transmitter.txAvail.toNat_lt
    rw [UInt32.toNat_add, UInt32.toNat_one, Nat.mod_eq_of_lt]
    omega
  refine
    { published := ?_
      used := ?_
      staged := ?_
      start := window.start
      fits := ?_
      closed := ?_ }
  · change
      ((sendLog ++ [packet]).take tx.log.length).map Prod.fst = tx.log
    rw [List.take_append_of_le_length (by omega)]
    exact window.published
  · change
      (sendLog ++ [packet]).length =
        tx.log.length + (transmitter.txUsed + 1).toNat
    rw [List.length_append, List.length_singleton, count]
    omega
  · change
      Channel.Staged _ tx.seen _
        (((sendLog ++ [packet]).drop tx.log.length).map Prod.fst)
    rw [List.drop_append_of_le_length (by omega), List.map_append]
    exact window.staged.push producing.toLinked roomAtEnd packet.1
  · intro _
    change
      (transmitter.txUsed + 1).toNat ≤ transmitter.txAvail.toNat ∧ _
    rw [count]
    exact ⟨room, fits.2⟩
  · intro isClosed
    change transmitter.reserved = false at isClosed
    rw [isOpen] at isClosed
    cases isClosed

/-- Publishing makes everything staged visible. -/
theorem publish_log
    (window : TxWindow order tx transmitter sendLog)
    (producing : Channel.Producing order tx) :
    (tx.publishWrittenEntries transmitter.txUsed).log =
      tx.log ++ (sendLog.drop tx.log.length).map Prod.fst := by
  have length := window.staged_length
  have log :=
    producing.publishWrittenEntries_log window.staged
      (Nat.le_of_eq length.symm)
  rwa [← length, List.take_length] at log

/-- Everything that was accepted is then on the ring. -/
theorem publish_length
    (window : TxWindow order tx transmitter sendLog)
    (producing : Channel.Producing order tx) :
    (tx.publishWrittenEntries transmitter.txUsed).log.length =
      sendLog.length := by
  rw [window.publish_log producing, List.length_append,
    window.staged_length, window.used]

/-- The ring is again one that is produced into. -/
theorem publish_producing
    (window : TxWindow order tx transmitter sendLog)
    (producing : Channel.Producing order tx) :
    Channel.Producing order
      (tx.publishWrittenEntries transmitter.txUsed) :=
  producing.publishWrittenEntries window.staged
    (Nat.le_of_eq window.staged_length.symm)

/-- After a publication the window is closed and nothing is staged. -/
theorem publish
    (window : TxWindow order tx transmitter sendLog)
    (producing : Channel.Producing order tx)
    {after : Transmitter}
    (unused : after.txUsed = 0)
    (isClosed : after.reserved = false) :
    TxWindow order (tx.publishWrittenEntries transmitter.txUsed)
      after sendLog := by
  have used := window.used
  have log := window.publish_log producing
  have logLength := window.publish_length producing
  have kept := window.publish_producing producing
  refine
    { published := ?_
      used := ?_
      staged := ?_
      start := ?_
      fits := ?_
      closed := fun _ => unused }
  · rw [logLength, List.take_length, log, ← window.published,
      List.length_map, List.length_take_of_le (by omega),
      ← List.map_append, List.take_append_drop]
  · rw [unused, logLength]
    rfl
  · rw [logLength, List.drop_length]
    exact .nil kept.stale kept.window
  · intro isOpen
    rw [isClosed] at isOpen
    cases isOpen
  · intro isOpen
    rw [isClosed] at isOpen
    cases isOpen

end TxWindow

namespace Core

variable {config : Config} {world : World}

/-! ## Small consequences of the invariant -/

/-- All frames together, counted. -/
theorem roster_length (core : Core config world) :
    (world.roster config).length = config.numFrames.toNat := by
  have permuted : (world.roster config).Perm config.frames :=
    List.perm_iff_count.mpr core.partition
  rw [permuted.length_eq, Config.frames, FrameAllocator.frameOffsets,
    List.length_map, List.length_range]

/-- A frame that is not in the allocator fits into it. -/
theorem freeAsserts
    (core : Core config world)
    (elsewhere :
      world.allocator.frames.length < (world.roster config).length) :
    world.allocator.freeAsserts = true := by
  have total := core.roster_length
  have fits := config.framesFit
  rw [FrameAllocator.freeAsserts, core.allocatorCapacity,
    decide_eq_true_iff]
  omega

/-- The RX entry at a position of the window, with the bytes it came with. -/
theorem rx_entry
    (core : Core config world)
    {position : Nat}
    (unreleased : world.rx.taken ≤ position)
    (known : position < world.rx.seen) :
    ∃ packet,
      world.kernel.delivered[position]? = some packet ∧
        world.rx.ring.descAt (stored position) = packet.1 := by
  have stale := core.rx.stale
  have lengths := congrArg List.length core.delivered
  rw [List.length_map] at lengths
  have inDelivered : position < world.kernel.delivered.length := by
    omega
  refine ⟨world.kernel.delivered[position],
    List.getElem?_eq_getElem inDelivered, ?_⟩
  apply core.rx.descAt_log unreleased
  rw [← core.delivered, List.getElem?_map,
    List.getElem?_eq_getElem inDelivered]
  rfl

/-- The Completion entry at a position of the window. -/
theorem completion_entry
    (core : Core config world)
    {position : Nat}
    (unreleased : world.completion.taken ≤ position)
    (known : position < world.completion.seen) :
    ∃ addr,
      world.completion.log[position]? = some addr ∧
        world.completion.ring.descAt (stored position) = addr := by
  have stale := core.completion.stale
  have inLog : position < world.completion.log.length := by omega
  have found := List.getElem?_eq_getElem inLog
  exact ⟨_, found, core.completion.descAt_log unreleased found⟩

/-! ## Fill -/

/-- A query of Fill reads an index. -/
theorem keeps_fillWindow (core : Core config world) :
    Core config (Xsk.fillWindow world).2 :=
  { core with
    fill := core.fill.writableRange _
    fillWindow := core.fill.writableRange_staged core.fillWindow _ }

/-- A frame goes from the pool to the open window of Fill. -/
theorem keeps_fillPush
    (core : Core config world)
    {index : UInt32}
    (atEnd :
      index =
        stored (world.fill.log.length + world.aux.fillWindow.length))
    (room :
      world.fill.log.length + world.aux.fillWindow.length <
        world.fill.seen + 2 ^ config.fillOrder.val) :
    Core config (Xsk.fillPush index world).2 := by
  subst atEnd
  rw [Xsk.fillPush, FrameAllocator.alloc]
  cases free : world.allocator.frames with
  | nil =>
      exact core
  | cons frame rest =>
      refine
        { core with
          fill := core.fill.push core.fillWindow room frame
          fillWindow :=
            core.fillWindow.push core.fill.toLinked room frame
          partition := ?_ }
      intro wanted
      have before := core.partition wanted
      simp only [World.roster, free, List.count_append,
        List.count_cons] at before
      simp only [World.roster, Channel.pending, Channel.setDescAt,
        World.rxPending, World.txPending, World.completionPending,
        List.count_append, List.count_cons, List.count_nil]
        at before ⊢
      omega

/-- The window of Fill becomes part of the ring. -/
theorem keeps_fillPublish
    (core : Core config world)
    {amount : UInt32}
    (all : amount.toNat = world.aux.fillWindow.length) :
    Core config (Xsk.fillPublish amount world) := by
  have atMost : amount.toNat ≤ world.aux.fillWindow.length := by omega
  have log :=
    core.fill.publishWrittenEntries_log core.fillWindow atMost
  have producing :=
    core.fill.publishWrittenEntries core.fillWindow atMost
  have ordered := core.fill.ordered
  rw [all, List.take_length] at log
  refine
    { core with
      fill := producing
      fillWindow := .nil producing.stale producing.window
      partition := ?_ }
  intro wanted
  have before := core.partition wanted
  have pending :
      (world.fill.publishWrittenEntries amount).pending =
        world.fill.pending ++ world.aux.fillWindow := by
    rw [Channel.pending, log]
    exact List.drop_append_of_le_length ordered
  simp only [Xsk.fillPublish, World.roster, pending,
    World.rxPending, World.txPending, World.completionPending,
    List.count_append, List.count_nil] at before ⊢
  omega

/-! ## Completion -/

/-- A query of Completion reads an index. -/
theorem keeps_completionWindow
    (core : Core config world)
    (budget : UInt32) :
    Core config (Transmitter.completionWindow budget world).2 :=
  { core with
    completion := core.completion.readableRange budget
    completionDone :=
      Nat.le_trans core.completionDone
        (core.completion.le_readableRange_seen budget) }

/-- An assertion that holds changes nothing. -/
theorem keeps_assertThat
    (core : Core config world)
    {condition : Bool}
    (holds : condition = true) :
    Core config (world.assertThat condition) :=
  { core with
    asserts := by
      simp only [World.assertThat, core.asserts, holds,
        Bool.and_self] }

/-- A completed frame goes back to the pool. -/
theorem keeps_freeCompleted
    (core : Core config world)
    {index : UInt32}
    (next :
      index =
        stored (world.completion.taken + world.aux.completionDone))
    (inWindow :
      world.completion.taken + world.aux.completionDone <
        world.completion.seen) :
    Core config (Transmitter.freeCompleted config index world) := by
  subst next
  obtain ⟨addr, found, entry⟩ :=
    core.completion_entry (Nat.le_add_right _ _) inWindow
  obtain ⟨inLog, atPosition⟩ := List.getElem?_eq_some_iff.mp found
  have pending :
      world.completionPending =
        addr ::
          world.completion.log.drop
            (world.completion.taken +
              (world.aux.completionDone + 1)) := by
    rw [World.completionPending, List.drop_eq_getElem_cons inLog,
      atPosition, Nat.add_assoc]
  have fits : world.allocator.freeAsserts = true := by
    apply core.freeAsserts
    simp only [World.roster, pending, List.map_cons,
      List.length_append, List.length_cons]
    omega
  rw [Transmitter.freeCompleted, entry]
  refine
    { core with
      completionDone := inWindow
      partition := ?_
      asserts := by simp [World.freeFrame, core.asserts, fits] }
  intro wanted
  have before := core.partition wanted
  simp only [World.roster, pending, List.map_cons,
    List.count_append, List.count_cons] at before
  simp only [World.roster, World.freeFrame, FrameAllocator.free,
    World.rxPending, World.txPending, World.completionPending,
    List.count_append, List.count_cons] at before ⊢
  omega

/-- The entries that were read go back to the kernel. -/
theorem keeps_releaseCompleted
    (core : Core config world)
    {amount : UInt32}
    (all : amount.toNat = world.aux.completionDone) :
    Core config (Transmitter.releaseCompleted amount world) := by
  have window := core.completionDone
  have stale := core.completion.stale
  have outstanding := core.outstanding
  simp only [Channel.pending, List.length_drop] at outstanding
  refine
    { core with
      completion :=
        core.completion.releaseConsumedEntries (by omega)
      completionDone := ?_
      txWindow := { core.txWindow with }
      partition := ?_
      outstanding := ?_ }
  · change world.completion.taken + amount.toNat + 0 ≤ _
    exact all ▸ window
  · intro wanted
    have before := core.partition wanted
    rw [World.roster, World.completionPending, ← all] at before
    exact before
  · have covered : amount ≤ world.transmitter.outstanding := by
      rw [UInt32.le_iff_toNat_le]
      omega
    change
      (world.transmitter.outstanding - amount).toNat =
        (world.tx.log.drop world.tx.taken).length +
          world.kernel.txHeld.length +
          (world.completion.log.drop
            (world.completion.taken + amount.toNat)).length
    rw [UInt32.toNat_sub_of_le _ _ covered, List.length_drop,
      List.length_drop]
    omega

/-! ## TX -/

/-- A rejected frame stays where it is. -/
theorem keeps_rejectFrame (core : Core config world) :
    Core config (Transmitter.rejectFrame world) :=
  { core with
    txWindow := { core.txWindow with } }

/-- A window on TX is opened. -/
theorem keeps_reserve (core : Core config world) :
    Core config (Transmitter.reserve world) := by
  rw [Transmitter.reserve]
  split
  · exact core
  · next notOpen =>
      exact
        { core with
          tx := core.tx.writableRange _
          txWindow :=
            core.txWindow.reserve core.tx (by simpa using notOpen) }

/-- An open window on TX is widened. -/
theorem keeps_refresh
    (core : Core config world)
    (isOpen : world.transmitter.reserved = true) :
    Core config (Transmitter.refresh world).2 := by
  rw [Transmitter.refresh]
  split
  · exact
      { core with
        tx := core.tx.writableRange _
        txWindow := core.txWindow.refresh core.tx isOpen }
  · exact core

/-- Giving up one frame of the hand takes it out of its place. -/
theorem count_leaveHand
    (frameSize : UInt32)
    {packet : Packet}
    (member : packet ∈ world.aux.hand)
    (wanted : UInt64) :
    (world.aux.hand.map fun held =>
        held.1.base frameSize).count wanted =
      ((world.leaveHand packet.1.addr).aux.hand.map fun held =>
          held.1.base frameSize).count wanted +
        if packet.1.base frameSize == wanted then 1 else 0 := by
  obtain ⟨left, before, after, _, sameAddr, split, erased⟩ :=
    List.exists_of_eraseP
      (p := fun held : Packet => held.1.addr = packet.1.addr)
      member (by simp)
  have sameBase :
      left.1.base frameSize = packet.1.base frameSize := by
    simp only [decide_eq_true_eq] at sameAddr
    rw [XdpDesc.base, XdpDesc.base, sameAddr]
  rw [World.leaveHand, erased, split]
  simp only [List.map_append, List.map_cons, List.count_append,
    List.count_cons, sameBase]
  omega

/-- The caller keeps its other packets. -/
theorem mem_of_mem_leaveHand
    {addr : UInt64}
    {packet : Packet}
    (member : packet ∈ (world.leaveHand addr).aux.hand) :
    packet ∈ world.aux.hand :=
  List.mem_of_mem_eraseP member

/-- The frame of a staged packet goes from the hand to TX. -/
theorem partition_stage
    (core : Core config world)
    {packet : Packet}
    (member : packet ∈ world.aux.hand)
    {sent : Packet}
    (sameBase :
      sent.1.base config.frameSize = packet.1.base config.frameSize)
    (wanted : UInt64) :
    (World.roster config
      { world with
        aux :=
          { world.aux with
            hand := (world.leaveHand packet.1.addr).aux.hand
            sendLog := world.aux.sendLog ++ [sent] } }).count wanted =
      config.frames.count wanted := by
  have before := core.partition wanted
  have left := count_leaveHand config.frameSize member wanted
  have used := core.txWindow.used
  have taken := core.tx.ordered
  simp only [World.roster, World.txPending,
    List.drop_append_of_le_length
      (show world.tx.taken ≤ world.aux.sendLog.length by omega),
    World.rxPending, World.completionPending, List.map_append,
    List.map_cons, List.map_nil, List.count_append,
    List.count_cons, List.count_nil] at before ⊢
  rw [sameBase]
  omega

/-- After staging no packet is in circulation but the old ones and the new. -/
theorem mem_packets_stage
    (core : Core config world)
    {addr : UInt64}
    {sent held : Packet}
    (isHeld :
      held ∈
        world.rxPackets ++ (world.leaveHand addr).aux.hand ++
          (world.aux.sendLog ++ [sent]).drop world.tx.taken) :
    held ∈ world.rxPackets ++ world.aux.hand ++ world.txPending ∨
      held = sent := by
  have used := core.txWindow.used
  have taken := core.tx.ordered
  rw [List.drop_append_of_le_length (by omega)] at isHeld
  simp only [List.mem_append, List.mem_singleton] at isHeld ⊢
  rcases isHeld with (inRx | inHand) | inSent | isNew
  · exact .inl (.inl (.inl inRx))
  · exact .inl (.inl (.inr (mem_of_mem_leaveHand inHand)))
  · exact .inl (.inr inSent)
  · exact .inr isNew

/-- The packet in hand goes to the window of TX. -/
theorem keeps_stage
    (core : Core config world)
    (isOpen : world.transmitter.reserved = true)
    (room :
      world.transmitter.txUsed.toNat <
        world.transmitter.txAvail.toNat)
    {packet : Packet}
    (member : packet ∈ world.aux.hand) :
    Core config
      (Transmitter.stage packet.1.addr packet.1.len world) := by
  have used := core.txWindow.used
  have taken := core.tx.ordered
  let desc : XdpDesc :=
    { addr := packet.1.addr, len := packet.1.len, options := 0 }
  have own :
      packet ∈
        world.rxPackets ++ world.aux.hand ++ world.txPending := by
    simp [member]
  rw [Transmitter.stage, core.txWindow.next_index isOpen]
  refine
    { core with
      tx :=
        core.tx.push core.txWindow.staged
          (core.txWindow.room_for_one isOpen room) desc
      txWindow :=
        core.txWindow.stage core.tx isOpen room
          (desc, desc.bytes world.memory)
      partition := core.partition_stage member rfl
      transmitted := ?_
      inside := ?_
      intact := ?_ }
  · change
      world.kernel.transmitted =
        (world.aux.sendLog ++ [_]).take world.tx.taken
    rw [List.take_append_of_le_length (by omega)]
    exact core.transmitted
  · intro held isHeld
    rcases core.mem_packets_stage isHeld with old | rfl
    · exact core.inside held old
    · exact core.inside packet own
  · intro held isHeld
    rcases core.mem_packets_stage isHeld with old | rfl
    · exact core.intact held old
    · rfl

/-- The result of a wakeup is no matter of frames. -/
theorem keeps_noteTxWakeup
    (core : Core config world)
    (result : Option Errno) :
    Core config (Transmitter.noteTxWakeup result world) := by
  obtain ⟨retryable, first, classified⟩ :=
    world.transmitter.classifyWakeup_eq result
  rw [Transmitter.noteTxWakeup, classified]
  exact { core with txWindow := { core.txWindow with } }

/-- Everything sent and not given back, counted. -/
theorem outstanding_add_txUsed_le
    (core : Core config world)
    (settled : world.aux.completionDone = 0) :
    world.transmitter.outstanding.toNat +
        world.transmitter.txUsed.toNat ≤
      config.numFrames.toNat := by
  have total := core.roster_length
  have outstanding := core.outstanding
  have used := core.txWindow.used
  have ordered := core.tx.ordered
  simp only [World.roster, World.txPending, World.completionPending,
    settled, List.length_append, List.length_map,
    List.length_drop] at total
  simp only [Channel.pending, List.length_drop] at outstanding
  omega

/-- Submitting does not overflow the counter of submitted frames. -/
theorem toNat_outstanding_add
    (core : Core config world)
    (settled : world.aux.completionDone = 0) :
    (world.transmitter.outstanding +
        world.transmitter.txUsed).toNat =
      world.transmitter.outstanding.toNat +
        world.transmitter.txUsed.toNat := by
  have bounded := core.outstanding_add_txUsed_le settled
  have frames := config.numFrames.toNat_lt
  rw [UInt32.toNat_add, Nat.mod_eq_of_lt]
  omega

/-- The window of TX becomes part of the ring. -/
theorem keeps_publishStaged
    (core : Core config world)
    (settled : world.aux.completionDone = 0) :
    Core config (Transmitter.publishStaged world) := by
  rw [Transmitter.publishStaged]
  split
  · refine
      { core with
        tx := core.txWindow.publish_producing core.tx
        txWindow := core.txWindow.publish core.tx rfl rfl
        outstanding := ?_ }
    have before := core.outstanding
    have used := core.txWindow.used
    have ordered := core.tx.ordered
    change
      (world.transmitter.outstanding +
          world.transmitter.txUsed).toNat =
        ((world.tx.publishWrittenEntries
          world.transmitter.txUsed).log.drop
            world.tx.taken).length + _ + _
    rw [core.toNat_outstanding_add settled, List.length_drop,
      core.txWindow.publish_length core.tx]
    simp only [Channel.pending, List.length_drop] at before ⊢
    omega
  · next unused =>
      exact
        { core with
          txWindow :=
            core.txWindow.close (Transmitter.txUsed_eq_zero unused) }

/-! ## RX -/

/-- A query of RX reads an index. -/
theorem keeps_rxWindow
    (core : Core config world)
    (batchSize : UInt32) :
    Core config (Receiver.rxWindow batchSize world).2 :=
  { core with
    rx := core.rx.readableRange batchSize
    rxDone :=
      Nat.le_trans core.rxDone
        (core.rx.le_readableRange_seen batchSize) }

/-- The packet that the next RX entry of the window stands for. -/
theorem next_rxPacket
    (core : Core config world)
    (inWindow :
      world.rx.taken + world.aux.rxDone < world.rx.seen) :
    ∃ packet,
      world.rx.ring.descAt
          (stored (world.rx.taken + world.aux.rxDone)) = packet.1 ∧
        packet.1.bytes world.memory = packet.2 ∧
        world.rxPackets =
          packet ::
            world.kernel.delivered.drop
              (world.rx.taken + (world.aux.rxDone + 1)) ∧
        world.kernel.delivered.take
            (world.rx.taken + (world.aux.rxDone + 1)) =
          world.aux.handed ++ [packet] := by
  obtain ⟨packet, found, entry⟩ :=
    core.rx_entry (Nat.le_add_right _ _) inWindow
  obtain ⟨inDelivered, atPosition⟩ :=
    List.getElem?_eq_some_iff.mp found
  have packets :
      world.rxPackets =
        packet ::
          world.kernel.delivered.drop
            (world.rx.taken + (world.aux.rxDone + 1)) := by
    rw [World.rxPackets, List.drop_eq_getElem_cons inDelivered,
      atPosition, Nat.add_assoc]
  refine ⟨packet, entry, ?_, packets, ?_⟩
  · exact core.intact packet (by simp [packets])
  · rw [← Nat.add_assoc, List.take_add_one, found, core.handed]
    rfl

/-- The next packet of RX is taken in hand. -/
theorem keeps_takeDesc
    (core : Core config world)
    {index : UInt32}
    (next :
      index = stored (world.rx.taken + world.aux.rxDone))
    (inWindow :
      world.rx.taken + world.aux.rxDone < world.rx.seen) :
    Core config (Receiver.takeDesc index world).2 := by
  subst next
  obtain ⟨packet, entry, bytes, packets, handed⟩ :=
    core.next_rxPacket inWindow
  have pending :
      world.rxPending =
        packet.1 ::
          world.rx.log.drop
            (world.rx.taken + (world.aux.rxDone + 1)) := by
    rw [← core.rxPackets_fst, packets, List.map_cons,
      ← core.delivered, List.map_drop]
  have moved :
      ∀ held,
        held ∈
          world.kernel.delivered.drop
                (world.rx.taken + (world.aux.rxDone + 1)) ++
              packet :: world.aux.hand ++
            world.txPending →
        held ∈
          world.rxPackets ++ world.aux.hand ++ world.txPending := by
    intro held member
    rw [packets]
    simp only [List.mem_append, List.mem_cons] at member ⊢
    tauto
  rw [Receiver.takeDesc, entry, bytes]
  refine
    { core with
      rxDone := inWindow
      partition := ?_
      handed := handed.symm
      inside := fun held member =>
        core.inside held (moved held member)
      intact := fun held member =>
        core.intact held (moved held member) }
  intro wanted
  have before := core.partition wanted
  simp only [World.roster, pending, List.map_cons,
    List.count_append, List.count_cons] at before
  simp only [World.roster, World.rxPending, World.txPending,
    World.completionPending, List.map_cons, List.count_append,
    List.count_cons] at before ⊢
  omega

/-- The same, and it is the packet in work. -/
theorem keeps_handOut
    (core : Core config world)
    {index : UInt32}
    (next :
      index = stored (world.rx.taken + world.aux.rxDone))
    (inWindow :
      world.rx.taken + world.aux.rxDone < world.rx.seen) :
    Core config (Receiver.handOut index world).2 :=
  { core.keeps_takeDesc next inWindow with }

/-- A packet in hand goes back to the pool. -/
theorem keeps_giveBack
    (core : Core config world)
    {packet : Packet}
    (member : packet ∈ world.aux.hand) :
    Core config (Client.giveBack config packet.1.addr world) := by
  have fits : world.allocator.freeAsserts = true := by
    have nonempty := List.length_pos_of_mem member
    apply core.freeAsserts
    simp only [World.roster, List.length_append, List.length_map]
    omega
  have kept :
      ∀ held,
        held ∈
          world.rxPackets ++
              (world.leaveHand packet.1.addr).aux.hand ++
            world.txPending →
        held ∈
          world.rxPackets ++ world.aux.hand ++ world.txPending := by
    intro held isHeld
    simp only [List.mem_append] at isHeld ⊢
    rcases isHeld with (inRx | inHand) | inTx
    · exact .inl (.inl inRx)
    · exact .inl (.inr (mem_of_mem_leaveHand inHand))
    · exact .inr inTx
  refine
    { core with
      partition := ?_
      inside := fun held isHeld =>
        core.inside held (kept held isHeld)
      intact := fun held isHeld =>
        core.intact held (kept held isHeld)
      asserts := by
        simp [Client.giveBack, World.freeFrame, World.leaveHand,
          core.asserts, fits] }
  intro wanted
  have before := core.partition wanted
  have left := count_leaveHand config.frameSize member wanted
  change
    (World.roster config
      { world with
        allocator :=
          world.allocator.free (packet.1.base config.frameSize)
        aux :=
          { world.aux with
            hand := (world.leaveHand packet.1.addr).aux.hand } }).count
          wanted = _
  simp only [World.roster, World.rxPending, World.txPending,
    World.completionPending, FrameAllocator.free,
    List.count_append, List.count_cons] at before ⊢
  omega

/-- The entries that were handed out go back to the kernel. -/
theorem keeps_rxRelease
    (core : Core config world)
    {amount : UInt32}
    (all : amount.toNat = world.aux.rxDone) :
    Core config (Receiver.rxRelease amount world) := by
  have window := core.rxDone
  refine
    { core with
      rx := core.rx.releaseConsumedEntries (by omega)
      rxDone := ?_
      partition := ?_
      handed := ?_
      inside := ?_
      intact := ?_ }
  · change world.rx.taken + amount.toNat + 0 ≤ _
    exact all ▸ window
  · intro wanted
    have before := core.partition wanted
    rw [World.roster, World.rxPending, ← all] at before
    exact before
  · have before := core.handed
    rw [← all] at before
    exact before
  · intro held member
    have before := core.inside held
    rw [World.rxPackets, ← all] at before
    exact before member
  · intro held member
    have before := core.intact held
    rw [World.rxPackets, ← all] at before
    exact before member

/-! ## The callback -/

/-- The frame of a packet in the hand is not that of any other packet. -/
theorem hand_apart
    (core : Core config world)
    {packet : Packet}
    (alone : world.aux.hand = [packet])
    {other : Packet}
    (elsewhere : other ∈ world.rxPackets ++ world.txPending) :
    other.1.base config.frameSize ≠ packet.1.base config.frameSize := by
  intro same
  have once := core.count_le_one (packet.1.base config.frameSize)
  have positive :
      0 <
        (world.rxPending.map (XdpDesc.base config.frameSize)).count
            (packet.1.base config.frameSize) +
          (world.txPending.map fun sent =>
              sent.1.base config.frameSize).count
            (packet.1.base config.frameSize) := by
    rw [← same]
    rcases List.mem_append.mp elsewhere with inRx | inTx
    · apply Nat.add_pos_left
      rw [← core.rxPackets_fst, List.map_map]
      exact List.count_pos_iff.mpr
        (List.mem_map_of_mem
          (f := XdpDesc.base config.frameSize ∘ Prod.fst) inRx)
    · apply Nat.add_pos_right
      exact List.count_pos_iff.mpr
        (List.mem_map_of_mem
          (f := fun sent : Packet => sent.1.base config.frameSize)
          inTx)
  simp only [World.roster, alone, List.map_cons, List.map_nil,
    List.count_append, List.count_cons, List.count_nil,
    beq_self_eq_true, ↓reduceIte] at once
  omega

/-- Bytes are rewritten inside the frame in hand. -/
theorem keeps_rewritePacket
    (core : Core config world)
    {packet : Packet}
    (alone : world.aux.hand = [packet])
    (accepted : Bool)
    (output : List UInt8) :
    Core config
      (Main.rewritePacket { addr := packet.1.addr, len := packet.1.len }
        accepted output world) := by
  have own :
      packet ∈
        world.rxPackets ++ world.aux.hand ++ world.txPending := by
    simp [alone]
  have inside := core.inside packet own
  have bounds := inside.bounds config.frameOrder.isLt
  let memory :=
    world.memory.overwrite packet.1.addr.toNat
      (output.take packet.1.len.toNat)
  have length :
      (output.take packet.1.len.toNat).length ≤
        packet.1.len.toNat :=
    List.length_take_le _ _
  have inFrame :
      packet.1.addr.toNat + (output.take packet.1.len.toNat).length ≤
        (packet.1.base config.frameSize).toNat +
          2 ^ config.frameOrder.val := by
    rw [Config.frameSize]
    omega
  have hand :
      (Main.rewritePacket
          { addr := packet.1.addr, len := packet.1.len }
          accepted output world).aux.hand =
        [(packet.1, packet.1.bytes memory)] := by
    simp [Main.rewritePacket, World.progress, alone, memory]
  have known :
      ∀ held,
        held ∈
          world.rxPackets ++ [(packet.1, packet.1.bytes memory)] ++
            world.txPending →
        held ∈ world.rxPackets ++ world.txPending ∨
          held = (packet.1, packet.1.bytes memory) := by
    intro held member
    simp only [List.mem_append, List.mem_singleton] at member ⊢
    tauto
  have still :
      ∀ held,
        held ∈ world.rxPackets ++ world.txPending →
        held ∈
          world.rxPackets ++ world.aux.hand ++ world.txPending := by
    intro held member
    simp only [List.mem_append] at member ⊢
    tauto
  refine
    { core with
      partition := ?_
      inside := ?_
      intact := ?_ }
  · intro wanted
    have before := core.partition wanted
    rw [World.roster, alone] at before
    rw [World.roster, hand]
    exact before
  · intro held member
    rw [hand] at member
    rcases known held member with old | rfl
    · exact core.inside held (still held old)
    · exact inside
  · intro held member
    rw [hand] at member
    rcases known held member with old | rfl
    · have unchanged :=
        XdpDesc.bytes_overwrite config.frameOrder.isLt
          (core.inside held (still held old))
          (frameBase_idem config.frameOrder.isLt packet.1.addr)
          (core.hand_apart alone old)
          bounds.1 inFrame world.memory
      exact unchanged.trans (core.intact held (still held old))
    · rfl

end Core

/-! ## The relation -/

/--
What is offered to the transmitter: in the callback, the packet that it is
working on, as it left it; a direct caller is in no callback.
-/
def Offering
    (direct : Bool)
    (current : Option InFlight)
    (hand : List Packet)
    (desc : XdpDesc) :
    Prop :=
  if direct then
    current = none
  else
    ∃ packet output,
      current =
          some { packet := packet, progress := .decided true output } ∧
        hand = [(packet.1, output)] ∧
        packet.1 = desc

/-- The outcome of the wakeup that was just requested, if one was. -/
def Fresh
    (outcomes : Nat → Option Errno)
    (calls noted : Nat)
    (result : Option Errno) : Prop :=
  (calls = noted ∧ result = none) ∨
    (calls = noted + 1 ∧ result = outcomes noted)

/--
The worker's atomic steps.  `rewrite` is what the callback does to a packet;
`direct` is set for a caller that uses the transmitter without `Receiver`.
-/
inductive WorkerStep
    (config : Config)
    (rewrite : Rewrite)
    (direct : Bool) :
    World → World → Prop where
  | idle (world : World) :
      WorkerStep config rewrite direct world world
  | fillWindow (world : World) :
      WorkerStep config rewrite direct world
        (Xsk.fillWindow world).2
  | fillPush
      {world : World} {index : UInt32}
      (atEnd :
        index =
          stored (world.fill.log.length + world.aux.fillWindow.length))
      (room :
        world.fill.log.length + world.aux.fillWindow.length <
          world.fill.seen + 2 ^ config.fillOrder.val) :
      WorkerStep config rewrite direct world
        (Xsk.fillPush index world).2
  | fillPublish
      {world : World} {amount : UInt32}
      (all : amount.toNat = world.aux.fillWindow.length) :
      WorkerStep config rewrite direct world
        (Xsk.fillPublish amount world)
  | completionWindow (world : World) (budget : UInt32) :
      WorkerStep config rewrite direct world
        (Transmitter.completionWindow budget world).2
  | assertThat
      {world : World} {condition : Bool}
      (holds : condition = true) :
      WorkerStep config rewrite direct world
        (world.assertThat condition)
  | freeCompleted
      {world : World} {index : UInt32}
      (next :
        index =
          stored (world.completion.taken + world.aux.completionDone))
      (inWindow :
        world.completion.taken + world.aux.completionDone <
          world.completion.seen) :
      WorkerStep config rewrite direct world
        (Transmitter.freeCompleted config index world)
  | releaseCompleted
      {world : World} {amount : UInt32}
      (all : amount.toNat = world.aux.completionDone) :
      WorkerStep config rewrite direct world
        (Transmitter.releaseCompleted amount world)
  | rejectFrame
      {world : World} {desc : XdpDesc}
      (offering :
        Offering direct world.aux.current world.aux.hand desc) :
      WorkerStep config rewrite direct world
        (Transmitter.rejectFrame world)
  | reserve (world : World) :
      WorkerStep config rewrite direct world
        (Transmitter.reserve world)
  | refresh
      {world : World}
      (isOpen : world.transmitter.reserved = true) :
      WorkerStep config rewrite direct world
        (Transmitter.refresh world).2
  | stage
      {world : World} {packet : Packet}
      (isOpen : world.transmitter.reserved = true)
      (room :
        world.transmitter.txUsed.toNat <
          world.transmitter.txAvail.toNat)
      (member : packet ∈ world.aux.hand)
      (offering :
        Offering direct world.aux.current world.aux.hand packet.1) :
      WorkerStep config rewrite direct world
        (Transmitter.stage packet.1.addr packet.1.len world)
  | publishStaged
      {world : World}
      (settled : world.aux.completionDone = 0)
      (between : world.aux.current = none) :
      WorkerStep config rewrite direct world
        (Transmitter.publishStaged world)
  | sendto
      {world : World}
      (noted :
        world.aux.sendtoNoted = world.wakeups.sendtoCalls) :
      WorkerStep config rewrite direct world (Xsk.sendto world).2
  | recvfrom
      {world : World}
      (noted :
        world.aux.recvfromNoted = world.wakeups.recvfromCalls) :
      WorkerStep config rewrite direct world (Xsk.recvfrom world).2
  | noteTxWakeup
      {world : World} {result : Option Errno}
      (fresh :
        Fresh world.wakeups.sendto world.wakeups.sendtoCalls
          world.aux.sendtoNoted result) :
      WorkerStep config rewrite direct world
        (Transmitter.noteTxWakeup result world)
  | noteRxWakeup
      {world : World} {result : Option Errno}
      (fresh :
        Fresh world.wakeups.recvfrom world.wakeups.recvfromCalls
          world.aux.recvfromNoted result) :
      WorkerStep config rewrite direct world
        (Receiver.noteRxWakeup result world)
  | printInitialWakeup
      {world : World}
      (first : world.aux.recvfromNoted = 0)
      (unset : world.receiver.firstWakeupError = 0) :
      WorkerStep config rewrite direct world
        (Main.printInitialWakeup world)
  | rxWindow (world : World) (batchSize : UInt32) :
      WorkerStep config rewrite direct world
        (Receiver.rxWindow batchSize world).2
  | takeDesc
      {world : World} {index : UInt32}
      (next : index = stored (world.rx.taken + world.aux.rxDone))
      (inWindow :
        world.rx.taken + world.aux.rxDone < world.rx.seen)
      (isDirect : direct = true) :
      WorkerStep config rewrite direct world
        (Receiver.takeDesc index world).2
  | handOut
      {world : World} {index : UInt32}
      (next : index = stored (world.rx.taken + world.aux.rxDone))
      (inWindow :
        world.rx.taken + world.aux.rxDone < world.rx.seen)
      (between : world.aux.current = none)
      (empty : world.aux.hand = []) :
      WorkerStep config rewrite direct world
        (Receiver.handOut index world).2
  | giveBack
      {world : World} {packet : Packet}
      (member : packet ∈ world.aux.hand) :
      WorkerStep config rewrite direct world
        (Client.giveBack config packet.1.addr world)
  | rxRelease
      {world : World} {amount : UInt32}
      (all : amount.toNat = world.aux.rxDone) :
      WorkerStep config rewrite direct world
        (Receiver.rxRelease amount world)
  | countRefill (world : World) :
      WorkerStep config rewrite direct world
        (Receiver.countRefill world)
  | countReceived (world : World) (processed : UInt32) :
      WorkerStep config rewrite direct world
        (Receiver.countReceived processed world)
  | openPacket
      {world : World} {packet : Packet}
      (current :
        world.aux.current =
          some { packet := packet, progress := .taken }) :
      WorkerStep config rewrite direct world
        (Main.openPacket
          { addr := packet.1.addr, len := packet.1.len } world).2
  | rewritePacket
      {world : World} {packet : Packet}
      (current :
        world.aux.current =
          some { packet := packet, progress := .opened })
      (alone : world.aux.hand = [packet]) :
      WorkerStep config rewrite direct world
        (Main.rewritePacket
          { addr := packet.1.addr, len := packet.1.len }
          (rewrite world.aux.handed packet.2).1
          (rewrite world.aux.handed packet.2).2 world)
  | settle
      {world : World} {packet : Packet} {output : List UInt8}
      {accepted transferred : Bool}
      (current :
        world.aux.current =
          some
            { packet := packet
              progress :=
                if accepted then
                  .offered output transferred
                else
                  .decided false output })
      (offered : accepted = false → transferred = false) :
      WorkerStep config rewrite direct world
        (Main.settle accepted transferred world)
  | summarize
      {world : World} {remaining : UInt32}
      (drained : remaining = world.transmitter.outstanding)
      (between : world.aux.current = none)
      (published : world.transmitter.txUsed = 0)
      (released : world.aux.rxDone = 0)
      (counted :
        world.receiver.packetsReceived =
          UInt64.ofNat world.rx.taken) :
      WorkerStep config rewrite direct world
        (Main.summarize remaining world)

/-- Every step of the worker keeps the invariant. -/
theorem Core.workerStep
    {config : Config}
    {rewrite : Rewrite}
    {direct : Bool}
    {before after : World}
    (core : Core config before)
    (step : WorkerStep config rewrite direct before after) :
    Core config after := by
  cases step with
  | idle =>
      exact core
  | fillWindow =>
      exact core.keeps_fillWindow
  | fillPush atEnd room =>
      exact core.keeps_fillPush atEnd room
  | fillPublish all =>
      exact core.keeps_fillPublish all
  | completionWindow budget =>
      exact core.keeps_completionWindow budget
  | assertThat holds =>
      exact core.keeps_assertThat holds
  | freeCompleted next inWindow =>
      exact core.keeps_freeCompleted next inWindow
  | releaseCompleted all =>
      exact core.keeps_releaseCompleted all
  | rejectFrame =>
      exact core.keeps_rejectFrame
  | reserve =>
      exact core.keeps_reserve
  | refresh isOpen =>
      exact core.keeps_refresh isOpen
  | stage isOpen room member =>
      exact core.keeps_stage isOpen room member
  | publishStaged settled =>
      exact core.keeps_publishStaged settled
  | sendto =>
      exact { core with }
  | recvfrom =>
      exact { core with }
  | noteTxWakeup =>
      exact core.keeps_noteTxWakeup _
  | noteRxWakeup =>
      exact { core with }
  | printInitialWakeup =>
      exact { core with }
  | rxWindow batchSize =>
      exact core.keeps_rxWindow batchSize
  | takeDesc next inWindow =>
      exact core.keeps_takeDesc next inWindow
  | handOut next inWindow =>
      exact core.keeps_handOut next inWindow
  | giveBack member =>
      exact core.keeps_giveBack member
  | rxRelease all =>
      exact core.keeps_rxRelease all
  | countRefill =>
      exact { core with }
  | countReceived =>
      exact { core with }
  | openPacket =>
      exact { core with }
  | rewritePacket _ alone =>
      exact core.keeps_rewritePacket alone _ _
  | settle =>
      exact { core with }
  | summarize =>
      exact { core with }

end AfXdp
