import AfXdp.WorkerControl

namespace AfXdp

open Interleaving
open SequenceIndex

/-!
# The worker's functions

One specification for each function of the worker: it takes only the worker's
steps, and what it leaves in the worker's own part of the state.
-/

section Functions

variable {config : Config}
variable {rewrite : Rewrite}
variable {admits : List UInt8 → Bool}
variable {direct : Bool}
variable {floor : Floor}
variable {own : Own}

/-! ## Wakeups -/

/-- At most one call of `sendto`, and the result is that of the call. -/
theorem requestTxProgress_meets
    (noted : own.sendtoNoted = own.wakeups.sendtoCalls) :
    Meets (workerSetting config rewrite admits direct floor)
      (· = own) (Xsk.requestTxProgress config)
      (fun result after =>
        ∃ calls,
          after =
              { own with
                wakeups :=
                  { own.wakeups with sendtoCalls := calls } } ∧
            Fresh own.wakeups.sendto calls own.sendtoNoted result) := by
  refine Meets.bind (fun _ after => after = own)
    (Meets.ask fun _ _ _ _ => rfl) ?_
  rintro wanted reached rfl
  split
  · refine Meets.act ?_
    rintro world core _ rfl
    exact ⟨.sendto noted, _, rfl,
      .inr ⟨congrArg (· + 1) noted.symm, by rw [noted]; rfl⟩⟩
  · exact Meets.done ⟨_, rfl, .inl ⟨noted.symm, rfl⟩⟩

/-- At most one call of `recvfrom`, and the result is that of the call. -/
theorem requestRxProgress_meets
    (noted : own.recvfromNoted = own.wakeups.recvfromCalls) :
    Meets (workerSetting config rewrite admits direct floor)
      (· = own) (Xsk.requestRxProgress config)
      (fun result after =>
        ∃ calls,
          after =
              { own with
                wakeups :=
                  { own.wakeups with recvfromCalls := calls } } ∧
            Fresh own.wakeups.recvfrom calls
              own.recvfromNoted result) := by
  refine Meets.bind (fun _ after => after = own)
    (Meets.ask fun _ _ _ _ => rfl) ?_
  rintro wanted reached rfl
  split
  · refine Meets.act ?_
    rintro world core _ rfl
    exact ⟨.recvfrom noted, _, rfl,
      .inr ⟨congrArg (· + 1) noted.symm, by rw [noted]; rfl⟩⟩
  · exact Meets.done ⟨_, rfl, .inl ⟨noted.symm, rfl⟩⟩

/-! ## Fill -/

/-- There is nothing to pop. -/
theorem fillPush_nil
    {world : World}
    {index : UInt32}
    (free : world.allocator.frames = []) :
    Xsk.fillPush index world = (false, world) := by
  rw [Xsk.fillPush, FrameAllocator.alloc, free]

/-- The top of the stack goes to the slot at `index`. -/
theorem fillPush_cons
    {world : World}
    {index : UInt32}
    {frame : UInt64}
    {rest : List UInt64}
    (free : world.allocator.frames = frame :: rest) :
    Xsk.fillPush index world =
      (true,
        { world with
          allocator := { world.allocator with frames := rest }
          fill := world.fill.setDescAt index frame
          aux :=
            { world.aux with
              fillWindow := world.aux.fillWindow ++ [frame] } }) := by
  rw [Xsk.fillPush, FrameAllocator.alloc, free]

/-- One turn of the loop moves the top of the pool to the window, if any. -/
theorem fillPush_meets
    {index : UInt32}
    (next :
      index = stored (own.fillLength + own.fillWindow.length))
    (room :
      own.fillLength + own.fillWindow.length <
        own.fillSeen + 2 ^ config.fillOrder.val) :
    Meets (workerSetting config rewrite admits direct floor)
      (· = own) (Prog.act (Xsk.fillPush index))
      (fun popped after =>
        match own.freeFrames with
        | [] =>
            popped = false ∧ after = own
        | frame :: rest =>
            popped = true ∧
              after =
                { own with
                  fillWindow := own.fillWindow ++ [frame]
                  freeFrames := rest }) := by
  refine Meets.act ?_
  rintro world core _ rfl
  refine ⟨.fillPush next room, ?_⟩
  cases free : world.allocator.frames with
  | nil =>
      have none : world.own.freeFrames = [] := free
      rw [none, fillPush_nil free]
      exact ⟨rfl, rfl⟩
  | cons frame rest =>
      have top : world.own.freeFrames = frame :: rest := free
      rw [top, fillPush_cons free]
      exact ⟨rfl, rfl⟩

/-- The frames popped so far are staged; the window has room for the rest. -/
theorem fillLoop_meets
    {start : UInt32}
    {remaining pushed : Nat}
    (startsAt : start = stored own.fillLength)
    (already : own.fillWindow.length = pushed)
    (room :
      own.fillLength + pushed + remaining ≤
        own.fillSeen + 2 ^ config.fillOrder.val) :
    Meets (workerSetting config rewrite admits direct floor)
      (· = own)
      (Xsk.fillLoop start remaining pushed)
      (fun total after =>
        ∃ staged free,
          after =
              { own with
                fillWindow := staged
                freeFrames := free } ∧
            staged.length = total ∧
            total ≤ pushed + remaining ∧
            (free = [] ∨ total = pushed + remaining)) := by
  induction remaining generalizing own pushed with
  | zero =>
      exact Meets.done
        ⟨_, _, rfl, already, Nat.le_refl _, .inr rfl⟩
  | succ remaining inductionHypothesis =>
      rw [Xsk.fillLoop]
      refine Meets.bind _ (fillPush_meets ?_ ?_) ?_
      · rw [startsAt, ← already, stored_add_stored]
      · omega
      · intro popped after effect
        cases free : own.freeFrames with
        | nil =>
            rw [free] at effect
            obtain ⟨rfl, rfl⟩ := effect
            exact Meets.done
              ⟨_, _, rfl, already, Nat.le_add_right _ _, .inl free⟩
        | cons frame rest =>
            rw [free] at effect
            obtain ⟨rfl, rfl⟩ := effect
            have length :
                (own.fillWindow ++ [frame]).length = pushed + 1 := by
              rw [List.length_append, already, List.length_singleton]
            have later :=
              @inductionHypothesis
                { own with
                  fillWindow := own.fillWindow ++ [frame]
                  freeFrames := rest }
                (pushed + 1) startsAt length
                (by
                  simp only
                  omega)
            refine later.weaken ?_
            rintro total _ ⟨staged, free, rfl, length, bound, stop⟩
            refine ⟨staged, free, rfl, length, ?_, ?_⟩
            · omega
            · exact stop.imp_right fun all => by omega

/--
The window on Fill begins where the last one ended and stays within the ring.
-/
theorem fillWindow_meets :
    Meets (workerSetting config rewrite admits direct floor)
      (· = own) (Prog.act Xsk.fillWindow)
      (fun window after =>
        ∃ seen,
          after = { own with fillSeen := seen } ∧
            window.start = stored own.fillLength ∧
            own.fillLength + window.amount.toNat ≤
              seen + 2 ^ config.fillOrder.val ∧
            floor.filled + 2 ^ config.fillOrder.val ≤
              own.fillLength + window.amount.toNat) := by
  refine Meets.act ?_
  rintro world core reached rfl
  have all := core.fill.writableRange_all
  have filled := reached.filled
  exact ⟨.fillWindow world, _, rfl,
    core.fill.writableRange_start _,
    core.fill.writableRange_fits _,
    Nat.le_trans (Nat.add_le_add_right filled _) all⟩

/-- Publishing all that was written closes the window. -/
theorem fillPublish_meets
    {amount : UInt32}
    (all : amount.toNat = own.fillWindow.length) :
    Meets (workerSetting config rewrite admits direct floor)
      (· = own) (Prog.update (Xsk.fillPublish amount))
      (fun _ after =>
        after =
          { own with
            fillLength := own.fillLength + amount.toNat
            fillWindow := [] }) := by
  refine Meets.update ?_
  rintro world core _ rfl
  refine ⟨.fillPublish all, ?_⟩
  simp [World.own, Xsk.fillPublish, Channel.publishWrittenEntries,
    Channel.nextEntries]

/-- Either the pool is used up or every free slot was filled. -/
theorem refillFill_meets
    (closed : own.fillWindow = []) :
    Meets (workerSetting config rewrite admits direct floor)
      (· = own) Xsk.refillFill
      (fun pushed after =>
        ∃ seen free,
          after =
              { own with
                fillLength := own.fillLength + pushed.toNat
                fillSeen := seen
                freeFrames := free } ∧
            (free = [] ∨
              floor.filled + 2 ^ config.fillOrder.val ≤
                own.fillLength + pushed.toNat)) := by
  refine Meets.bind _ fillWindow_meets ?_
  rintro window _ ⟨seen, rfl, start, fits, all⟩
  refine Meets.bind _
    (fillLoop_meets start
      (congrArg List.length closed) (by simp only; omega)) ?_
  rintro pushed _ ⟨staged, free, rfl, length, bound, stop⟩
  have count : (stored pushed).toNat = pushed := by
    apply toNat_stored
    have := window.amount.toNat_lt
    omega
  refine Meets.bind
    (fun _ after =>
      after =
        { own with
          fillLength := own.fillLength + (stored pushed).toNat
          fillSeen := seen
          freeFrames := free
          fillWindow := [] })
    (Meets.when ?_ ?_) ?_
  · intro _
    exact fillPublish_meets (count.trans length.symm)
  · intro none
    have empty : staged = [] := by
      apply List.eq_nil_of_length_eq_zero
      omega
    have zero : pushed = 0 := by omega
    subst empty zero
    rfl
  · rintro _ _ rfl
    refine Meets.done ⟨seen, free, by rw [closed], ?_⟩
    rw [count]
    exact stop.imp_right fun whole => by omega

/-- What the producer counts is at most what is still to be consumed. -/
theorem fillQueuedEntryCount_meets :
    Meets (workerSetting config rewrite admits direct floor)
      (· = own) Xsk.fillQueuedEntryCount
      (fun queued after =>
        after = own ∧
          floor.filled + queued.toNat ≤ own.fillLength) := by
  refine Meets.bind
    (fun producer after =>
      after = own ∧ producer = stored own.fillLength)
    (Meets.ask ?_) ?_
  · rintro world core _ rfl
    exact ⟨rfl, core.fill.producer⟩
  · rintro producer start ⟨rfl, rfl⟩
    refine Meets.bind
      (fun consumer after =>
        after = start ∧
          floor.filled +
              (stored start.fillLength - consumer).toNat ≤
            start.fillLength)
      (Meets.ask ?_) ?_
    · rintro world core reached rfl
      have filled := reached.filled
      have occupancy := core.fill.occupancy_toNat
      have ordered := core.fill.ordered
      rw [MmapRing.occupancy, core.fill.producer] at occupancy
      refine ⟨rfl, ?_⟩
      simp only [World.own]
      omega
    · rintro consumer _ ⟨rfl, bound⟩
      exact Meets.done ⟨rfl, bound⟩

/-! ## Completion -/

/--
The window of a reclamation pass.  It comes from a fresh producer index if the
known window was empty, and is the known window otherwise.
-/
structure Reaps
    (config : Config)
    (floor : Floor)
    (own : Own)
    (budget amount : UInt32)
    (seen : Nat) : Prop where
  amount :
    amount.toNat = min budget.toNat (seen - own.completionTaken)
  ordered :
    own.completionTaken ≤ seen
  refreshed :
    own.completionSeen = own.completionTaken →
    floor.completed ≤ seen
  cached :
    own.completionSeen ≠ own.completionTaken →
    seen = own.completionSeen
  bounded :
    seen ≤ own.completionTaken + 2 ^ config.completionOrder.val

/-- The window on Completion begins at the first entry that is not taken. -/
theorem completionWindow_meets
    {budget : UInt32} :
    Meets (workerSetting config rewrite admits direct floor)
      (· = own) (Prog.act (Transmitter.completionWindow budget))
      (fun window after =>
        ∃ seen,
          after = { own with completionSeen := seen } ∧
            window.start = stored own.completionTaken ∧
            Reaps config floor own budget window.amount seen) := by
  refine Meets.act ?_
  rintro world core reached rfl
  have after := core.completion.readableRange budget
  have seen := core.completion.readableRange_seen budget
  have stale := after.stale
  have bounded := core.completion.bounded
  rw [Channel.readableRange_log] at stale
  refine ⟨.completionWindow world budget, _, rfl,
    core.completion.readableRange_start _,
    { amount := core.completion.readableRange_amount _
      ordered := after.window
      refreshed := ?_
      cached := ?_
      bounded := Nat.le_trans stale bounded }⟩
  · intro empty
    change world.completion.seen = world.completion.taken at empty
    change _ ≤ (world.completion.readableRange budget).2.seen
    rw [seen, if_pos empty]
    exact reached.completed
  · intro nonempty
    change world.completion.seen ≠ world.completion.taken at nonempty
    change (world.completion.readableRange budget).2.seen = _
    rw [seen, if_neg nonempty]
    rfl

/-- The assertion of `reclaim_completed_frames` holds. -/
theorem assertOutstanding_meets
    {amount : UInt32}
    (known :
      own.completionTaken + amount.toNat ≤ own.completionSeen) :
    Meets (workerSetting config rewrite admits direct floor)
      (· = own)
      (Prog.update fun world =>
        world.assertThat (amount ≤ world.transmitter.outstanding))
      (fun _ after => after = own) := by
  refine Meets.update ?_
  rintro world core _ rfl
  have outstanding := core.outstanding
  have stale := core.completion.stale
  simp only [Channel.pending, List.length_drop] at outstanding
  refine ⟨.assertThat ?_, rfl⟩
  rw [decide_eq_true_iff, UInt32.le_iff_toNat_le]
  change world.completion.taken + amount.toNat ≤
    world.completion.seen at known
  omega

/-- One entry of the window is read, and its frame goes to the allocator. -/
theorem freeCompleted_meets
    {index : UInt32}
    (next :
      index = stored (own.completionTaken + own.completionDone))
    (inWindow :
      own.completionTaken + own.completionDone <
        own.completionSeen) :
    Meets (workerSetting config rewrite admits direct floor)
      (· = own)
      (Prog.update (Transmitter.freeCompleted config index))
      (fun _ after =>
        ∃ free,
          after =
            { own with
              completionDone := own.completionDone + 1
              freeFrames := free }) := by
  refine Meets.update ?_
  rintro world core _ rfl
  exact ⟨.freeCompleted next inWindow, _, rfl⟩

/-- Releasing all that was read gives the entries back to the kernel. -/
theorem releaseCompleted_meets
    {amount : UInt32}
    (all : amount.toNat = own.completionDone) :
    Meets (workerSetting config rewrite admits direct floor)
      (· = own) (Prog.update (Transmitter.releaseCompleted amount))
      (fun _ after =>
        after =
          { own with
            completionTaken := own.completionTaken + amount.toNat
            completionDone := 0
            transmitter :=
              { own.transmitter with
                outstanding := own.transmitter.outstanding - amount
                framesReclaimed :=
                  own.transmitter.framesReclaimed +
                    amount.toUInt64 } }) := by
  refine Meets.update ?_
  rintro world core _ rfl
  exact ⟨.releaseCompleted all, rfl⟩

/-- The whole of it: a window, its entries one by one, and the release. -/
theorem reclaimCompletedFrames_meets
    {budget : UInt32}
    (settled : own.completionDone = 0) :
    Meets (workerSetting config rewrite admits direct floor)
      (· = own) (Transmitter.reclaimCompletedFrames config budget)
      (fun reaped after =>
        ∃ seen free,
          after =
              { own with
                completionTaken := own.completionTaken + reaped.toNat
                completionSeen := seen
                freeFrames := free
                transmitter :=
                  { own.transmitter with
                    outstanding := own.transmitter.outstanding - reaped
                    framesReclaimed :=
                      own.transmitter.framesReclaimed +
                        reaped.toUInt64 } } ∧
            Reaps config floor own budget reaped seen) := by
  refine Meets.bind _ completionWindow_meets ?_
  rintro window _ ⟨seen, rfl, start, reaps⟩
  have amount := reaps.amount
  have ordered := reaps.ordered
  split
  · next zero =>
      refine Meets.done ⟨seen, own.freeFrames, ?_, zero ▸ reaps⟩
      simp
  · refine Meets.bind _
      (assertOutstanding_meets (by simp only; omega)) ?_
    rintro _ _ rfl
    refine Meets.bind
      (fun _ after =>
        ∃ free,
          after =
            { own with
              completionSeen := seen
              completionDone := window.amount.toNat
              freeFrames := free })
      (Meets.forRange
        (fun index after =>
          ∃ free,
            after =
              { own with
                completionSeen := seen
                completionDone := index
                freeFrames := free })
        ⟨own.freeFrames, by rw [settled]⟩ ?_) ?_
    · rintro index _ inRange ⟨free, rfl⟩
      refine (freeCompleted_meets ?_ ?_).weaken ?_
      · rw [start, stored_add_stored]
      · simp only
        omega
      · rintro _ _ ⟨more, rfl⟩
        exact ⟨more, rfl⟩
    · rintro _ _ ⟨free, rfl⟩
      refine Meets.bind _ (releaseCompleted_meets rfl) ?_
      rintro _ _ rfl
      exact Meets.done ⟨seen, free, by rw [settled], reaps⟩

/-! ## Publishing and servicing TX -/

/-- What is staged becomes submitted, and only the transmitter changes. -/
theorem publishStaged_meets
    (settled : own.completionDone = 0)
    (between : own.current = none) :
    Meets (workerSetting config rewrite admits direct floor)
      (· = own) (Prog.update Transmitter.publishStaged)
      (fun _ after =>
        ∃ outstanding submitted,
          after =
            { own with
              transmitter :=
                { own.transmitter with
                  outstanding := outstanding
                  framesSubmitted := submitted
                  txUsed := 0
                  reserved := false } }) := by
  refine Meets.update ?_
  rintro world core _ rfl
  refine ⟨.publishStaged settled between, ?_⟩
  rw [Transmitter.publishStaged]
  split
  · exact ⟨_, _, rfl⟩
  · exact ⟨_, _, rfl⟩

/-- Nothing is outstanding only if every completion was released. -/
theorem askIdle_meets :
    Meets (workerSetting config rewrite admits direct floor)
      (· = own)
      (Prog.ask fun world => world.transmitter.outstanding == 0)
      (fun idle after =>
        after = own ∧
          (idle = true → floor.completed ≤ own.completionTaken)) := by
  refine Meets.ask ?_
  rintro world core reached rfl
  refine ⟨rfl, ?_⟩
  intro idle
  have outstanding := core.outstanding
  have completed := reached.completed
  rw [beq_iff_eq] at idle
  rw [idle] at outstanding
  simp only [Channel.pending, List.length_drop, UInt32.toNat_zero]
    at outstanding
  change _ ≤ world.completion.taken
  omega

/-- The budget is the size of the Completion ring. -/
theorem askBudget_meets :
    Meets (workerSetting config rewrite admits direct floor)
      (· = own)
      (Prog.ask fun world => world.completion.ring.capacity)
      (fun budget after =>
        after = own ∧
          budget.toNat = 2 ^ config.completionOrder.val) := by
  refine Meets.ask ?_
  rintro world core _ rfl
  exact ⟨rfl, core.completion.capacity_toNat⟩

/-- A result that was not noted before is noted. -/
theorem noteTxWakeup_meets
    {result : Option Errno}
    (fresh :
      Fresh own.wakeups.sendto own.wakeups.sendtoCalls
        own.sendtoNoted result) :
    Meets (workerSetting config rewrite admits direct floor)
      (· = own) (Prog.update (Transmitter.noteTxWakeup result))
      (fun _ after =>
        ∃ retryable first,
          after =
            { own with
              transmitter :=
                { own.transmitter with
                  retryableWakeupErrors := retryable
                  firstWakeupError := first }
              sendtoNoted := own.wakeups.sendtoCalls }) := by
  refine Meets.update ?_
  rintro world core _ rfl
  obtain ⟨retryable, first, classified⟩ :=
    world.transmitter.classifyWakeup_eq result
  refine ⟨.noteTxWakeup fresh, retryable, first, ?_⟩
  simp only [World.own, Transmitter.noteTxWakeup, classified]

/--
What servicing TX leaves: the window is closed, and every completion that the
kernel had published when the floor was set is released.
-/
def Serviced (floor : Floor) (own after : Own) : Prop :=
  ∃ taken seen free transmitter calls,
    after =
        { own with
          completionTaken := taken
          completionSeen := seen
          freeFrames := free
          transmitter := transmitter
          wakeups := { own.wakeups with sendtoCalls := calls }
          sendtoNoted := calls } ∧
      transmitter.txUsed = 0 ∧
      transmitter.reserved = false ∧
      own.completionTaken ≤ taken ∧
      floor.completed ≤ taken

/-- Servicing TX reclaims no more than the Completion ring holds. -/
theorem publishAndServiceTx_meets
    (settled : own.completionDone = 0)
    (between : own.current = none)
    (noted : own.sendtoNoted = own.wakeups.sendtoCalls)
    (near :
      floor.completed ≤
        own.completionTaken + 2 ^ config.completionOrder.val) :
    Meets (workerSetting config rewrite admits direct floor)
      (· = own) (Transmitter.publishAndServiceTx config)
      (fun _ after =>
        Serviced floor own after ∧
          after.completionTaken ≤
            own.completionTaken + 2 ^ config.completionOrder.val) := by
  refine Meets.bind _ (publishStaged_meets settled between) ?_
  rintro _ _ ⟨outstanding, submitted, rfl⟩
  refine Meets.bind _ askIdle_meets ?_
  rintro idle _ ⟨rfl, idleEmpty⟩
  split
  · next isIdle =>
      exact Meets.done ⟨⟨_, _, _, _, _, by rw [noted], rfl, rfl,
        Nat.le_refl _, idleEmpty isIdle⟩, Nat.le_add_right _ _⟩
  refine Meets.bind _ askBudget_meets ?_
  rintro budget _ ⟨rfl, whole⟩
  refine Meets.bind _ (reclaimCompletedFrames_meets settled) ?_
  rintro reaped _ ⟨seen, free, rfl, reaps⟩
  have amount := reaps.amount
  have ordered := reaps.ordered
  have bounded := reaps.bounded
  simp only at amount ordered bounded
  have allKnown : own.completionTaken + reaped.toNat = seen := by omega
  have withinBudget :
      own.completionTaken + reaped.toNat ≤
        own.completionTaken + 2 ^ config.completionOrder.val := by
    omega
  refine Meets.bind _ askIdle_meets ?_
  rintro idle _ ⟨rfl, idleEmpty⟩
  split
  · next isIdle =>
      exact Meets.done ⟨⟨_, _, _, _, _, by rw [noted], rfl, rfl,
        Nat.le_add_right _ _, idleEmpty isIdle⟩, withinBudget⟩
  refine Meets.bind _ (requestTxProgress_meets noted) ?_
  rintro result _ ⟨calls, rfl, fresh⟩
  refine Meets.bind _ (noteTxWakeup_meets fresh) ?_
  rintro _ _ ⟨retryable, first, rfl⟩
  refine Meets.when ?_ ?_
  · intro leftover
    rw [UInt32.lt_iff_toNat_lt] at leftover
    refine Meets.bind _ (reclaimCompletedFrames_meets settled) ?_
    rintro more _ ⟨seenAgain, freeAgain, rfl, again⟩
    have moreAmount := again.amount
    have refreshed := again.refreshed allKnown.symm
    have rest :
        (budget - reaped).toNat = budget.toNat - reaped.toNat :=
      UInt32.toNat_sub_of_le _ _
        (UInt32.le_iff_toNat_le.mpr (Nat.le_of_lt leftover))
    simp only at moreAmount
    have further :
        own.completionTaken ≤
          own.completionTaken + reaped.toNat + more.toNat := by
      omega
    have reachesFloor :
        floor.completed ≤
          own.completionTaken + reaped.toNat + more.toNat := by
      omega
    have within :
        own.completionTaken + reaped.toNat + more.toNat ≤
          own.completionTaken + 2 ^ config.completionOrder.val := by
      omega
    exact Meets.done
      ⟨⟨_, _, _, _, _, rfl, rfl, rfl, further, reachesFloor⟩, within⟩
  · intro used
    rw [UInt32.lt_iff_toNat_lt] at used
    have reachesFloor :
        floor.completed ≤ own.completionTaken + reaped.toNat := by
      omega
    exact ⟨⟨_, _, _, _, _, rfl, rfl, rfl,
      Nat.le_add_right _ _, reachesFloor⟩, withinBudget⟩

/-- Servicing again does not undo what servicing did. -/
theorem Serviced.trans
    {middle after : Own}
    (first : Serviced floor own middle)
    (second : Serviced floor middle after) :
    Serviced floor own after := by
  obtain ⟨taken, seen, free, transmitter, calls, rfl, _, _, further,
    _⟩ := first
  obtain ⟨taken', seen', free', transmitter', calls', rfl, unused,
    closed, further', reaches⟩ := second
  exact ⟨taken', seen', free', transmitter', calls', rfl, unused,
    closed, Nat.le_trans further further', reaches⟩

/-- Every call of `sendto` was noted. -/
theorem Serviced.noted
    {after : Own}
    (serviced : Serviced floor own after) :
    after.sendtoNoted = after.wakeups.sendtoCalls := by
  obtain ⟨_, _, _, _, _, rfl, _⟩ := serviced
  rfl

/-- Nothing is half reclaimed that was not before. -/
theorem Serviced.completionDone_eq
    {after : Own}
    (serviced : Serviced floor own after) :
    after.completionDone = own.completionDone := by
  obtain ⟨_, _, _, _, _, rfl, _⟩ := serviced
  rfl

/-- A service pass is no matter of the packet in work. -/
theorem Serviced.current_eq
    {after : Own}
    (serviced : Serviced floor own after) :
    after.current = own.current := by
  obtain ⟨_, _, _, _, _, rfl, _⟩ := serviced
  rfl

/-- Entries are only taken. -/
theorem Serviced.completionTaken_le
    {after : Own}
    (serviced : Serviced floor own after) :
    own.completionTaken ≤ after.completionTaken := by
  obtain ⟨_, _, _, _, _, rfl, _, _, further, _⟩ := serviced
  exact further

/-- What was complete at the beginning was taken. -/
theorem Serviced.completed
    {after : Own}
    (serviced : Serviced floor own after) :
    floor.completed ≤ after.completionTaken := by
  obtain ⟨_, _, _, _, _, rfl, _, _, _, reaches⟩ := serviced
  exact reaches

/-- Draining is a number of service passes, and returns what is outstanding. -/
theorem drainUntil_meets
    {beforeDeadline : List Bool}
    (settled : own.completionDone = 0)
    (between : own.current = none)
    (noted : own.sendtoNoted = own.wakeups.sendtoCalls)
    (near :
      floor.completed ≤
        own.completionTaken + 2 ^ config.completionOrder.val) :
    Meets (workerSetting config rewrite admits direct floor)
      (· = own) (Transmitter.drainUntil config beforeDeadline)
      (fun remaining after =>
        Serviced floor own after ∧
          remaining = after.transmitter.outstanding) := by
  have askOutstanding :
      ∀ {own : Own},
        Meets (workerSetting config rewrite admits direct floor)
          (· = own)
          (Prog.ask fun world => world.transmitter.outstanding)
          (fun remaining after =>
            after = own ∧
              remaining = own.transmitter.outstanding) := by
    intro own
    refine Meets.ask ?_
    rintro world _ _ rfl
    exact ⟨rfl, rfl⟩
  induction beforeDeadline generalizing own with
  | nil =>
      refine Meets.bind _
        (publishAndServiceTx_meets settled between noted near) ?_
      rintro _ middle ⟨serviced, _⟩
      refine askOutstanding.weaken ?_
      rintro remaining _ ⟨rfl, rfl⟩
      exact ⟨serviced, rfl⟩
  | cons early later inductionHypothesis =>
      refine Meets.bind _
        (publishAndServiceTx_meets settled between noted near) ?_
      rintro _ middle ⟨serviced, _⟩
      refine Meets.bind _ askOutstanding ?_
      rintro remaining _ ⟨rfl, rfl⟩
      split
      · have further := serviced.completionTaken_le
        refine (inductionHypothesis
          (serviced.completionDone_eq.trans settled)
          (serviced.current_eq.trans between)
          serviced.noted (by omega)).weaken ?_
        rintro remaining after ⟨servicedAgain, drained⟩
        exact ⟨serviced.trans servicedAgain, drained⟩
      · exact Meets.done ⟨serviced, rfl⟩

/-! ## Sending -/

/-- A packet of the hand that is offered to the transmitter. -/
structure Offered
    (direct : Bool)
    (own : Own)
    (packet : Packet) : Prop where
  member :
    packet ∈ own.hand
  offering :
    Offering direct own.current own.hand packet.1

/-- What a call of `send_in_place` leaves. -/
def Sent (own after : Own) (addr : UInt64) (accepted : Bool) : Prop :=
  ∃ transmitter,
    after =
      { own with
        transmitter := transmitter
        hand :=
          if accepted then
            own.hand.eraseP fun held => held.1.addr = addr
          else
            own.hand
        current :=
          own.current.map fun inFlight =>
            { inFlight with
              progress := inFlight.progress.offer accepted } }

/-- A rejected frame was sent as far as its packet is concerned: not at all. -/
theorem rejectFrame_meets
    {packet : Packet}
    (offered : Offered direct own packet) :
    Meets (workerSetting config rewrite admits direct floor)
      (· = own) (Prog.update Transmitter.rejectFrame)
      (fun _ after => Sent own after packet.1.addr false) := by
  refine Meets.update ?_
  rintro world core _ rfl
  exact ⟨.rejectFrame offered.offering, _, rfl⟩

/-- After `reserve` there is a window. -/
theorem reserve_meets :
    Meets (workerSetting config rewrite admits direct floor)
      (· = own) (Prog.update Transmitter.reserve)
      (fun _ after =>
        ∃ transmitter,
          after = { own with transmitter := transmitter } ∧
            transmitter.reserved = true) := by
  refine Meets.update ?_
  rintro world core _ rfl
  refine ⟨.reserve world, ?_⟩
  rw [Transmitter.reserve]
  split
  · next isOpen =>
      exact ⟨_, rfl, isOpen⟩
  · exact ⟨_, rfl, rfl⟩

/-- The window has room, or the ring is full. -/
theorem refresh_meets
    (isOpen : own.transmitter.reserved = true) :
    Meets (workerSetting config rewrite admits direct floor)
      (· = own) (Prog.act Transmitter.refresh)
      (fun full after =>
        ∃ transmitter,
          after = { own with transmitter := transmitter } ∧
            transmitter.reserved = true ∧
            (full = false →
              transmitter.txUsed.toNat <
                transmitter.txAvail.toNat)) := by
  refine Meets.act ?_
  rintro world core _ rfl
  have stillOpen :
      (Transmitter.refresh world).2.transmitter.reserved = true :=
    Transmitter.refresh_branches isOpen isOpen
  have fits := (core.keeps_refresh isOpen).txWindow.fits stillOpen
  refine ⟨.refresh isOpen, (Transmitter.refresh world).2.transmitter,
    Transmitter.refresh_branches rfl rfl, stillOpen, ?_⟩
  intro notFull
  exact Nat.lt_of_le_of_ne fits.1 (Transmitter.refresh_ne notFull)

/-- Staging the offered packet within the window sends it. -/
theorem stage_meets
    {packet : Packet}
    (isOpen : own.transmitter.reserved = true)
    (room :
      own.transmitter.txUsed.toNat < own.transmitter.txAvail.toNat)
    (offered : Offered direct own packet) :
    Meets (workerSetting config rewrite admits direct floor)
      (· = own)
      (Prog.update
        (Transmitter.stage packet.1.addr packet.1.len))
      (fun _ after => Sent own after packet.1.addr true) := by
  refine Meets.update ?_
  rintro world core _ rfl
  exact ⟨.stage isOpen room offered.member offered.offering, _, rfl⟩

/-- `send_in_place` stages the packet it is offered, or rejects it. -/
theorem sendInPlace_meets
    {packet : Packet}
    (offered : Offered direct own packet) :
    Meets (workerSetting config rewrite admits direct floor)
      (· = own)
      (Transmitter.sendInPlace config packet.1.addr packet.1.len)
      (fun accepted after =>
        Sent own after packet.1.addr accepted) := by
  rw [Transmitter.sendInPlace]
  split
  · refine Meets.bind _ (rejectFrame_meets offered) ?_
    intro _ after sent
    exact Meets.done sent
  · refine Meets.bind _ reserve_meets ?_
    rintro _ _ ⟨reserved, rfl, isOpen⟩
    refine Meets.bind _ (refresh_meets isOpen) ?_
    rintro full _ ⟨refreshed, rfl, stillOpen, room⟩
    split
    · refine Meets.bind _
        (rejectFrame_meets { offered with }) ?_
      rintro _ _ ⟨transmitter, rfl⟩
      exact Meets.done ⟨transmitter, rfl⟩
    · next notFull =>
        refine Meets.bind _
          (stage_meets stillOpen
            (room (by simpa using notFull)) { offered with }) ?_
        rintro _ _ ⟨transmitter, rfl⟩
        exact Meets.done ⟨transmitter, rfl⟩

end Functions

end AfXdp
