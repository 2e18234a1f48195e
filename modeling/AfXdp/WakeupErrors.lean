import AfXdp.InterleavingLockstep
import AfXdp.ReceiverRuns

namespace AfXdp

open Interleaving
open SequenceIndex

/-!
# Failed wakeups

A wakeup that fails changes what is reported and nothing else.  Two runs with
the same events, whose wakeup calls return different results, are alike in
everything but the recorded errors; and each run records exactly the errors
that its own calls returned.
-/

/-! ## Everything but the errors -/

/-- The transmitter with its counters of failed wakeups cleared. -/
def Transmitter.withoutErrors (transmitter : Transmitter) : Transmitter :=
  { transmitter with
    retryableWakeupErrors := 0
    firstWakeupError := 0 }

/-- The receiver with its first failed wakeup cleared. -/
def Receiver.withoutErrors (receiver : Receiver) : Receiver :=
  { receiver with firstWakeupError := 0 }

/-- The summary with what it says about failed wakeups cleared. -/
def RunSummary.withoutErrors (summary : RunSummary) : RunSummary :=
  { summary with
    txRetryableWakeupErrors := 0
    rxFirstWakeupErrno := 0
    txFirstWakeupErrno := 0 }

/-- The state without recorded errors and without outcomes to come. -/
def World.withoutErrors (world : World) : World :=
  { world with
    transmitter := world.transmitter.withoutErrors
    receiver := world.receiver.withoutErrors
    wakeups :=
      { world.wakeups with
        sendto := fun _ => none
        recvfrom := fun _ => none }
    summary := world.summary.map RunSummary.withoutErrors }

/-- Equal in everything but the outcomes of wakeups. -/
def Alike (one two : World) : Prop :=
  one.withoutErrors = two.withoutErrors

/-- The action neither reads nor writes the outcomes of wakeups. -/
def Blind
    {Result : Type}
    (action : World → Result × World) : Prop :=
  ∀ world,
    action world.withoutErrors =
      ((action world).1, (action world).2.withoutErrors)

section Rules

variable {Result : Type}
variable {one two : World}

/-- An effect that does not look at outcomes keeps worlds alike. -/
theorem Alike.effect
    (write : World → World)
    (blind :
      ∀ world : World,
        write world.withoutErrors = (write world).withoutErrors)
    (alike : Alike one two) :
    Alike (write one) (write two) := by
  rw [Alike, ← blind, ← blind, alike]

/-- A blind action returns the same from states that are alike. -/
theorem Blind.result_eq
    {action : World → Result × World}
    (blind : Blind action)
    (alike : Alike one two) :
    (action one).1 = (action two).1 := by
  have unseen := blind two
  rw [← alike, blind one, Prod.mk.injEq] at unseen
  exact unseen.1

/-- A blind step is in lockstep with itself. -/
theorem Blind.act
    {action : World → Result × World}
    (blind : Blind action) :
    Lockstep Alike (· = ·) (Prog.act action) (Prog.act action) :=
  Lockstep.act blind.result_eq fun alike =>
    alike.effect (fun world => (action world).2)
      fun world => congrArg Prod.snd (blind world)

/-- A question that does not look at wakeups has the same answer. -/
theorem Blind.ask
    {read : World → Result}
    (blind : ∀ world : World, read world.withoutErrors = read world) :
    Lockstep Alike (· = ·) (Prog.ask read) (Prog.ask read) := by
  refine Blind.act ?_
  intro world
  simp only [blind world]

/-- A write that does not look at wakeups keeps states alike. -/
theorem Blind.update
    {write : World → World}
    (blind :
      ∀ world : World,
        write world.withoutErrors = (write world).withoutErrors) :
    Lockstep Alike (fun _ _ => True)
      (Prog.update write) (Prog.update write) :=
  Lockstep.update fun alike => alike.effect write blind

end Rules

/-! ## The worker's code in lockstep -/

section Code

variable {config : Config}
variable {rewrite : Rewrite}

/-- The two runs may see different outcomes. -/
theorem requestTxProgress_lockstep :
    Lockstep Alike (fun _ _ => True)
      (Xsk.requestTxProgress config) (Xsk.requestTxProgress config) := by
  refine Lockstep.bind (Blind.ask fun _ => rfl) ?_
  rintro wanted _ rfl
  split
  · exact Lockstep.act (fun _ => trivial) fun alike =>
      alike.effect (fun world => (Xsk.sendto world).2) fun _ => rfl
  · exact .done trivial

/-- The two results may differ, but nothing else. -/
theorem requestRxProgress_lockstep :
    Lockstep Alike (fun _ _ => True)
      (Xsk.requestRxProgress config) (Xsk.requestRxProgress config) := by
  refine Lockstep.bind (Blind.ask fun _ => rfl) ?_
  rintro wanted _ rfl
  split
  · exact Lockstep.act (fun _ => trivial) fun alike =>
      alike.effect (fun world => (Xsk.recvfrom world).2) fun _ => rfl
  · exact .done trivial

/-- Classifying a result changes only the error counters. -/
theorem Transmitter.classifyWakeup_withoutErrors
    (transmitter : Transmitter)
    (result : Option Errno) :
    (transmitter.classifyWakeup result).withoutErrors =
      transmitter.withoutErrors := by
  unfold classifyWakeup
  split
  · rfl
  · split
    · rfl
    · split <;> rfl

/-- The same on the side of the receiver. -/
theorem Receiver.classifyWakeup_withoutErrors
    (receiver : Receiver)
    (result : Option Errno) :
    (receiver.classifyWakeup result).withoutErrors =
      receiver.withoutErrors := by
  unfold classifyWakeup
  split
  · rfl
  · split <;> rfl

/-- Noting different results leads to states that are alike. -/
theorem noteTxWakeup_lockstep
    (resultOne resultTwo : Option Errno) :
    Lockstep Alike (fun _ _ => True)
      (Prog.update (Transmitter.noteTxWakeup resultOne))
      (Prog.update (Transmitter.noteTxWakeup resultTwo)) := by
  have unseen
      (result : Option Errno)
      (world : World) :
      (Transmitter.noteTxWakeup result world).withoutErrors =
        Transmitter.noteTxWakeup none world.withoutErrors := by
    simp only [World.withoutErrors, Transmitter.noteTxWakeup,
      Transmitter.classifyWakeup_withoutErrors]
    rfl
  refine Lockstep.update ?_
  intro one two alike
  rw [Alike, unseen, unseen, alike]

/-- The same on the side of the receiver. -/
theorem noteRxWakeup_lockstep
    (resultOne resultTwo : Option Errno) :
    Lockstep Alike (fun _ _ => True)
      (Prog.update (Receiver.noteRxWakeup resultOne))
      (Prog.update (Receiver.noteRxWakeup resultTwo)) := by
  have unseen
      (result : Option Errno)
      (world : World) :
      (Receiver.noteRxWakeup result world).withoutErrors =
        Receiver.noteRxWakeup none world.withoutErrors := by
    simp only [World.withoutErrors, Receiver.noteRxWakeup,
      Receiver.classifyWakeup_withoutErrors]
    rfl
  refine Lockstep.update ?_
  intro one two alike
  rw [Alike, unseen, unseen, alike]

/-- An entry of Fill is written from the allocator alone. -/
theorem fillPush_blind (index : UInt32) : Blind (Xsk.fillPush index) := by
  intro world
  have same : world.withoutErrors.allocator = world.allocator := rfl
  unfold Xsk.fillPush
  rw [same]
  split <;> rfl

/-- By induction on the entries that remain. -/
theorem fillLoop_lockstep
    (start : UInt32)
    (remaining pushed : Nat) :
    Lockstep Alike (· = ·)
      (Xsk.fillLoop start remaining pushed)
      (Xsk.fillLoop start remaining pushed) := by
  induction remaining generalizing pushed with
  | zero =>
      exact .done rfl
  | succ remaining inductionHypothesis =>
      refine (fillPush_blind _).act.bind ?_
      rintro popped _ rfl
      split
      · exact inductionHypothesis (pushed + 1)
      · exact .done rfl

/-- Refilling Fill asks for no wakeup. -/
theorem refillFill_lockstep :
    Lockstep Alike (· = ·) Xsk.refillFill Xsk.refillFill := by
  refine Lockstep.bind (Blind.act fun _ => rfl) ?_
  rintro window _ rfl
  refine (fillLoop_lockstep _ _ _).bind ?_
  rintro pushed _ rfl
  refine Lockstep.bind (Lockstep.when (Blind.update fun _ => rfl)) ?_
  intro _ _ _
  exact .done rfl

/-- Reclaiming depends on the Completion ring alone. -/
theorem reclaimCompletedFrames_lockstep (budget : UInt32) :
    Lockstep Alike (· = ·)
      (Transmitter.reclaimCompletedFrames config budget)
      (Transmitter.reclaimCompletedFrames config budget) := by
  refine Lockstep.bind (Blind.act fun _ => rfl) ?_
  rintro window _ rfl
  split
  · exact .done rfl
  · refine Lockstep.bind (Blind.update fun _ => rfl) fun _ => ?_
    refine Lockstep.bind
      (Lockstep.forRange _ fun index => Blind.update fun _ => rfl)
      fun _ => ?_
    refine Lockstep.bind (Blind.update fun _ => rfl) fun _ => ?_
    exact .done rfl

/-- Reserving a window does not look at wakeups. -/
theorem reserve_withoutErrors (world : World) :
    Transmitter.reserve world.withoutErrors =
      (Transmitter.reserve world).withoutErrors := by
  unfold Transmitter.reserve
  change (if world.transmitter.reserved = true then _ else _) = _
  split <;> rfl

/-- Nor does refreshing it. -/
theorem refresh_blind : Blind Transmitter.refresh := by
  intro world
  unfold Transmitter.refresh
  change
    (if world.transmitter.txUsed = world.transmitter.txAvail then _
      else _) = _
  split <;> rfl

/-- Nor does publishing what is staged. -/
theorem publishStaged_withoutErrors (world : World) :
    Transmitter.publishStaged world.withoutErrors =
      (Transmitter.publishStaged world).withoutErrors := by
  have same :
      world.withoutErrors.transmitter.txUsed =
        world.transmitter.txUsed :=
    rfl
  unfold Transmitter.publishStaged
  simp only [same]
  split <;> rfl

/-- A frame is accepted by both, or rejected by both. -/
theorem sendInPlace_lockstep (addr : UInt64) (length : UInt32) :
    Lockstep Alike (· = ·)
      (Transmitter.sendInPlace config addr length)
      (Transmitter.sendInPlace config addr length) := by
  unfold Transmitter.sendInPlace
  split
  · exact Lockstep.bind (Blind.update fun _ => rfl) fun _ => .done rfl
  · refine Lockstep.bind (Blind.update reserve_withoutErrors) fun _ => ?_
    refine refresh_blind.act.bind ?_
    rintro full _ rfl
    split
    · exact Lockstep.bind (Blind.update fun _ => rfl) fun _ => .done rfl
    · exact Lockstep.bind (Blind.update fun _ => rfl) fun _ => .done rfl

/-- A service pass asks for a wakeup, but does not act on its result. -/
theorem publishAndServiceTx_lockstep :
    Lockstep Alike (fun _ _ => True)
      (Transmitter.publishAndServiceTx config)
      (Transmitter.publishAndServiceTx config) := by
  refine Lockstep.bind (Blind.update publishStaged_withoutErrors) fun _ => ?_
  refine Lockstep.bind (Blind.ask fun _ => rfl) ?_
  rintro idle _ rfl
  split
  · exact .done trivial
  · refine Lockstep.bind (Blind.ask fun _ => rfl) ?_
    rintro budget _ rfl
    refine (reclaimCompletedFrames_lockstep _).bind ?_
    rintro reaped _ rfl
    refine Lockstep.bind (Blind.ask fun _ => rfl) ?_
    rintro idle _ rfl
    split
    · exact .done trivial
    · refine requestTxProgress_lockstep.bind ?_
      intro resultOne resultTwo _
      refine (noteTxWakeup_lockstep _ _).bind fun _ => ?_
      refine Lockstep.when ?_
      exact (reclaimCompletedFrames_lockstep _).bind fun _ =>
        .done trivial

/-- Draining ends at the same time with the same remainder. -/
theorem drainUntil_lockstep (beforeDeadline : List Bool) :
    Lockstep Alike (· = ·)
      (Transmitter.drainUntil config beforeDeadline)
      (Transmitter.drainUntil config beforeDeadline) := by
  induction beforeDeadline with
  | nil =>
      exact publishAndServiceTx_lockstep.bind fun _ =>
        Blind.ask fun _ => rfl
  | cons early later inductionHypothesis =>
      refine publishAndServiceTx_lockstep.bind fun _ => ?_
      refine Lockstep.bind (Blind.ask fun _ => rfl) ?_
      rintro outstanding _ rfl
      split
      · exact inductionHypothesis
      · exact .done rfl

/-- The callback decides by the packet and by the window on TX. -/
theorem strategy_lockstep (packet : PacketView) :
    Lockstep Alike (· = ·)
      (Main.strategy config rewrite packet)
      (Main.strategy config rewrite packet) := by
  refine Lockstep.bind (Blind.act fun _ => rfl) ?_
  rintro data _ rfl
  refine Lockstep.bind (Blind.ask fun _ => rfl) ?_
  rintro handed _ rfl
  refine Lockstep.bind (Blind.update fun _ => rfl) fun _ => ?_
  refine Lockstep.bind (?_ : Lockstep Alike (· = ·) _ _) ?_
  · split
    · exact sendInPlace_lockstep _ _
    · exact .done rfl
  · rintro transferred _ rfl
    refine Lockstep.bind (Blind.update fun _ => rfl) fun _ => ?_
    exact .done rfl

/-- One descriptor, from handing it out to recycling its frame. -/
theorem handleDesc_lockstep (index : UInt32) :
    Lockstep Alike (fun _ _ => True)
      (Receiver.handleDesc config (Main.strategy config rewrite) index)
      (Receiver.handleDesc config (Main.strategy config rewrite) index) := by
  refine Lockstep.bind (Blind.act fun _ => rfl) ?_
  rintro desc _ rfl
  refine (strategy_lockstep _).bind ?_
  rintro disposition _ rfl
  exact Lockstep.when (Blind.update fun _ => rfl)

/-- Fill is topped up by the same number of frames. -/
theorem maintainFill_lockstep :
    Lockstep Alike (· = ·)
      (Receiver.maintainFill config) (Receiver.maintainFill config) := by
  have queuedEntryCount :
      Lockstep Alike (· = ·)
        Xsk.fillQueuedEntryCount Xsk.fillQueuedEntryCount := by
    refine Lockstep.bind (Blind.ask fun _ => rfl) ?_
    rintro producer _ rfl
    refine Lockstep.bind (Blind.ask fun _ => rfl) ?_
    rintro consumer _ rfl
    exact .done rfl
  refine queuedEntryCount.bind ?_
  rintro queued _ rfl
  split
  · refine refillFill_lockstep.bind ?_
    rintro pushed _ rfl
    refine Lockstep.bind (Lockstep.when (Blind.update fun _ => rfl)) fun _ => ?_
    exact .done rfl
  · exact .done rfl

/-- Whether a wakeup is asked for does not depend on earlier results. -/
theorem maintainRx_lockstep (amount pushed : UInt32) :
    Lockstep Alike (fun _ _ => True)
      (Receiver.maintainRx config amount pushed)
      (Receiver.maintainRx config amount pushed) := by
  refine Lockstep.bind (?_ : Lockstep Alike (· = ·) _ _) ?_
  · split
    · exact .done rfl
    · exact Blind.ask fun _ => rfl
  · rintro wanted _ rfl
    refine Lockstep.when ?_
    exact requestRxProgress_lockstep.bind fun _ =>
      noteRxWakeup_lockstep _ _

/-- A whole turn of the worker. -/
theorem workerTurn_lockstep :
    Lockstep Alike (fun _ _ => True)
      (Main.workerTurn config rewrite) (Main.workerTurn config rewrite) := by
  have pass :
      Lockstep Alike (· = ·)
        (Receiver.processRxAndMaintainIo config
          (Main.strategy config rewrite)
          (Transmitter.publishAndServiceTx config))
        (Receiver.processRxAndMaintainIo config
          (Main.strategy config rewrite)
          (Transmitter.publishAndServiceTx config)) := by
    refine Lockstep.bind (Blind.act fun _ => rfl) ?_
    rintro window _ rfl
    refine Lockstep.bind
      (Lockstep.forRange _ fun _ => handleDesc_lockstep _)
      fun _ => ?_
    refine Lockstep.bind (Lockstep.when (Blind.update fun _ => rfl)) fun _ => ?_
    refine publishAndServiceTx_lockstep.bind fun _ => ?_
    refine maintainFill_lockstep.bind ?_
    rintro pushed _ rfl
    refine (maintainRx_lockstep _ _).bind fun _ => ?_
    exact .done rfl
  refine pass.bind ?_
  rintro processed _ rfl
  exact Lockstep.when (Blind.update fun _ => rfl)

/-- The startup, which prints the result of its wakeup. -/
theorem startup_lockstep :
    Lockstep Alike (fun _ _ => True)
      (Main.startup config) (Main.startup config) := by
  refine refillFill_lockstep.bind fun _ => ?_
  refine requestRxProgress_lockstep.bind fun _ => ?_
  exact Blind.update fun _ => rfl

/-- The shutdown, up to the final report. -/
theorem shutdown_lockstep (beforeDeadline : List Bool) :
    Lockstep Alike (fun _ _ => True)
      (Main.shutdown config beforeDeadline)
      (Main.shutdown config beforeDeadline) := by
  refine (drainUntil_lockstep _).bind ?_
  rintro remaining _ rfl
  have unseen
      (world : World) :
      (Main.summarize remaining world).withoutErrors =
        (Main.summarize remaining world.withoutErrors).withoutErrors :=
    rfl
  refine Lockstep.update ?_
  intro one two alike
  rw [Alike, unseen, unseen two, alike]

end Code

/-- The kernel does not look at the error counters either. -/
theorem kernelStep_alike
    {config : Config}
    {admits : List UInt8 → Bool}
    {step : KernelStep}
    {one two after : World}
    (alike : Alike one two)
    (performed : step.perform config admits one = some after) :
    ∃ after',
      step.perform config admits two = some after' ∧
        Alike after after' := by
  have blind (world : World) :
      step.effect config world.withoutErrors =
        (step.effect config world).withoutErrors := by
    cases step <;> rfl
  have sameAllowed (world : World) :
      step.Allowed config admits world.withoutErrors ↔
        step.Allowed config admits world := by
    cases step <;> exact Iff.rfl
  obtain ⟨allowed, rfl⟩ := KernelStep.perform_eq_some.mp performed
  rw [← sameAllowed, alike, sameAllowed] at allowed
  exact ⟨_, KernelStep.perform_eq_some.mpr ⟨allowed, rfl⟩,
    alike.effect (fun world => step.effect config world) blind⟩

/-! ## What a run records -/

/-- The errors among the outcomes of the calls `first`, ..., `calls - 1`. -/
def failures
    (outcomes : Nat → Option Errno)
    (first calls : Nat) :
    List Errno :=
  (List.range' first (calls - first)).filterMap outcomes

/-- One more call adds its failure, if it is one. -/
theorem failures_succ
    {outcomes : Nat → Option Errno}
    {first calls : Nat}
    (made : first ≤ calls) :
    failures outcomes first (calls + 1) =
      failures outcomes first calls ++ (outcomes calls).toList := by
  have amount : calls + 1 - first = calls - first + 1 := by
    omega
  have last : first + (calls - first) = calls := by
    omega
  rw [failures, failures, amount, List.range'_1_concat,
    List.filterMap_append, last]
  cases outcome : outcomes calls with
  | none =>
      simp only [List.filterMap_cons, outcome, List.filterMap_nil,
        Option.toList_none]
  | some error =>
      simp only [List.filterMap_cons, outcome, List.filterMap_nil,
        Option.toList_some]

/-- The code of the first error, or zero. -/
def firstCode (errors : List Errno) : Nat :=
  (errors.head?.map Errno.code).getD 0

/-- The first failure of the whole is the first of the earlier part, if any. -/
theorem firstCode_append (earlier later : List Errno) :
    firstCode (earlier ++ later) =
      if firstCode earlier = 0 then
        firstCode later
      else
        firstCode earlier := by
  cases earlier with
  | nil =>
      rfl
  | cons error rest =>
      exact (if_neg (Nat.ne_of_gt error.positive)).symm

/-- The errors after which the TX path simply tries again. -/
def retriedOnTx : List Errno :=
  [.eagain, .eintr, .ebusy, .enobufs]

/-- The errors after which the RX path simply tries again. -/
def retriedOnRx : List Errno :=
  [.eagain, .eintr, .ebusy]

/-- The predicate of the source as a list of errors. -/
theorem isExpectedWakeupRetry_eq (error : Errno) :
    isExpectedWakeupRetry error = decide (error ∈ retriedOnRx) := by
  simp [isExpectedWakeupRetry, retriedOnRx, Bool.or_assoc]

/-- On TX one more error is expected. -/
theorem retriedOnTx_eq (error : Errno) :
    (isExpectedWakeupRetry error || decide (error = .enobufs)) =
      decide (error ∈ retriedOnTx) := by
  simp [isExpectedWakeupRetry, retriedOnTx, Bool.or_assoc]

/-- The effect of one outcome on the count of retried TX wakeups. -/
theorem Transmitter.classifyWakeup_retryable
    (transmitter : Transmitter)
    (result : Option Errno) :
    (transmitter.classifyWakeup result).retryableWakeupErrors =
      transmitter.retryableWakeupErrors +
        UInt64.ofNat (result.toList.countP (· ∈ retriedOnTx)) := by
  cases result with
  | none =>
      exact (UInt64.add_zero _).symm
  | some error =>
      rw [classifyWakeup, retriedOnTx_eq, Option.toList_some,
        List.countP_singleton]
      split
      · rfl
      · change _ = transmitter.retryableWakeupErrors + 0
        rw [UInt64.add_zero]
        split <;> rfl

/-- The first error that is not retried stays. -/
theorem Transmitter.classifyWakeup_firstError
    (transmitter : Transmitter)
    (result : Option Errno) :
    (transmitter.classifyWakeup result).firstWakeupError =
      if transmitter.firstWakeupError = 0 then
        firstCode (result.toList.filter (· ∉ retriedOnTx))
      else
        transmitter.firstWakeupError := by
  cases result with
  | none =>
      by_cases unset : transmitter.firstWakeupError = 0
      · rw [if_pos unset]
        exact unset
      · rw [if_neg unset]
        rfl
  | some error =>
      rw [classifyWakeup, retriedOnTx_eq, Option.toList_some]
      by_cases retried : error ∈ retriedOnTx
      · simp [retried, firstCode]
      · simp [retried, firstCode]
        split <;> rfl

/-- The first failure that is not expected is kept for good. -/
theorem Receiver.classifyWakeup_firstError
    (receiver : Receiver)
    (result : Option Errno) :
    (receiver.classifyWakeup result).firstWakeupError =
      if receiver.firstWakeupError = 0 then
        firstCode (result.toList.filter (· ∉ retriedOnRx))
      else
        receiver.firstWakeupError := by
  cases result with
  | none =>
      by_cases unset : receiver.firstWakeupError = 0
      · rw [if_pos unset]
        exact unset
      · rw [if_neg unset]
        rfl
  | some error =>
      rw [classifyWakeup, isExpectedWakeupRetry_eq, Option.toList_some]
      by_cases retried : error ∈ retriedOnRx
      · simp [retried, firstCode]
      · simp [retried, firstCode]
        split <;> rfl

/-- What the worker has recorded, and how many outcomes it looked at. -/
structure WakeupReport where
  sendto : Nat → Option Errno
  recvfrom : Nat → Option Errno
  sendtoNoted : Nat
  recvfromNoted : Nat
  recvfromPrinted : Nat
  retryableWakeupErrors : UInt64
  txFirstWakeupError : Nat
  rxFirstWakeupError : Nat

/-- What the state says about its wakeups. -/
def World.wakeupReport (world : World) : WakeupReport where
  sendto := world.wakeups.sendto
  recvfrom := world.wakeups.recvfrom
  sendtoNoted := world.aux.sendtoNoted
  recvfromNoted := world.aux.recvfromNoted
  recvfromPrinted := world.aux.recvfromPrinted
  retryableWakeupErrors := world.transmitter.retryableWakeupErrors
  txFirstWakeupError := world.transmitter.firstWakeupError
  rxFirstWakeupError := world.receiver.firstWakeupError

/-- The records say what the outcomes looked at so far were. -/
structure WakeupReport.Faithful
    (scenario : Scenario)
    (report : WakeupReport) : Prop where
  sendto :
    report.sendto = scenario.sendto
  recvfrom :
    report.recvfrom = scenario.recvfrom
  retryable :
    report.retryableWakeupErrors =
      UInt64.ofNat
        ((failures scenario.sendto 0 report.sendtoNoted).countP
          (· ∈ retriedOnTx))
  txFirst :
    report.txFirstWakeupError =
      firstCode
        ((failures scenario.sendto 0 report.sendtoNoted).filter
          (· ∉ retriedOnTx))
  printed :
    report.recvfromPrinted ≤ report.recvfromNoted
  rxFirst :
    report.rxFirstWakeupError =
      firstCode
        ((failures scenario.recvfrom report.recvfromPrinted
          report.recvfromNoted).filter (· ∉ retriedOnRx))

/-- The state's records say what the outcomes looked at so far were. -/
def World.Recorded (scenario : Scenario) (world : World) : Prop :=
  world.wakeupReport.Faithful scenario

section Records

variable {scenario : Scenario}
variable {world : World}
variable {result : Option Errno}

/-- What a fresh outcome adds to the failures. -/
theorem Fresh.failures_eq
    {outcomes : Nat → Option Errno}
    {first calls noted : Nat}
    (fresh : Fresh outcomes calls noted result)
    (made : first ≤ noted) :
    failures outcomes first calls =
      failures outcomes first noted ++ result.toList := by
  obtain ⟨rfl, rfl⟩ | ⟨rfl, rfl⟩ := fresh
  · exact (List.append_nil _).symm
  · exact failures_succ made

/-- Noting the result of the last call keeps the report faithful. -/
theorem WakeupReport.Faithful.noteTxWakeup
    (faithful : WakeupReport.Faithful scenario world.wakeupReport)
    (fresh :
      Fresh world.wakeups.sendto world.wakeups.sendtoCalls
        world.aux.sendtoNoted result) :
    WakeupReport.Faithful scenario
      (Transmitter.noteTxWakeup result world).wakeupReport := by
  have outcomes : world.wakeups.sendto = scenario.sendto :=
    faithful.sendto
  rw [outcomes] at fresh
  have added := fresh.failures_eq (Nat.zero_le _)
  refine { faithful with retryable := ?_, txFirst := ?_, rxFirst := ?_ }
  · change
      (world.transmitter.classifyWakeup result).retryableWakeupErrors =
        UInt64.ofNat
          ((failures scenario.sendto 0
            world.wakeups.sendtoCalls).countP (· ∈ retriedOnTx))
    rw [added, List.countP_append, UInt64.ofNat_add,
      Transmitter.classifyWakeup_retryable]
    exact congrArg (· + _) faithful.retryable
  · change
      (world.transmitter.classifyWakeup result).firstWakeupError =
        firstCode
          ((failures scenario.sendto 0
            world.wakeups.sendtoCalls).filter (· ∉ retriedOnTx))
    rw [added, List.filter_append, firstCode_append,
      Transmitter.classifyWakeup_firstError]
    have before : world.transmitter.firstWakeupError = _ :=
      faithful.txFirst
    rw [before]
    rfl
  · exact faithful.rxFirst

/-- The same on the side of the receiver. -/
theorem WakeupReport.Faithful.noteRxWakeup
    (faithful : WakeupReport.Faithful scenario world.wakeupReport)
    (fresh :
      Fresh world.wakeups.recvfrom world.wakeups.recvfromCalls
        world.aux.recvfromNoted result) :
    WakeupReport.Faithful scenario
      (Receiver.noteRxWakeup result world).wakeupReport := by
  have outcomes : world.wakeups.recvfrom = scenario.recvfrom :=
    faithful.recvfrom
  rw [outcomes] at fresh
  have printed :
      world.aux.recvfromPrinted ≤ world.aux.recvfromNoted :=
    faithful.printed
  have added := fresh.failures_eq printed
  refine { faithful with printed := ?_, rxFirst := ?_ }
  · change world.aux.recvfromPrinted ≤ world.wakeups.recvfromCalls
    obtain ⟨same, _⟩ | ⟨same, _⟩ := fresh <;> omega
  · change
      (world.receiver.classifyWakeup result).firstWakeupError =
        firstCode
          ((failures scenario.recvfrom world.aux.recvfromPrinted
            world.wakeups.recvfromCalls).filter (· ∉ retriedOnRx))
    have before : world.receiver.firstWakeupError = _ :=
      faithful.rxFirst
    rw [added, List.filter_append, firstCode_append,
      Receiver.classifyWakeup_firstError, before]
    rfl

/-- The outcome of the first RX wakeup is left out of the records. -/
theorem WakeupReport.Faithful.printInitialWakeup
    (faithful : WakeupReport.Faithful scenario world.wakeupReport)
    (unset : world.receiver.firstWakeupError = 0) :
    WakeupReport.Faithful scenario
      (Main.printInitialWakeup world).wakeupReport := by
  refine { faithful with printed := Nat.le_refl _, rxFirst := ?_ }
  change
    world.receiver.firstWakeupError =
      firstCode
        ((failures scenario.recvfrom world.wakeups.recvfromCalls
          world.wakeups.recvfromCalls).filter (· ∉ retriedOnRx))
  rw [unset, failures, Nat.sub_self]
  rfl

/-- Any other step of the worker notes nothing. -/
theorem WakeupReport.Faithful.workerStep
    {before after : World}
    (step : WorkerStep scenario.config scenario.rewrite false before after)
    (faithful : WakeupReport.Faithful scenario before.wakeupReport) :
    WakeupReport.Faithful scenario after.wakeupReport := by
  cases step with
  | noteTxWakeup fresh =>
      exact faithful.noteTxWakeup fresh
  | noteRxWakeup fresh =>
      exact faithful.noteRxWakeup fresh
  | printInitialWakeup _ unset =>
      exact faithful.printInitialWakeup unset
  | fillPush =>
      exact Xsk.fillPush_branches faithful fun _ _ => faithful
  | reserve =>
      exact Transmitter.reserve_branches faithful faithful
  | refresh =>
      exact Transmitter.refresh_branches faithful faithful
  | publishStaged =>
      exact Transmitter.publishStaged_branches
        (fun _ => faithful) (fun _ => faithful)
  | _ =>
      exact faithful

end Records

namespace Scenario

variable {scenario : Scenario}
variable {events : List (Event WorkerCall KernelStep)}
variable {final : Configuration World}

/-- In every state the error counters are those of the calls made so far. -/
theorem reaches_faithful
    (reaches : scenario.Reaches events final) :
    final.state.Recorded scenario := by
  refine reaches_invariant ?_ ?_ ?_ reaches
  · exact
      { sendto := rfl
        recvfrom := rfl
        retryable := rfl
        txFirst := rfl
        printed := Nat.le_refl _
        rxFirst := rfl }
  · intro step before after _ performed faithful
    obtain ⟨_, rfl⟩ := KernelStep.perform_eq_some.mp performed
    cases step <;> exact faithful
  · intro before after _ step faithful
    exact faithful.workerStep step

/-- The same run with other outcomes of the wakeup calls. -/
def withWakeups
    (scenario : Scenario)
    (sendto recvfrom : Nat → Option Errno) :
    Scenario :=
  { scenario with
    sendto := sendto
    recvfrom := recvfrom }

/-- The two machines differ in the outcomes of wakeups, and in nothing else. -/
theorem withWakeups_paired
    (sendto recvfrom : Nat → Option Errno) :
    Machine.Paired Alike scenario.machine
      (scenario.withWakeups sendto recvfrom).machine where
  code := by
    intro issued
    cases issued with
    | turn =>
        exact workerTurn_lockstep
    | shutdown beforeDeadline =>
        exact shutdown_lockstep beforeDeadline
  ready := by
    intro issued one two alike
    have same := congrArg (fun world => world.summary.isNone) alike
    simp only [World.withoutErrors, Option.isNone_map] at same
    exact same
  env := by
    intro step one two after alike performed
    exact kernelStep_alike alike performed

end Scenario

/-- Two states agree in everything that concerns packets. -/
structure SamePackets (one two : World) : Prop where
  rx :
    one.rx = two.rx
  tx :
    one.tx = two.tx
  fill :
    one.fill = two.fill
  completion :
    one.completion = two.completion
  allocator :
    one.allocator = two.allocator
  memory :
    one.memory = two.memory
  txStart :
    one.transmitter.txStart = two.transmitter.txStart
  txAvail :
    one.transmitter.txAvail = two.transmitter.txAvail
  txUsed :
    one.transmitter.txUsed = two.transmitter.txUsed
  reserved :
    one.transmitter.reserved = two.transmitter.reserved
  outstanding :
    one.transmitter.outstanding = two.transmitter.outstanding
  framesSubmitted :
    one.transmitter.framesSubmitted = two.transmitter.framesSubmitted
  framesReclaimed :
    one.transmitter.framesReclaimed = two.transmitter.framesReclaimed
  framesRejected :
    one.transmitter.framesRejected = two.transmitter.framesRejected
  packetsReceived :
    one.receiver.packetsReceived = two.receiver.packetsReceived
  fillRefills :
    one.receiver.fillRefills = two.receiver.fillRefills
  bench :
    one.bench = two.bench
  kernel :
    one.kernel = two.kernel
  summary :
    one.summary.map RunSummary.withoutErrors =
      two.summary.map RunSummary.withoutErrors

/-- States that are alike agree on everything about packets. -/
theorem Alike.samePackets
    {one two : World}
    (alike : Alike one two) :
    SamePackets one two where
  rx := congrArg (fun world => world.rx) alike
  tx := congrArg (fun world => world.tx) alike
  fill := congrArg (fun world => world.fill) alike
  completion := congrArg (fun world => world.completion) alike
  allocator := congrArg (fun world => world.allocator) alike
  memory := congrArg (fun world => world.memory) alike
  txStart := congrArg (fun world => world.transmitter.txStart) alike
  txAvail := congrArg (fun world => world.transmitter.txAvail) alike
  txUsed := congrArg (fun world => world.transmitter.txUsed) alike
  reserved := congrArg (fun world => world.transmitter.reserved) alike
  outstanding :=
    congrArg (fun world => world.transmitter.outstanding) alike
  framesSubmitted :=
    congrArg (fun world => world.transmitter.framesSubmitted) alike
  framesReclaimed :=
    congrArg (fun world => world.transmitter.framesReclaimed) alike
  framesRejected :=
    congrArg (fun world => world.transmitter.framesRejected) alike
  packetsReceived :=
    congrArg (fun world => world.receiver.packetsReceived) alike
  fillRefills :=
    congrArg (fun world => world.receiver.fillRefills) alike
  bench := congrArg (fun world => world.bench) alike
  kernel := congrArg (fun world => world.kernel) alike
  summary := congrArg (fun world => world.summary) alike

/--
The recorded errors are those of all TX wakeups, and of all RX wakeups of the
worker; the one before the worker started was only printed.
-/
structure World.ReportsWakeups
    (scenario : Scenario)
    (world : World) : Prop where
  retryable :
    world.transmitter.retryableWakeupErrors =
      UInt64.ofNat
        ((failures scenario.sendto 0 world.wakeups.sendtoCalls).countP
          (· ∈ retriedOnTx))
  txFirst :
    world.transmitter.firstWakeupError =
      firstCode
        ((failures scenario.sendto 0 world.wakeups.sendtoCalls).filter
          (· ∉ retriedOnTx))
  rxFirst :
    world.receiver.firstWakeupError =
      firstCode
        ((failures scenario.recvfrom world.aux.recvfromPrinted
          world.wakeups.recvfromCalls).filter (· ∉ retriedOnRx))

namespace Scenario

variable {scenario : Scenario}
variable {events : List (Event WorkerCall KernelStep)}
variable {final one two : Configuration World}

/-- Between calls every wakeup was noted. -/
theorem reaches_reportsWakeups
    (reaches : scenario.Reaches events final)
    (boundary : final.AtBoundary) :
    final.state.ReportsWakeups scenario := by
  have between := reaches_between reaches boundary
  have recorded := reaches_faithful reaches
  have sendtoNoted :
      final.state.aux.sendtoNoted = final.state.wakeups.sendtoCalls :=
    between.sendtoNoted
  have recvfromNoted :
      final.state.aux.recvfromNoted =
        final.state.wakeups.recvfromCalls :=
    between.recvfromNoted
  exact
    { retryable := by
        rw [← sendtoNoted]
        exact recorded.retryable
      txFirst := by
        rw [← sendtoNoted]
        exact recorded.txFirst
      rxFirst := by
        rw [← recvfromNoted]
        exact recorded.rxFirst }

/--
Wakeup failures never touch packet state: two runs with the same events agree
on it after every event, and at the boundaries each has recorded exactly its
own failures.
-/
theorem wakeup_failures_isolated
    (scenario : Scenario)
    (sendto recvfrom : Nat → Option Errno)
    (first : scenario.Reaches events one)
    (second :
      (scenario.withWakeups sendto recvfrom).Reaches events two) :
    SamePackets one.state two.state ∧
      (one.AtBoundary ↔ two.AtBoundary) ∧
      (one.AtBoundary →
        one.state.ReportsWakeups scenario ∧
          two.state.ReportsWakeups
            (scenario.withWakeups sendto recvfrom)) := by
  have together :
      Configuration.Paired Alike scenario.start
        (scenario.withWakeups sendto recvfrom).start :=
    { pending := startup_lockstep
      state := rfl }
  obtain ⟨reached, ran, paired⟩ :=
    (withWakeups_paired sendto recvfrom).run first together
  obtain rfl : reached = two :=
    Option.some.inj (ran.symm.trans second)
  refine ⟨paired.state.samePackets, paired.boundary_iff, ?_⟩
  intro boundary
  exact ⟨reaches_reportsWakeups first boundary,
    reaches_reportsWakeups second (paired.boundary_iff.mp boundary)⟩

/-- A turn that receives a packet, and one that finds nothing. -/
def twoTurns : List (Event WorkerCall KernelStep) :=
  sampleRun ++ [.call .turn] ++ List.replicate 15 .work

/-- The sample with wakeups that all fail. -/
def sampleFailing : Scenario :=
  sample.withWakeups (fun _ => some .enobufs) (fun _ => some .enobufs)

/-- Both turns ask for wakeups, and all of them fail. -/
theorem wakeup_failures_isolated_sample :
    ∃ one two,
      sample.Reaches twoTurns one ∧
        sampleFailing.Reaches twoTurns two ∧
        two.state.transmitter.retryableWakeupErrors = 2 ∧
        two.state.receiver.firstWakeupError = 105 ∧
        SamePackets one.state two.state ∧
        two.state.ReportsWakeups sampleFailing := by
  obtain ⟨one, first, boundary⟩ :
      ∃ one, sample.Reaches twoTurns one ∧ one.AtBoundary :=
    ⟨_, rfl, rfl⟩
  obtain ⟨two, second, retryable, rxFirst⟩ :
      ∃ two,
        sampleFailing.Reaches twoTurns two ∧
          two.state.transmitter.retryableWakeupErrors = 2 ∧
          two.state.receiver.firstWakeupError = 105 :=
    ⟨_, rfl, rfl, rfl⟩
  obtain ⟨same, _, reports⟩ :=
    wakeup_failures_isolated sample _ _ first second
  exact ⟨one, two, first, second, retryable, rxFirst, same,
    (reports boundary).2⟩

end Scenario

end AfXdp
