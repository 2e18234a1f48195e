import AfXdp.CallbackHistory

namespace AfXdp

open Interleaving
open SequenceIndex

/-!
# The reported counters

Every counter of the program counts something that the auxiliary state
records, modulo 2^64.  At a pass boundary the records agree with each other,
and so do the counters.
-/

/-- The counters, and what they are about. -/
structure Tally where
  bench : BenchStats
  framesRejected : UInt64
  framesSubmitted : UInt64
  framesReclaimed : UInt64
  handed : List Packet
  verdicts : List Verdict
  current : Option InFlight
  published : Nat
  released : Nat

/-- The counters of the state, and what they are compared with. -/
def World.tally (world : World) : Tally where
  bench := world.bench
  framesRejected := world.transmitter.framesRejected
  framesSubmitted := world.transmitter.framesSubmitted
  framesReclaimed := world.transmitter.framesReclaimed
  handed := world.aux.handed
  verdicts := world.aux.verdicts
  current := world.aux.current
  published := world.tx.log.length
  released := world.completion.taken

/-- The callback has not looked at its packet yet. -/
def InFlight.untouched (inFlight : InFlight) : Bool :=
  inFlight.progress = .taken

/-- The callback's packet was refused by the transmitter. -/
def InFlight.refused (inFlight : InFlight) : Bool :=
  match inFlight.progress with
  | .offered _ sent =>
      !sent
  | _ =>
      false

/-- The packets that the callback has opened. -/
def Tally.opened (tally : Tally) : List Packet :=
  if tally.current.any InFlight.untouched then
    tally.handed.dropLast
  else
    tally.handed

/-- Total length of packets. -/
def totalLength (packets : List Packet) : Nat :=
  (packets.map fun packet => packet.1.len.toNat).sum

/-- What each counter counts. -/
structure Counts (tally : Tally) : Prop where
  callbacks :
    tally.bench.callbacks = UInt64.ofNat tally.opened.length
  bytes :
    tally.bench.bytes = UInt64.ofNat (totalLength tally.opened)
  unsupported :
    tally.bench.unsupported =
      UInt64.ofNat
        (tally.verdicts.countP fun verdict => !verdict.accepted)
  staged :
    tally.bench.staged =
      UInt64.ofNat (tally.verdicts.countP Verdict.sent)
  rejected :
    tally.framesRejected =
      UInt64.ofNat
        (tally.verdicts.countP
            (fun verdict => verdict.accepted && !verdict.sent) +
          tally.current.toList.countP InFlight.refused)
  submitted :
    tally.framesSubmitted = UInt64.ofNat tally.published
  reclaimed :
    tally.framesReclaimed = UInt64.ofNat tally.released

/-- Counting one more. -/
theorem ofNat_succ (count : Nat) :
    UInt64.ofNat (count + 1) = UInt64.ofNat count + 1 := by
  rw [UInt64.ofNat_add]
  rfl

namespace Counts

variable {tally : Tally}

/-- One more packet is in flight. -/
theorem handOut
    (counts : Counts tally)
    (between : tally.current = none)
    (packet : Packet) :
    Counts
      { tally with
        handed := tally.handed ++ [packet]
        current :=
          some { packet := packet, progress := .taken } } := by
  have opened :
      Tally.opened
          { tally with
            handed := tally.handed ++ [packet]
            current :=
              some { packet := packet, progress := .taken } } =
        tally.opened := by
    simp [Tally.opened, InFlight.untouched, between]
  refine
    { counts with
      callbacks := by rw [opened]; exact counts.callbacks
      bytes := by rw [opened]; exact counts.bytes
      rejected := ?_ }
  have rejected := counts.rejected
  rw [between] at rejected
  exact rejected

/-- Its callback is counted, with its bytes. -/
theorem openPacket
    (counts : Counts tally)
    {packet : Packet}
    (current :
      tally.current =
        some { packet := packet, progress := .taken })
    (last : tally.handed.getLast? = some packet) :
    Counts
      { tally with
        bench :=
          { tally.bench with
            callbacks := tally.bench.callbacks + 1
            bytes := tally.bench.bytes + packet.1.len.toUInt64 }
        current :=
          some { packet := packet, progress := .opened } } := by
  have before : tally.opened = tally.handed.dropLast := by
    simp [Tally.opened, InFlight.untouched, current]
  have opened :
      Tally.opened
          { tally with
            bench :=
              { tally.bench with
                callbacks := tally.bench.callbacks + 1
                bytes :=
                  tally.bench.bytes + packet.1.len.toUInt64 }
            current :=
              some { packet := packet, progress := .opened } } =
        tally.opened ++ [packet] := by
    rw [before, List.dropLast_append_getLast? packet last]
    simp [Tally.opened, InFlight.untouched]
  refine
    { counts with
      callbacks := ?_
      bytes := ?_
      rejected := ?_ }
  · rw [opened, List.length_append, List.length_singleton,
      ofNat_succ, ← counts.callbacks]
  · rw [opened, totalLength, List.map_append, List.sum_append]
    simp only [List.map_cons, List.map_nil, List.sum_cons,
      List.sum_nil, Nat.add_zero]
    rw [ofNat_add_toUInt64, counts.bytes]
    rfl
  · have rejected := counts.rejected
    rw [current] at rejected
    exact rejected

/-- Inside the callback, only a refusal is counted. -/
theorem advance
    (counts : Counts tally)
    {packet : Packet}
    {before : Progress}
    {framesRejected : UInt64}
    (after : Progress)
    (current :
      tally.current =
        some { packet := packet, progress := before })
    (wasOpen : before ≠ .taken)
    (isOpen : after ≠ .taken)
    (fresh :
      InFlight.refused { packet := packet, progress := before } =
        false)
    (rejected :
      framesRejected =
        tally.framesRejected +
          if InFlight.refused
              { packet := packet, progress := after } then
            1
          else
            0) :
    Counts
      { tally with
        framesRejected := framesRejected
        current :=
          some { packet := packet, progress := after } } := by
  have opened :
      Tally.opened
          { tally with
            framesRejected := framesRejected
            current :=
              some { packet := packet, progress := after } } =
        tally.opened := by
    simp [Tally.opened, InFlight.untouched, current, wasOpen, isOpen]
  refine
    { counts with
      callbacks := by rw [opened]; exact counts.callbacks
      bytes := by rw [opened]; exact counts.bytes
      rejected := ?_ }
  have before := counts.rejected
  rw [current] at before
  simp only [Option.toList_some, List.countP_singleton, fresh,
    Bool.false_eq_true, ↓reduceIte, Nat.add_zero] at before
  simp only [Option.toList_some, List.countP_singleton]
  rw [rejected, before]
  split
  · rw [ofNat_succ]
  · rw [Nat.add_zero, UInt64.add_zero]

/-- The verdict takes over what was counted for the packet in flight. -/
theorem settle
    (counts : Counts tally)
    {packet : Packet}
    {progress : Progress}
    (verdict : Verdict)
    (current :
      tally.current =
        some { packet := packet, progress := progress })
    (isOpen : progress ≠ .taken)
    (refused :
      InFlight.refused { packet := packet, progress := progress } =
        (verdict.accepted && !verdict.sent)) :
    Counts
      { tally with
        bench :=
          { tally.bench with
            unsupported :=
              if verdict.accepted then
                tally.bench.unsupported
              else
                tally.bench.unsupported + 1
            staged :=
              if verdict.sent then
                tally.bench.staged + 1
              else
                tally.bench.staged }
        verdicts := tally.verdicts ++ [verdict]
        current := none } := by
  have before : tally.opened = tally.handed := by
    simp [Tally.opened, InFlight.untouched, current, isOpen]
  have callbacks := counts.callbacks
  have bytes := counts.bytes
  have rejected := counts.rejected
  rw [before] at callbacks bytes
  rw [current] at rejected
  refine
    { counts with
      callbacks := callbacks
      bytes := bytes
      unsupported := ?_
      staged := ?_
      rejected := ?_ }
  · simp only [List.countP_append, List.countP_singleton]
    cases verdict.accepted with
    | true =>
        simpa using counts.unsupported
    | false =>
        simp [ofNat_succ, counts.unsupported]
  · simp only [List.countP_append, List.countP_singleton]
    cases verdict.sent with
    | true =>
        simp [ofNat_succ, counts.staged]
    | false =>
        simpa using counts.staged
  · simp only [List.countP_append, List.countP_singleton,
      Option.toList_none, List.countP_nil, Nat.add_zero]
    simp only [Option.toList_some, List.countP_singleton,
      refused] at rejected
    exact rejected

/-- Publishing counts what becomes visible. -/
theorem publish
    (counts : Counts tally)
    {amount : UInt32}
    {published : Nat}
    (visible : published = tally.published + amount.toNat) :
    Counts
      { tally with
        framesSubmitted := tally.framesSubmitted + amount.toUInt64
        published := published } :=
  { counts with
    submitted := by
      rw [visible, ofNat_add_toUInt64, counts.submitted] }

/-- Releasing counts what is given back. -/
theorem release
    (counts : Counts tally)
    (amount : UInt32) :
    Counts
      { tally with
        framesReclaimed := tally.framesReclaimed + amount.toUInt64
        released := tally.released + amount.toNat } :=
  { counts with
    reclaimed := by
      rw [ofNat_add_toUInt64, counts.reclaimed] }

end Counts

/-! ## Steps -/

section Steps

variable {config : Config}
variable {rewrite : Rewrite}
variable {world : World}

/-- The same in the state. -/
theorem counts_openPacket
    {packet : Packet}
    (counts : Counts world.tally)
    (history : History rewrite world)
    (current :
      world.aux.current =
        some { packet := packet, progress := .taken }) :
    Counts
      (Main.openPacket
        { addr := packet.1.addr, len := packet.1.len }
          world).2.tally := by
  obtain ⟨settled, tells⟩ := history
  have last : world.aux.handed.getLast? = some packet := by
    have handed := tells.handed
    change world.aux.handed = _ ++ world.aux.current.toList.map _
      at handed
    rw [handed, current]
    exact List.getLast?_concat
  have next := counts.openPacket current last
  simp only [World.tally, Main.openPacket, World.progress, current,
    Option.map_some] at next ⊢
  exact next

/-- Rewriting counts nothing. -/
theorem counts_rewritePacket
    {packet : Packet}
    {accepted : Bool}
    {output : List UInt8}
    (counts : Counts world.tally)
    (current :
      world.aux.current =
        some { packet := packet, progress := .opened }) :
    Counts
      (Main.rewritePacket
        { addr := packet.1.addr, len := packet.1.len }
          accepted output world).tally := by
  have next :=
    counts.advance
      (.decided accepted
        ((world.memory.overwrite packet.1.addr.toNat
          (output.take packet.1.len.toNat)).span
            packet.1.addr.toNat packet.1.len.toNat))
      current nofun nofun rfl (UInt64.add_zero _).symm
  simp only [World.tally, Main.rewritePacket, World.progress, current,
    Option.map_some] at next ⊢
  exact next

/-- A rejection is counted once. -/
theorem counts_rejectFrame
    {desc : XdpDesc}
    (counts : Counts world.tally)
    (offering :
      Offering false world.aux.current world.aux.hand desc) :
    Counts (Transmitter.rejectFrame world).tally := by
  obtain ⟨packet, output, current, _, _⟩ := offering
  have next :=
    counts.advance (.offered output false)
      current nofun nofun rfl rfl
  simp only [World.tally, Transmitter.rejectFrame, World.progress,
    current, Option.map_some, Progress.offer] at next ⊢
  exact next

/-- So is a frame that is staged. -/
theorem counts_stage
    {packet : Packet}
    (counts : Counts world.tally)
    (offering :
      Offering false world.aux.current world.aux.hand packet.1) :
    Counts
      (Transmitter.stage packet.1.addr packet.1.len
        world).tally := by
  obtain ⟨offered, output, current, _, _⟩ := offering
  have next :=
    counts.advance (.offered output true)
      current nofun nofun rfl (UInt64.add_zero _).symm
  simp only [World.tally, Transmitter.stage, World.leaveHand,
    World.progress, current, Option.map_some, Progress.offer]
    at next ⊢
  exact next

/-- The outcome is counted for exactly one reason. -/
theorem counts_settle
    {packet : Packet}
    {output : List UInt8}
    {accepted transferred : Bool}
    (counts : Counts world.tally)
    (current :
      world.aux.current =
        some
          { packet := packet
            progress :=
              if accepted then
                .offered output transferred
              else
                .decided false output }) :
    Counts (Main.settle accepted transferred world).tally := by
  let verdict : Verdict :=
    { accepted := accepted, output := output, sent := transferred }
  have next :=
    counts.settle verdict current
      (by cases accepted <;> nofun)
      (by cases accepted <;> rfl)
  have outputEq :
      (if accepted then
          Progress.offered output transferred
        else
          Progress.decided false output).output = output := by
    cases accepted <;> rfl
  simp only [World.tally, Main.settle, current, Option.map_some,
    Option.getD_some, outputEq]
  exact next

/-- What is staged is counted as submitted. -/
theorem counts_publishStaged
    (counts : Counts world.tally)
    (core : Core config world) :
    Counts (Transmitter.publishStaged world).tally := by
  have used := core.txWindow.used
  have published := core.txWindow.publish_length core.tx
  refine Transmitter.publishStaged_branches ?_ ?_
  · intro _
    exact counts.publish (published.trans used)
  · intro _
    exact counts

/-- Every step of the worker counts what it does. -/
theorem Counts.workerStep
    {before after : World}
    (counts : Counts before.tally)
    (history : History rewrite before)
    (core : Core config before)
    (step : WorkerStep config rewrite false before after) :
    Counts after.tally := by
  cases step with
  | handOut _ _ between =>
      exact counts.handOut between _
  | openPacket current =>
      exact counts_openPacket counts history current
  | rewritePacket current =>
      exact counts_rewritePacket counts current
  | rejectFrame offering =>
      exact counts_rejectFrame counts offering
  | stage _ _ _ offering =>
      exact counts_stage counts offering
  | settle current =>
      exact counts_settle counts current
  | publishStaged =>
      exact counts_publishStaged counts core
  | releaseCompleted =>
      exact counts.release _
  | takeDesc _ _ isDirect =>
      cases isDirect
  | fillPush =>
      exact Xsk.fillPush_branches counts fun _ _ => counts
  | reserve =>
      exact Transmitter.reserve_branches counts counts
  | refresh =>
      exact Transmitter.refresh_branches counts counts
  | noteTxWakeup =>
      rw [Transmitter.noteTxWakeup]
      obtain ⟨retryable, first, classified⟩ :=
        before.transmitter.classifyWakeup_eq _
      rw [classified]
      exact counts
  | _ =>
      exact counts

/-- The kernel counts nothing. -/
theorem Counts.kernelStep
    {admits : List UInt8 → Bool}
    {step : KernelStep}
    {before after : World}
    (counts : Counts before.tally)
    (performed : step.perform config admits before = some after) :
    Counts after.tally := by
  obtain ⟨_, rfl⟩ := KernelStep.perform_eq_some.mp performed
  cases step <;> exact counts

end Steps

/-! ## Agreement -/

/-- Every consumed TX descriptor is held or was completed. -/
def Consumed (world : World) : Prop :=
  world.tx.taken =
    world.kernel.txHeld.length + world.completion.log.length

/-- Nor does it take back what was consumed. -/
theorem Consumed.kernelStep
    {config : Config}
    {admits : List UInt8 → Bool}
    {step : KernelStep}
    {before after : World}
    (consumed : Consumed before)
    (core : Core config before)
    (performed : step.perform config admits before = some after) :
    Consumed after := by
  obtain ⟨allowed, rfl⟩ := KernelStep.perform_eq_some.mp performed
  unfold Consumed at consumed
  cases step with
  | takeTx =>
      change before.tx.taken + 1 =
        before.kernel.txHeld.length + 1 +
          before.completion.log.length
      omega
  | complete desc =>
      have log :=
        (core.completion.peerPut
          (core.completion.room_of_lt allowed.2) desc.addr).2
      have erased := (List.perm_cons_erase allowed.1).length_eq
      change before.tx.taken =
        (before.kernel.txHeld.erase desc).length +
          (before.completion.peerPut desc.addr).log.length
      rw [log, List.length_append, List.length_singleton]
      rw [List.length_cons] at erased
      omega
  | _ =>
      exact consumed

/-- Unsupported, refused and sent packets are all there are. -/
theorem countP_verdicts
    {verdicts : List Verdict}
    (sound :
      ∀ verdict,
        verdict ∈ verdicts →
        verdict.sent = true →
        verdict.accepted = true) :
    verdicts.countP (fun verdict => !verdict.accepted) +
        verdicts.countP
          (fun verdict => verdict.accepted && !verdict.sent) +
        verdicts.countP Verdict.sent =
      verdicts.length := by
  induction verdicts with
  | nil =>
      rfl
  | cons verdict rest inductionHypothesis =>
      have restSound :=
        inductionHypothesis fun other member =>
          sound other (List.mem_cons_of_mem _ member)
      have headSound := sound verdict List.mem_cons_self
      simp only [List.countP_cons, List.length_cons]
      cases accepted : verdict.accepted with
      | true =>
          cases sent : verdict.sent with
          | true =>
              simp only [Bool.not_true, Bool.and_false,
                Bool.false_eq_true, ↓reduceIte]
              omega
          | false =>
              simp only [Bool.not_true, Bool.not_false,
                Bool.and_self, Bool.false_eq_true, ↓reduceIte]
              omega
      | false =>
          cases sent : verdict.sent with
          | true =>
              have impossible := headSound sent
              rw [accepted] at impossible
              cases impossible
          | false =>
              simp only [Bool.not_false, Bool.and_true,
                Bool.false_eq_true, ↓reduceIte]
              omega

/-- The number of packets sent, from the verdicts. -/
theorem length_reflected (settled : List (Packet × Verdict)) :
    (reflected settled).length =
      (settled.map Prod.snd).countP Verdict.sent := by
  induction settled with
  | nil =>
      rfl
  | cons entry rest inductionHypothesis =>
      obtain ⟨packet, verdict⟩ := entry
      rw [reflected, List.filterMap_cons, List.map_cons,
        List.countP_cons, ← inductionHypothesis]
      cases verdict.sent with
      | true =>
          simp [reflected]
      | false =>
          simp [reflected]

/-- The counters agree when the callback is not at work. -/
structure Reconciled (world : World) : Prop where
  callbacks :
    world.bench.callbacks = UInt64.ofNat world.aux.handed.length
  bytes :
    world.bench.bytes = UInt64.ofNat (totalLength world.aux.handed)
  verdicts :
    world.bench.callbacks =
      world.bench.unsupported + world.transmitter.framesRejected +
        world.bench.staged
  staged :
    world.bench.staged =
      world.transmitter.framesSubmitted +
        world.transmitter.txUsed.toUInt64
  submitted :
    world.transmitter.framesSubmitted =
      world.transmitter.framesReclaimed +
        world.transmitter.outstanding.toUInt64

/-- The three equations, from the account of what happened. -/
theorem reconciled
    {config : Config}
    {rewrite : Rewrite}
    {world : World}
    (counts : Counts world.tally)
    (history : History rewrite world)
    (core : Core config world)
    (consumed : Consumed world)
    (between : world.aux.current = none) :
    Reconciled world := by
  obtain ⟨settled, tells⟩ := history
  have handed : world.aux.handed = settled.map Prod.fst :=
    tells.handed_between between
  have verdicts : world.aux.verdicts = settled.map Prod.snd :=
    tells.verdicts
  have sends : world.aux.sendLog = reflected settled :=
    tells.sends_between between
  have opened : world.tally.opened = world.aux.handed := by
    simp [Tally.opened, World.tally, between]
  have callbacks := counts.callbacks
  have bytes := counts.bytes
  have rejected := counts.rejected
  rw [opened] at callbacks bytes
  simp only [World.tally, between, Option.toList_none,
    List.countP_nil, Nat.add_zero] at rejected
  have sound :
      ∀ verdict,
        verdict ∈ world.aux.verdicts →
        verdict.sent = true →
        verdict.accepted = true :=
    tells.sent_accepted
  have total := countP_verdicts sound
  have staged := counts.staged
  have submitted := counts.submitted
  have reclaimed := counts.reclaimed
  have unsupported := counts.unsupported
  simp only [World.tally] at staged unsupported submitted reclaimed
  refine
    { callbacks := callbacks
      bytes := bytes
      verdicts := ?_
      staged := ?_
      submitted := ?_ }
  · have lengths : world.aux.handed.length =
        world.aux.verdicts.length := by
      rw [handed, verdicts, List.length_map, List.length_map]
    rw [unsupported, rejected, staged, ← UInt64.ofNat_add,
      ← UInt64.ofNat_add, total, ← lengths]
    exact callbacks
  · have used := core.txWindow.used
    rw [sends, length_reflected, ← verdicts] at used
    rw [staged, submitted, ← ofNat_add_toUInt64, used]
  · have outstanding := core.outstanding
    have txOrdered := core.tx.ordered
    have completionOrdered := core.completion.ordered
    unfold Consumed at consumed
    simp only [Channel.pending, List.length_drop] at outstanding
    rw [submitted, reclaimed, ← ofNat_add_toUInt64]
    congr 1
    omega

/-- The agreement that the final report claims. -/
structure RunSummary.Balanced (summary : RunSummary) : Prop where
  processed :
    summary.rxProcessed = summary.callbacks
  verdicts :
    summary.callbacks =
      summary.unsupported + summary.txRejected + summary.txSubmitted
  submitted :
    summary.txSubmitted =
      summary.txReclaimed + summary.txAbandoned.toUInt64

/-- All records and counters of a reachable state. -/
structure Booked (rewrite : Rewrite) (world : World) : Prop where
  history :
    History rewrite world
  counts :
    Counts world.tally
  consumed :
    Consumed world
  reported :
    ∀ summary,
      world.summary = some summary →
      summary.Balanced

namespace Booked

variable {config : Config}
variable {rewrite : Rewrite}

/-- The report is written when the worker is idle and TX is drained. -/
theorem summarize
    {world : World}
    {remaining : UInt32}
    (booked : Booked rewrite world)
    (core : Core config world)
    (drained : remaining = world.transmitter.outstanding)
    (between : world.aux.current = none)
    (published : world.transmitter.txUsed = 0)
    (released : world.aux.rxDone = 0)
    (counted :
      world.receiver.packetsReceived =
        UInt64.ofNat world.rx.taken) :
    Booked rewrite (Main.summarize remaining world) := by
  have agree :=
    reconciled booked.counts booked.history core booked.consumed
      between
  have handed : world.aux.handed.length = world.rx.taken := by
    have ordered := core.rx.ordered
    have delivered := congrArg List.length core.delivered
    rw [List.length_map] at delivered
    rw [core.handed, List.length_take, released, Nat.add_zero]
    omega
  have submitted :
      world.bench.staged = world.transmitter.framesSubmitted := by
    have staged := agree.staged
    rw [published] at staged
    simpa using staged
  refine
    { history := booked.history
      counts := booked.counts
      consumed := booked.consumed
      reported := ?_ }
  rintro summary ⟨⟩
  exact
    { processed := by
        simp only
        rw [counted, agree.callbacks, handed]
      verdicts := by
        simp only
        rw [← submitted]
        exact agree.verdicts
      submitted := by
        simp only
        rw [drained]
        exact agree.submitted }

/-- A step of the worker keeps the account. -/
theorem workerStep
    {before after : World}
    (booked : Booked rewrite before)
    (core : Core config before)
    (step : WorkerStep config rewrite false before after) :
    Booked rewrite after := by
  have history := booked.history.workerStep core step
  have counts := booked.counts.workerStep booked.history core step
  have consumed : Consumed after := by
    have unchanged := step.kernelSide_unchanged
    have kernel : after.kernel = before.kernel :=
      congrArg KernelSide.kernel unchanged
    have log : after.completion.log = before.completion.log :=
      congrArg KernelSide.completionLog unchanged
    have taken : after.tx.taken = before.tx.taken :=
      congrArg KernelSide.txTaken unchanged
    rw [Consumed, kernel, log, taken]
    exact booked.consumed
  cases step with
  | summarize drained between published released counted =>
      exact booked.summarize core drained between published released
        counted
  | fillPush =>
      refine ⟨history, counts, consumed, ?_⟩
      exact Xsk.fillPush_branches booked.reported
        fun _ _ => booked.reported
  | reserve =>
      refine ⟨history, counts, consumed, ?_⟩
      exact Transmitter.reserve_branches booked.reported
        booked.reported
  | refresh =>
      refine ⟨history, counts, consumed, ?_⟩
      exact Transmitter.refresh_branches booked.reported
        booked.reported
  | publishStaged =>
      refine ⟨history, counts, consumed, ?_⟩
      exact Transmitter.publishStaged_branches (fun _ => booked.reported)
        (fun _ => booked.reported)
  | _ =>
      exact ⟨history, counts, consumed, booked.reported⟩

/-- So does a step of the kernel. -/
theorem kernelStep
    {admits : List UInt8 → Bool}
    {step : KernelStep}
    {before after : World}
    (booked : Booked rewrite before)
    (core : Core config before)
    (performed : step.perform config admits before = some after) :
    Booked rewrite after := by
  have history := booked.history.kernelStep performed
  have counts := booked.counts.kernelStep performed
  have consumed := booked.consumed.kernelStep core performed
  obtain ⟨_, rfl⟩ := KernelStep.perform_eq_some.mp performed
  cases step <;>
    exact ⟨history, counts, consumed, booked.reported⟩

end Booked

namespace Scenario

variable {events : List (Event WorkerCall KernelStep)}
variable {final : Configuration World}

/-- So does every run. -/
theorem reaches_booked
    {scenario : Scenario}
    (reaches : scenario.Reaches events final) :
    Booked scenario.rewrite final.state := by
  refine reaches_invariant ?_ ?_ ?_ reaches
  · exact
      { history := .initial _ _ _
        counts :=
          { callbacks := rfl
            bytes := rfl
            unsupported := rfl
            staged := rfl
            rejected := rfl
            submitted := rfl
            reclaimed := rfl }
        consumed := rfl
        reported := nofun }
  · intro step before after core performed booked
    exact booked.kernelStep core performed
  · intro before after core step booked
    exact booked.workerStep core step

/--
The counters reconcile: at every pass boundary, between two callbacks of a
batch, and in the final report.
-/
theorem counters_reconcile
    (scenario : Scenario)
    (reaches : scenario.Reaches events final) :
    (final.AtBoundary →
      final.state.bench.callbacks =
          final.state.receiver.packetsReceived ∧
        final.state.bench.callbacks =
          final.state.bench.unsupported +
            final.state.transmitter.framesRejected +
            final.state.bench.staged ∧
        final.state.bench.bytes =
          UInt64.ofNat
            ((final.state.rx.log.take final.state.rx.taken).map
              fun desc => desc.len.toNat).sum ∧
        final.state.bench.staged =
          final.state.transmitter.framesSubmitted ∧
        final.state.transmitter.txUsed = 0 ∧
        final.state.transmitter.framesSubmitted =
          final.state.transmitter.framesReclaimed +
            final.state.transmitter.outstanding.toUInt64) ∧
      (final.state.aux.current = none →
        final.state.bench.staged =
          final.state.transmitter.framesSubmitted +
            final.state.transmitter.txUsed.toUInt64) ∧
      (∀ summary,
        final.state.summary = some summary →
        summary.rxProcessed = summary.callbacks ∧
          summary.callbacks =
            summary.unsupported + summary.txRejected +
              summary.txSubmitted ∧
          summary.txSubmitted =
            summary.txReclaimed + summary.txAbandoned.toUInt64) := by
  have core := reaches_core reaches
  have booked := reaches_booked reaches
  refine ⟨?_, ?_, ?_⟩
  · intro boundary
    have idle := reaches_between reaches boundary
    have agree :=
      reconciled booked.counts booked.history core booked.consumed
        idle.current
    have released : final.state.aux.rxDone = 0 := idle.rxDone
    have unused : final.state.transmitter.txUsed = 0 := idle.txUsed
    have counted :
        final.state.receiver.packetsReceived =
          UInt64.ofNat final.state.rx.taken :=
      idle.counted
    have handed := core.handed
    have staged := agree.staged
    rw [released, Nat.add_zero] at handed
    rw [unused] at staged
    refine ⟨?_, agree.verdicts, ?_, ?_, unused, agree.submitted⟩
    · have ordered := core.rx.ordered
      have delivered := congrArg List.length core.delivered
      rw [List.length_map] at delivered
      rw [counted, agree.callbacks, handed,
        List.length_take_of_le (by omega)]
    · rw [agree.bytes, handed, totalLength, ← core.delivered,
        ← List.map_take, List.map_map]
      rfl
    · simpa using staged
  · intro between
    exact
      (reconciled booked.counts booked.history core booked.consumed
        between).staged
  · intro summary written
    have balanced := booked.reported summary written
    exact ⟨balanced.processed, balanced.verdicts,
      balanced.submitted⟩

/-- One packet was received and answered. -/
theorem counters_reconcile_sample :
    ∃ final summary,
      sample.Reaches sampleShutdown final ∧
        final.state.summary = some summary ∧
        summary.rxProcessed = 1 ∧
        summary.callbacks =
          summary.unsupported + summary.txRejected +
            summary.txSubmitted := by
  obtain ⟨final, ran, written⟩ :
      ∃ final,
        sample.Reaches sampleShutdown final ∧
          final.state.summary.map RunSummary.rxProcessed = some 1 :=
    ⟨_, rfl, rfl⟩
  obtain ⟨summary, reported, one⟩ := Option.map_eq_some_iff.mp written
  exact ⟨final, summary, ran, reported, one,
    ((counters_reconcile sample ran).2.2 summary reported).2.1⟩

end Scenario

end AfXdp
