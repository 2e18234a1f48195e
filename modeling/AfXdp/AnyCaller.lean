import AfXdp.InterleavingRuns
import AfXdp.TransmitterClient

namespace AfXdp

open Interleaving
open SequenceIndex

/-!
# A caller without duties

A caller that may use the operations of the socket in any order and with any
arguments, whether it owns the frames it names or not, and may put any
allocator in place between two operations.  Frames can get lost or be used
twice here.  What remains true in spite of that is what the rings themselves
guarantee: the TX and the Fill ring and their open windows are in order.
-/

/-- The rings that the program produces on, and its open windows. -/
structure RingsInOrder (config : Config) (world : World) : Prop where
  tx :
    Channel.Producing config.txOrder.val world.tx
  txWindow :
    TxWindow config.txOrder.val
      world.tx world.transmitter world.aux.sendLog
  fill :
    Channel.Producing config.fillOrder.val world.fill
  fillWindow :
    Channel.Staged config.fillOrder.val world.fill.seen
      world.fill world.aux.fillWindow

/-- The invariant of the worker has the rings in order. -/
theorem Core.ringsInOrder
    {config : Config}
    {world : World}
    (core : Core config world) :
    RingsInOrder config world :=
  { core with }

/-- The part of the state behind those windows, which the kernel keeps. -/
structure Staging where
  transmitter : Transmitter
  sendLog : List Packet
  txLog : List XdpDesc
  txSeen : Nat
  fillLog : List UInt64
  fillSeen : Nat
  fillWindow : List UInt64
  allocator : FrameAllocator

/-- The part of the state that `refill_fill` works on. -/
def World.staging (world : World) : Staging where
  transmitter := world.transmitter
  sendLog := world.aux.sendLog
  txLog := world.tx.log
  txSeen := world.tx.seen
  fillLog := world.fill.log
  fillSeen := world.fill.seen
  fillWindow := world.aux.fillWindow
  allocator := world.allocator

/-! ## The kernel's steps -/

section KernelSteps

variable {config : Config}
variable {admits : List UInt8 → Bool}
variable {step : KernelStep}
variable {before after : World}

/-- The kernel keeps the rings in order. -/
theorem RingsInOrder.kernelStep
    (rings : RingsInOrder config before)
    (performed : step.perform config admits before = some after) :
    RingsInOrder config after := by
  obtain ⟨allowed, rfl⟩ := KernelStep.perform_eq_some.mp performed
  cases step with
  | takeFill =>
      exact
        { rings with
          fill :=
            rings.fill.peerConsume (rings.fill.occupied_of_ne allowed)
          fillWindow := rings.fillWindow.peerConsume 1 }
  | takeTx =>
      exact
        { rings with
          tx := rings.tx.peerConsume (rings.tx.occupied_of_ne allowed)
          txWindow :=
            { rings.txWindow with
              staged := rings.txWindow.staged.peerConsume 1 } }
  | setTxFlags flags =>
      exact
        { rings with
          tx := { rings.tx with }
          txWindow :=
            { rings.txWindow with
              staged := { rings.txWindow.staged with } } }
  | setFillFlags flags =>
      exact
        { rings with
          fill := { rings.fill with }
          fillWindow := { rings.fillWindow with } }
  | _ =>
      exact { rings with }

/-- The kernel does not touch the process's side of Fill. -/
theorem KernelStep.staging_unchanged
    (performed : step.perform config admits before = some after) :
    after.staging = before.staging := by
  obtain ⟨_, rfl⟩ := perform_eq_some.mp performed
  cases step <;> rfl

end KernelSteps

/-! ## The machine -/

/-- What the caller may do next. -/
inductive AnyCall where
  | client (call : ClientCall) : AnyCall
  | useAllocator (allocator : FrameAllocator) : AnyCall
  deriving Repr, DecidableEq

/-- Put another allocator in place. -/
def World.useAllocator
    (world : World)
    (allocator : FrameAllocator) :
    World :=
  { world with allocator := allocator }

namespace Scenario

/-- The machine of a caller that may do anything in any order. -/
def anyMachine
    (scenario : Scenario) :
    Machine World AnyCall KernelStep where
  code
    | .client call =>
        scenario.clientMachine.code call
    | .useAllocator allocator =>
        Prog.update fun world => world.useAllocator allocator
  ready _ _ :=
    true
  env step world :=
    step.perform scenario.config scenario.admits world

/-- The caller's run with these events is possible and ends in `final`. -/
def AnyReaches
    (scenario : Scenario)
    (events : List (Event AnyCall KernelStep))
    (final : Configuration World) : Prop :=
  scenario.anyMachine.run events scenario.clientStart = some final

/-- The steps of the kernel. -/
def Interferes (scenario : Scenario) : World → World → Prop :=
  scenario.anyMachine.Interferes

/-- Only the rings are kept in order; the steps are otherwise free. -/
def anySetting (scenario : Scenario) : Setting World Staging where
  interfere :=
    scenario.Interferes
  invariant :=
    RingsInOrder scenario.config
  guarantee _ _ :=
    True
  view :=
    World.staging
  kept := by
    rintro before after ⟨step, performed⟩ rings
    exact rings.kernelStep performed
  unseen := by
    rintro before after ⟨step, performed⟩
    exact KernelStep.staging_unchanged performed

/-- Between two operations nothing is written to Fill and unpublished. -/
def fillClosed (scenario : Scenario) : Assertion scenario.anySetting :=
  .own scenario.anySetting fun staging => staging.fillWindow = []

end Scenario

/-! ## Servicing TX -/

/-- `publish_and_service_tx` after its publication. -/
def Transmitter.serviceTx (config : Config) : Task Unit := do
  let idle ← Prog.ask fun world => world.transmitter.outstanding == 0
  if idle then
    return ()
  else do
    let budget ← Prog.ask fun world => world.completion.ring.capacity
    let reaped ← reclaimCompletedFrames config budget
    let idle ← Prog.ask fun world => world.transmitter.outstanding == 0
    if idle then
      return ()
    else do
      let result ← Xsk.requestTxProgress config
      Prog.update (noteTxWakeup result)
      Prog.when (reaped < budget) do
        let _ ← reclaimCompletedFrames config (budget - reaped)
        return ()

/-- It begins with the publication. -/
theorem Transmitter.publishAndServiceTx_eq (config : Config) :
    publishAndServiceTx config =
      .step publishStaged fun _ => serviceTx config :=
  rfl

/-- What one step of servicing TX can do. -/
inductive ServiceEffect (config : Config) : (World → World) → Prop where
  | ask :
      ServiceEffect config id
  | completionWindow (budget : UInt32) :
      ServiceEffect config fun world =>
        (Transmitter.completionWindow budget world).2
  | assertOutstanding (amount : UInt32) :
      ServiceEffect config fun world =>
        world.assertThat (amount ≤ world.transmitter.outstanding)
  | freeCompleted (index : UInt32) :
      ServiceEffect config (Transmitter.freeCompleted config index)
  | releaseCompleted (amount : UInt32) :
      ServiceEffect config (Transmitter.releaseCompleted amount)
  | sendto :
      ServiceEffect config fun world => (Xsk.sendto world).2
  | noteTxWakeup (result : Option Errno) :
      ServiceEffect config (Transmitter.noteTxWakeup result)

section Servicing

variable {config : Config}

/-- Reclaiming is made of service effects. -/
theorem reclaimCompletedFrames_uses (budget : UInt32) :
    (Transmitter.reclaimCompletedFrames config budget).Uses
      (ServiceEffect config) := by
  refine .bind (.act (.completionWindow budget)) fun window => ?_
  split
  · exact .done 0
  refine .bind (.act (.assertOutstanding window.amount)) fun _ => ?_
  refine .bind (.forRange fun index =>
    .act (.freeCompleted (window.start + stored index))) fun _ => ?_
  refine .bind (.act (.releaseCompleted window.amount)) fun _ => ?_
  exact .done window.amount

/-- So is the wakeup. -/
theorem requestTxProgress_uses :
    (Xsk.requestTxProgress config).Uses (ServiceEffect config) := by
  refine .bind (.act .ask) fun wanted => ?_
  split
  · exact .act .sendto
  · exact .done none

/-- So is the whole service pass. -/
theorem serviceTx_uses :
    (Transmitter.serviceTx config).Uses (ServiceEffect config) := by
  refine .bind (.act .ask) fun idle => ?_
  split
  · exact .done ()
  refine .bind (.act .ask) fun budget => ?_
  refine .bind (reclaimCompletedFrames_uses budget) fun reaped => ?_
  refine .bind (.act .ask) fun idle => ?_
  split
  · exact .done ()
  refine .bind requestTxProgress_uses fun result => ?_
  refine .bind (.act (.noteTxWakeup result)) fun _ => ?_
  refine .when (.bind (reclaimCompletedFrames_uses _) fun _ => ?_)
  exact .done ()

end Servicing

/-! ## Operations that leave the windows alone -/

section Quiet

variable {scenario : Scenario}

/-- An effect that keeps the rings and the Fill window. -/
def Quiet (scenario : Scenario) (effect : World → World) : Prop :=
  ∀ world,
    scenario.anySetting.invariant world →
    scenario.fillClosed.holds world →
      scenario.anySetting.invariant (effect world) ∧
        scenario.fillClosed.holds (effect world)

/-- A question changes nothing. -/
theorem quiet_ask : Quiet scenario id :=
  fun _ rings closed => ⟨rings, closed⟩

/-- Publishing what is staged keeps the rings in order. -/
theorem RingsInOrder.publishStaged
    {config : Config}
    {world : World}
    (rings : RingsInOrder config world) :
    RingsInOrder config (Transmitter.publishStaged world) := by
  refine Transmitter.publishStaged_branches ?_ ?_
  · intro _
    exact
      { rings with
        tx := rings.txWindow.publish_producing rings.tx
        txWindow := rings.txWindow.publish rings.tx rfl rfl }
  · intro unused
    have zero := Transmitter.txUsed_eq_zero unused
    exact { rings with txWindow := rings.txWindow.close zero }

/-- It leaves Fill alone. -/
theorem publishStaged_quiet :
    Quiet scenario Transmitter.publishStaged := by
  intro world rings closed
  exact ⟨rings.publishStaged,
    Transmitter.publishStaged_branches
      (fun _ => closed) (fun _ => closed)⟩

/-- No step of servicing TX touches the windows. -/
theorem ServiceEffect.quiet
    {effect : World → World}
    (serviced : ServiceEffect scenario.config effect) :
    Quiet scenario effect := by
  intro world rings closed
  cases serviced with
  | ask =>
      exact ⟨rings, closed⟩
  | releaseCompleted amount =>
      exact ⟨{ rings with txWindow := { rings.txWindow with } }, closed⟩
  | noteTxWakeup result =>
      obtain ⟨retryable, first, classified⟩ :=
        world.transmitter.classifyWakeup_eq result
      rw [Transmitter.noteTxWakeup, classified]
      exact ⟨{ rings with txWindow := { rings.txWindow with } }, closed⟩
  | _ =>
      exact ⟨{ rings with }, closed⟩

/-- So does reclaiming. -/
theorem reclaimCompletedFrames_quiet (budget : UInt32) :
    (Transmitter.reclaimCompletedFrames scenario.config budget).Uses
      (Quiet scenario) :=
  (reclaimCompletedFrames_uses budget).mono fun _ effect => effect.quiet

/-- So does the publication with the service pass. -/
theorem publishAndServiceTx_quiet :
    (Transmitter.publishAndServiceTx scenario.config).Uses
      (Quiet scenario) :=
  ⟨publishStaged_quiet, fun _ =>
    serviceTx_uses.mono fun _ effect => effect.quiet⟩

/-- So does draining. -/
theorem drainUntil_quiet (beforeDeadline : List Bool) :
    (Transmitter.drainUntil scenario.config beforeDeadline).Uses
      (Quiet scenario) := by
  induction beforeDeadline with
  | nil =>
      exact .bind publishAndServiceTx_quiet fun _ => .act quiet_ask
  | cons early later inductionHypothesis =>
      refine .bind publishAndServiceTx_quiet fun _ => ?_
      refine .bind (.act quiet_ask) fun outstanding => ?_
      split
      · exact inductionHypothesis
      · exact .done outstanding

/-- So does receiving a batch. -/
theorem receive_quiet (batchSize : UInt32) :
    (Client.receive batchSize).Uses (Quiet scenario) := by
  refine .bind (.act fun _ rings closed =>
    ⟨{ rings with }, closed⟩) fun window => ?_
  refine .bind (.forRange fun offset => ?_) fun _ => ?_
  · exact .bind (.act fun _ rings closed =>
      ⟨{ rings with }, closed⟩) fun _ => .done ()
  · exact .when (.act fun _ rings closed => ⟨{ rings with }, closed⟩)

end Quiet

/-! ## Refilling -/

/-- `refill_fill` after its window was queried. -/
def Xsk.fillFrom (window : Range) : Task UInt32 := do
  let pushed ← fillLoop window.start window.amount.toNat 0
  Prog.when (pushed > 0) (Prog.update (fillPublish (stored pushed)))
  return stored pushed

/-- `refill_fill` is a window on Fill and what follows from it. -/
theorem Xsk.refillFill_eq :
    refillFill = Prog.act fillWindow >>= fillFrom :=
  rfl

namespace Staging

/-- `count` frames moved from the top of the stack to the window. -/
def push (staging : Staging) (count : Nat) : Staging :=
  { staging with
    fillWindow :=
      staging.fillWindow ++ staging.allocator.frames.take count
    allocator :=
      { staging.allocator with
        frames := staging.allocator.frames.drop count } }

/-- The whole window published. -/
def publish (staging : Staging) : Staging :=
  { staging with
    fillLog := staging.fillLog ++ staging.fillWindow
    fillWindow := [] }

variable {staging : Staging}

/-- Pushing nothing changes nothing. -/
theorem push_zero (staging : Staging) : staging.push 0 = staging := by
  rw [push, List.take_zero, List.append_nil, List.drop_zero]

/-- Without free frames nothing is pushed. -/
theorem push_nil
    (free : staging.allocator.frames = [])
    {count : Nat} :
    staging.push count = staging := by
  rw [push, free, List.take_nil, List.append_nil, List.drop_nil, ← free]

/-- Pushing takes the frame on the top of the stack first. -/
theorem push_cons
    {frame : UInt64}
    {rest : List UInt64}
    (free : staging.allocator.frames = frame :: rest)
    (count : Nat) :
    staging.push (count + 1) =
      push
        { staging with
          fillWindow := staging.fillWindow ++ [frame]
          allocator := { staging.allocator with frames := rest } }
        count := by
  simp only [push, free, List.take_succ_cons, List.drop_succ_cons,
    List.append_assoc, List.cons_append, List.nil_append]

/-- No more frames can be moved than there are. -/
theorem push_min (staging : Staging) (count : Nat) :
    staging.push (min count staging.allocator.frames.length) =
      staging.push count := by
  rcases Nat.le_total count staging.allocator.frames.length with
    enough | short
  · rw [Nat.min_eq_left enough]
  · rw [Nat.min_eq_right short, push, push, List.take_length,
      List.drop_length, List.take_of_length_le short,
      List.drop_eq_nil_of_le short]

/-- Publishing nothing changes nothing. -/
theorem publish_nil (empty : staging.fillWindow = []) :
    staging.publish = staging := by
  rw [publish, empty, List.append_nil, ← empty]

end Staging

section Refilling

variable {scenario : Scenario}
variable {staging : Staging}

/-- One turn of the loop moves the top of the stack to the next slot. -/
theorem fillPush_triple
    {index : UInt32}
    (next :
      index =
        stored (staging.fillLog.length + staging.fillWindow.length))
    (room :
      staging.fillLog.length + staging.fillWindow.length <
        staging.fillSeen + 2 ^ scenario.config.fillOrder.val) :
    Triple scenario.anySetting
      (.own scenario.anySetting (· = staging))
      (Prog.act (Xsk.fillPush index))
      (fun popped =>
        .own scenario.anySetting fun after =>
          match staging.allocator.frames with
          | [] =>
              popped = false ∧ after = staging
          | frame :: rest =>
              popped = true ∧
                after =
                  { staging with
                    fillWindow := staging.fillWindow ++ [frame]
                    allocator :=
                      { staging.allocator with frames := rest } }) := by
  refine Triple.act ?_
  rintro world rings (rfl : world.staging = staging)
  subst next
  cases free : world.allocator.frames with
  | nil =>
      have none : world.staging.allocator.frames = [] := free
      rw [fillPush_nil free]
      refine ⟨rings, trivial, ?_⟩
      rw [Assertion.own_holds, none]
      exact ⟨rfl, rfl⟩
  | cons frame rest =>
      have top : world.staging.allocator.frames = frame :: rest := free
      rw [fillPush_cons free]
      refine
        ⟨{ rings with
           fill := rings.fill.push rings.fillWindow room frame
           fillWindow :=
             rings.fillWindow.push rings.fill.toLinked room frame },
          trivial, ?_⟩
      rw [Assertion.own_holds, top]
      exact ⟨rfl, rfl⟩

/-- The loop stops at the window's end or at the bottom of the stack. -/
theorem fillLoop_triple
    {start : UInt32}
    {remaining pushed : Nat}
    (startsAt : start = stored staging.fillLog.length)
    (already : staging.fillWindow.length = pushed)
    (room :
      staging.fillLog.length + pushed + remaining ≤
        staging.fillSeen + 2 ^ scenario.config.fillOrder.val) :
    Triple scenario.anySetting
      (.own scenario.anySetting (· = staging))
      (Xsk.fillLoop start remaining pushed)
      (fun total =>
        .own scenario.anySetting fun after =>
          total =
              pushed +
                min remaining staging.allocator.frames.length ∧
            after = staging.push remaining) := by
  induction remaining generalizing staging pushed with
  | zero =>
      refine Triple.done ?_
      rintro world _ rfl
      exact ⟨by simp, (Staging.push_zero _).symm⟩
  | succ remaining inductionHypothesis =>
      rw [Xsk.fillLoop]
      refine Triple.bind (fillPush_triple ?_ ?_) ?_
      · rw [startsAt, ← already, stored_add_stored]
      · omega
      intro popped
      refine Triple.each ?_
      intro after effect
      cases free : staging.allocator.frames with
      | nil =>
          rw [free] at effect
          obtain ⟨rfl, rfl⟩ := effect
          refine Triple.done ?_
          rintro world _ (rfl : world.staging = _)
          exact ⟨by simp, (Staging.push_nil free).symm⟩
      | cons frame rest =>
          rw [free] at effect
          obtain ⟨rfl, rfl⟩ := effect
          have length :
              (staging.fillWindow ++ [frame]).length = pushed + 1 := by
            rw [List.length_append, already, List.length_singleton]
          have later :=
            @inductionHypothesis
              { staging with
                fillWindow := staging.fillWindow ++ [frame]
                allocator :=
                  { staging.allocator with frames := rest } }
              (pushed + 1) startsAt length
              (by
                simp only
                omega)
          refine later.weaken ?_
          rintro total world _ ⟨count, after⟩
          refine ⟨?_, after.trans (Staging.push_cons free _).symm⟩
          rw [count]
          simp only [List.length_cons]
          omega

/-- The publication of all that was written. -/
theorem fillPublish_triple
    {amount : UInt32}
    (all : amount.toNat = staging.fillWindow.length) :
    Triple scenario.anySetting
      (.own scenario.anySetting (· = staging))
      (Prog.update (Xsk.fillPublish amount))
      (fun _ => .own scenario.anySetting (· = staging.publish)) := by
  refine Triple.act ?_
  rintro world rings (rfl : world.staging = staging)
  have atMost : amount.toNat ≤ world.aux.fillWindow.length :=
    Nat.le_of_eq all
  have log :=
    rings.fill.publishWrittenEntries_log rings.fillWindow atMost
  have producing :=
    rings.fill.publishWrittenEntries rings.fillWindow atMost
  have whole :
      world.aux.fillWindow.take amount.toNat =
        world.aux.fillWindow := by
    rw [all]
    exact List.take_length
  rw [whole] at log
  refine
    ⟨{ rings with
       fill := producing
       fillWindow := .nil producing.stale producing.window },
      trivial, ?_⟩
  change
    { world.staging with
      fillLog := (world.fill.publishWrittenEntries amount).log
      fillWindow := [] } = _
  rw [log]
  rfl

/-- An empty window need not be published. -/
theorem fillPublished_triple
    {pushed : Nat}
    (all : staging.fillWindow.length = pushed)
    (small : (stored pushed).toNat = pushed) :
    Triple scenario.anySetting
      (.own scenario.anySetting (· = staging))
      (Prog.when (pushed > 0)
        (Prog.update (Xsk.fillPublish (stored pushed))))
      (fun _ => .own scenario.anySetting (· = staging.publish)) := by
  rw [Prog.when]
  split
  · exact fillPublish_triple (small.trans all.symm)
  · next none =>
      have empty : staging.fillWindow = [] :=
        List.eq_nil_of_length_eq_zero (by omega)
      refine Triple.done ?_
      rintro world _ (rfl : world.staging = staging)
      exact (Staging.publish_nil empty).symm

/-- What is popped is published, in the order of the stack. -/
theorem fillFrom_triple
    {window : Range}
    (startsAt : window.start = stored staging.fillLog.length)
    (closed : staging.fillWindow = [])
    (room :
      staging.fillLog.length + window.amount.toNat ≤
        staging.fillSeen + 2 ^ scenario.config.fillOrder.val) :
    Triple scenario.anySetting
      (.own scenario.anySetting (· = staging))
      (Xsk.fillFrom window)
      (fun pushed =>
        .own scenario.anySetting fun after =>
          pushed.toNat =
              min window.amount.toNat
                staging.allocator.frames.length ∧
            after = (staging.push pushed.toNat).publish) := by
  refine Triple.bind
    (fillLoop_triple startsAt (congrArg List.length closed) room) ?_
  intro pushed
  refine Triple.each ?_
  rintro _ ⟨count, rfl⟩
  rw [Nat.zero_add] at count
  have bound := window.amount.toNat_lt
  have small : (stored pushed).toNat = pushed :=
    toNat_stored (by omega)
  have all :
      (staging.push window.amount.toNat).fillWindow.length = pushed := by
    rw [Staging.push, closed, List.nil_append, List.length_take, count]
  refine Triple.bind (fillPublished_triple all small) ?_
  intro _
  refine Triple.done ?_
  rintro world _ (same : world.staging = _)
  refine ⟨small.trans count, same.trans ?_⟩
  rw [small, count, Staging.push_min]

/-- The window reaches from the published entries to the end of the ring. -/
theorem fillWindow_triple :
    Triple scenario.anySetting
      (.own scenario.anySetting (· = staging))
      (Prog.act Xsk.fillWindow)
      (fun window =>
        .own scenario.anySetting fun after =>
          ∃ seen,
            after = { staging with fillSeen := seen } ∧
              window.start = stored staging.fillLog.length ∧
              staging.fillLog.length + window.amount.toNat ≤
                seen + 2 ^ scenario.config.fillOrder.val) := by
  refine Triple.act ?_
  rintro world rings (rfl : world.staging = staging)
  exact
    ⟨{ rings with
       fill := rings.fill.writableRange _
       fillWindow := rings.fill.writableRange_staged rings.fillWindow _ },
      trivial, _, rfl, rings.fill.writableRange_start _,
      rings.fill.writableRange_fits _⟩

/-- `refill_fill` leaves no entry unpublished. -/
theorem refillFill_triple :
    Triple scenario.anySetting scenario.fillClosed
      Xsk.refillFill (fun _ => scenario.fillClosed) := by
  refine Triple.each ?_
  intro staging closed
  rw [Xsk.refillFill_eq]
  refine fillWindow_triple.bind fun window => ?_
  refine Triple.each ?_
  rintro _ ⟨seen, rfl, startsAt, room⟩
  have filled :=
    @fillFrom_triple scenario { staging with fillSeen := seen } window
      startsAt closed room
  refine filled.weaken ?_
  rintro pushed world _ ⟨_, after⟩
  exact congrArg Staging.fillWindow after

end Refilling

/-! ## Sending -/

namespace RingsInOrder

variable {config : Config}
variable {world : World}

/-- A window is opened, and nothing is written yet. -/
theorem reserve (rings : RingsInOrder config world) :
    RingsInOrder config (Transmitter.reserve world) := by
  rw [Transmitter.reserve]
  split
  · exact rings
  · next notOpen =>
      exact
        { rings with
          tx := rings.tx.writableRange _
          txWindow :=
            rings.txWindow.reserve rings.tx (by simpa using notOpen) }

/-- A window can only grow. -/
theorem refresh
    (rings : RingsInOrder config world)
    (isOpen : world.transmitter.reserved = true) :
    RingsInOrder config (Transmitter.refresh world).2 := by
  rw [Transmitter.refresh]
  split
  · exact
      { rings with
        tx := rings.tx.writableRange _
        txWindow := rings.txWindow.refresh rings.tx isOpen }
  · exact rings

/-- A window that is not used up after the second query has room. -/
theorem refresh_room
    (rings : RingsInOrder config world)
    (isOpen : world.transmitter.reserved = true)
    (notFull : (Transmitter.refresh world).1 = false) :
    (Transmitter.refresh world).2.transmitter.txUsed.toNat <
      (Transmitter.refresh world).2.transmitter.txAvail.toNat := by
  have fits :=
    (rings.refresh isOpen).txWindow.fits
      (Transmitter.refresh_branches isOpen isOpen)
  exact Nat.lt_of_le_of_ne fits.1 (Transmitter.refresh_ne notFull)

/-- Staging within the window writes the next entry of TX. -/
theorem stage
    (rings : RingsInOrder config world)
    (isOpen : world.transmitter.reserved = true)
    (room :
      world.transmitter.txUsed.toNat <
        world.transmitter.txAvail.toNat)
    (addr : UInt64)
    (length : UInt32) :
    RingsInOrder config (Transmitter.stage addr length world) := by
  let desc : XdpDesc := { addr := addr, len := length, options := 0 }
  rw [Transmitter.stage, rings.txWindow.next_index isOpen]
  exact
    { rings with
      tx :=
        rings.tx.push rings.txWindow.staged
          (rings.txWindow.room_for_one isOpen room) desc
      txWindow :=
        rings.txWindow.stage rings.tx isOpen room
          (desc, desc.bytes world.memory) }

end RingsInOrder

section Sending

variable {scenario : Scenario}

/-- A rejected frame is counted. -/
theorem rejectFrame_triple :
    Triple scenario.anySetting scenario.fillClosed
      (Prog.update Transmitter.rejectFrame)
      (fun _ => scenario.fillClosed) :=
  Triple.act fun _ rings closed =>
    ⟨{ rings with txWindow := { rings.txWindow with } }, trivial, closed⟩

/-- After the first query the window is open. -/
theorem reserve_triple :
    Triple scenario.anySetting scenario.fillClosed
      (Prog.update Transmitter.reserve)
      (fun _ =>
        .own scenario.anySetting fun staging =>
          staging.fillWindow = [] ∧
            staging.transmitter.reserved = true) := by
  refine Triple.act fun world rings closed => ?_
  refine ⟨rings.reserve, trivial, ?_⟩
  change
    (Transmitter.reserve world).aux.fillWindow = [] ∧
      (Transmitter.reserve world).transmitter.reserved = true
  rw [Transmitter.reserve]
  split
  · next isOpen => exact ⟨closed, isOpen⟩
  · exact ⟨closed, rfl⟩

/-- After the second query it has room, unless the ring is full. -/
theorem refresh_triple :
    Triple scenario.anySetting
      (.own scenario.anySetting fun staging =>
        staging.fillWindow = [] ∧
          staging.transmitter.reserved = true)
      (Prog.act Transmitter.refresh)
      (fun full =>
        .own scenario.anySetting fun staging =>
          staging.fillWindow = [] ∧
            staging.transmitter.reserved = true ∧
            (full = false →
              staging.transmitter.txUsed.toNat <
                staging.transmitter.txAvail.toNat)) := by
  refine Triple.act ?_
  rintro world rings ⟨closed, isOpen⟩
  refine ⟨rings.refresh isOpen, trivial, ?_, ?_,
    rings.refresh_room isOpen⟩
  · exact Transmitter.refresh_branches closed closed
  · exact Transmitter.refresh_branches isOpen isOpen

/-- `send_in_place` leaves Fill alone. -/
theorem sendInPlace_triple
    (addr : UInt64)
    (length : UInt32) :
    Triple scenario.anySetting scenario.fillClosed
      (Transmitter.sendInPlace scenario.config addr length)
      (fun _ => scenario.fillClosed) := by
  rw [Transmitter.sendInPlace]
  split
  · exact rejectFrame_triple.bind fun _ =>
      Triple.done fun _ _ closed => closed
  refine reserve_triple.bind fun _ => ?_
  refine refresh_triple.bind fun full => ?_
  split
  · refine Triple.bind ?_ fun _ =>
      Triple.done fun _ _ closed => closed
    exact rejectFrame_triple.strengthen fun _ _ held => held.1
  · next notFull =>
      refine Triple.bind ?_ fun _ =>
        Triple.done fun _ _ closed => closed
      refine Triple.act ?_
      rintro world rings ⟨closed, isOpen, room⟩
      exact
        ⟨rings.stage isOpen (room (by simpa using notFull)) addr length,
          trivial, closed⟩

end Sending

/-! ## Reachable states -/

namespace Scenario

variable {scenario : Scenario}
variable {events : List (Event AnyCall KernelStep)}
variable {final : Configuration World}

/-- Code that leaves Fill alone may run at any time. -/
theorem quiet_guaranteed
    {Result : Type}
    {program : Task Result}
    (uses : program.Uses (Quiet scenario))
    {world : World}
    (rings : scenario.anySetting.invariant world)
    (closed : scenario.fillClosed.holds world) :
    Guaranteed scenario.anySetting (fun _ => scenario.fillClosed)
      program world :=
  Guaranteed.of_uses (fun _ _ => trivial) uses rings closed

/-- Every call keeps the rings in order and leaves no entry unpublished. -/
theorem anyCalls_guaranteed
    (issued : AnyCall)
    (world : World)
    (rings : scenario.anySetting.invariant world)
    (closed : scenario.fillClosed.holds world) :
    Guaranteed scenario.anySetting (fun _ => scenario.fillClosed)
      (scenario.anyMachine.code issued) world := by
  have drop
      {Result : Type}
      {program : Task Result}
      (meets :
        Triple scenario.anySetting scenario.fillClosed program
          (fun _ => scenario.fillClosed)) :
      Guaranteed scenario.anySetting (fun _ => scenario.fillClosed)
        (program >>= fun _ => (.done () : Task Unit)) world := by
    have finished :
        Triple scenario.anySetting scenario.fillClosed
          (.done () : Task Unit) (fun _ => scenario.fillClosed) :=
      Triple.done fun _ _ closed => closed
    exact meets.bind (fun _ => finished) world rings closed
  cases issued with
  | client call =>
      cases call with
      | refillFill =>
          exact drop refillFill_triple
      | receive batchSize =>
          exact quiet_guaranteed (receive_quiet batchSize) rings closed
      | giveBack addr =>
          exact quiet_guaranteed
            (.act fun _ rings closed => ⟨{ rings with }, closed⟩)
            rings closed
      | sendInPlace addr length =>
          exact drop (sendInPlace_triple addr length)
      | publishAndServiceTx =>
          exact quiet_guaranteed publishAndServiceTx_quiet rings closed
      | reclaimCompletedFrames budget =>
          exact quiet_guaranteed
            (.bind (reclaimCompletedFrames_quiet budget)
              fun _ => .done ())
            rings closed
      | drainUntil beforeDeadline =>
          exact quiet_guaranteed
            (.bind (drainUntil_quiet beforeDeadline) fun _ => .done ())
            rings closed
  | useAllocator allocator =>
      exact quiet_guaranteed
        (.act fun _ rings closed => ⟨{ rings with }, closed⟩)
        rings closed

/-- So does every run of any caller. -/
theorem anyReaches_sound
    (reaches : scenario.AnyReaches events final) :
    scenario.anyMachine.Sound scenario.anySetting
      scenario.fillClosed final :=
  Machine.run_sound (fun stepped => stepped)
    (fun issued world _ rings closed _ =>
      anyCalls_guaranteed issued world rings closed)
    reaches
    { invariant := (World.initial_core _ _ _ _).ringsInOrder
      promise := rfl }

end Scenario

end AfXdp
