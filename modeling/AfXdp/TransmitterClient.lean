import AfXdp.ReceiverRuns

namespace AfXdp

open Interleaving
open SequenceIndex

/-!
# The transmitter used by any caller

A caller that takes frames from RX and calls the operations of `Transmitter`
in any order.  Its only duty is the contract of `send_in_place`: it names a
frame that it owns, with the address and length of the RX descriptor.
-/

/-- What the caller may do next. -/
inductive ClientCall where
  | refillFill : ClientCall
  | receive (batchSize : UInt32) : ClientCall
  | giveBack (addr : UInt64) : ClientCall
  | sendInPlace (addr : UInt64) (length : UInt32) : ClientCall
  | publishAndServiceTx : ClientCall
  | reclaimCompletedFrames (budget : UInt32) : ClientCall
  | drainUntil (beforeDeadline : List Bool) : ClientCall
  deriving Repr, DecidableEq

namespace Scenario

/-- The caller's operations and the kernel's steps. -/
def clientMachine
    (scenario : Scenario) :
    Machine World ClientCall KernelStep where
  code
    | .refillFill => do
        let _ ← Xsk.refillFill
        return ()
    | .receive batchSize =>
        Client.receive batchSize
    | .giveBack addr =>
        Prog.update (Client.giveBack scenario.config addr)
    | .sendInPlace addr length => do
        let _ ← Transmitter.sendInPlace scenario.config addr length
        return ()
    | .publishAndServiceTx =>
        Transmitter.publishAndServiceTx scenario.config
    | .reclaimCompletedFrames budget => do
        let _ ←
          Transmitter.reclaimCompletedFrames scenario.config budget
        return ()
    | .drainUntil beforeDeadline => do
        let _ ← Transmitter.drainUntil scenario.config beforeDeadline
        return ()
  ready
    | .giveBack addr, world =>
        world.aux.hand.any fun packet => packet.1.addr = addr
    | .sendInPlace addr length, world =>
        world.aux.hand.any fun packet =>
          packet.1.addr = addr ∧ packet.1.len = length
    | _, _ =>
        true
  env step world :=
    step.perform scenario.config scenario.admits world

/-- The client begins with an idle transmitter and nothing to do. -/
def clientStart (scenario : Scenario) : Configuration World where
  pending :=
    .done ()
  state :=
    World.initial scenario.config scenario.memory
      scenario.sendto scenario.recvfrom

/-- The caller's run with these events is possible and ends in `final`. -/
def ClientReaches
    (scenario : Scenario)
    (events : List (Event ClientCall KernelStep))
    (final : Configuration World) : Prop :=
  scenario.clientMachine.run events scenario.clientStart = some final

/--
The invariant is that of the worker, with a client that may hold packets.
-/
def clientSetting (scenario : Scenario) : Setting World Own :=
  workerSetting scenario.config scenario.rewrite scenario.admits
    true ground

end Scenario

/-- What holds of the caller's own part between two operations. -/
structure ClientIdle (own : Own) : Prop where
  rxDone :
    own.rxDone = 0
  completionDone :
    own.completionDone = 0
  fillWindow :
    own.fillWindow = []
  current :
    own.current = none
  sendtoNoted :
    own.sendtoNoted = own.wakeups.sendtoCalls

section Operations

variable {config : Config}
variable {rewrite : Rewrite}
variable {admits : List UInt8 → Bool}
variable {floor : Floor}
variable {own : Own}

/-- The client takes the next descriptor of its window. -/
theorem takeDesc_meets
    {index : UInt32}
    (next : index = stored (own.rxTaken + own.rxDone))
    (inWindow : own.rxTaken + own.rxDone < own.rxSeen) :
    Meets (workerSetting config rewrite admits true floor)
      (· = own) (Prog.act (Receiver.takeDesc index))
      (fun _ after =>
        ∃ hand handed,
          after =
            { own with
              rxDone := own.rxDone + 1
              hand := hand
              handed := handed }) := by
  refine Meets.act ?_
  rintro world core _ rfl
  exact ⟨.takeDesc next inWindow rfl, _, _, rfl⟩

/-- Receiving a batch is between calls again at its end. -/
theorem receive_meets
    {batchSize : UInt32}
    (idle : ClientIdle own) :
    Meets (workerSetting config rewrite admits true floor)
      (· = own) (Client.receive batchSize)
      (fun _ after => ClientIdle after) := by
  refine Meets.bind _ rxWindow_meets ?_
  rintro window _ ⟨seen, rfl, start, known⟩
  refine Meets.bind _
    (Meets.forRange
      (fun index after =>
        ∃ hand handed,
          after =
            { own with
              rxSeen := seen
              rxDone := index
              hand := hand
              handed := handed })
      ⟨own.hand, own.handed, by rw [idle.rxDone]⟩ ?_) ?_
  · rintro index _ inRange ⟨hand, handed, rfl⟩
    refine Meets.bind _ (takeDesc_meets ?_ ?_) ?_
    · rw [start, stored_add_stored]
    · simp only
      omega
    · rintro _ _ ⟨hand, handed, rfl⟩
      exact Meets.done ⟨hand, handed, rfl⟩
  · rintro _ _ ⟨hand, handed, rfl⟩
    refine (release_meets rfl).weaken ?_
    rintro _ _ rfl
    exact { idle with rxDone := rfl }

/-- A packet in hand is freed. -/
theorem giveBack_meets
    {packet : Packet}
    (member : packet ∈ own.hand) :
    Meets (workerSetting config rewrite admits true floor)
      (· = own) (Prog.update (Client.giveBack config packet.1.addr))
      (fun _ after =>
        ∃ free hand,
          after = { own with freeFrames := free, hand := hand }) := by
  refine Meets.update ?_
  rintro world core _ rfl
  exact ⟨.giveBack member, _, _, rfl⟩

end Operations

namespace Scenario

variable {scenario : Scenario}
variable {events : List (Event ClientCall KernelStep)}
variable {final : Configuration World}

/-- Every call keeps the invariant and ends between calls. -/
theorem clientCalls_guaranteed
    (issued : ClientCall)
    (world : World)
    (invariant : scenario.clientSetting.invariant world)
    (idle : ClientIdle world.own)
    (ready : scenario.clientMachine.ready issued world = true) :
    Guaranteed scenario.clientSetting
      (fun _ => .own scenario.clientSetting ClientIdle)
      (scenario.clientMachine.code issued) world := by
  cases issued with
  | refillFill =>
      refine Meets.bind _ (refillFill_meets idle.fillWindow) ?_ world
        invariant rfl
      rintro pushed _ ⟨seen, free, rfl, _⟩
      exact Meets.done { idle with }
  | receive batchSize =>
      exact receive_meets idle world invariant rfl
  | giveBack addr =>
      obtain ⟨packet, member, same⟩ := List.any_eq_true.mp ready
      simp only [decide_eq_true_eq] at same
      subst same
      refine (giveBack_meets member).weaken ?_ world invariant rfl
      rintro _ _ ⟨free, hand, rfl⟩
      exact { idle with }
  | sendInPlace addr length =>
      obtain ⟨packet, member, same⟩ := List.any_eq_true.mp ready
      simp only [decide_eq_true_eq] at same
      obtain ⟨rfl, rfl⟩ := same
      have offered : Offered true world.own packet :=
        { member := member
          offering := idle.current }
      refine Meets.bind _ (sendInPlace_meets offered) ?_ world
        invariant rfl
      rintro accepted _ ⟨transmitter, rfl⟩
      exact Meets.done
        { idle with
          current := by
            simp only [idle.current, Option.map_none] }
  | publishAndServiceTx =>
      refine (publishAndServiceTx_meets idle.completionDone
        idle.current idle.sendtoNoted (Nat.zero_le _)).weaken ?_
        world invariant rfl
      rintro _ _ ⟨⟨_, _, _, _, _, rfl, _⟩, _⟩
      exact { idle with sendtoNoted := rfl }
  | reclaimCompletedFrames budget =>
      refine Meets.bind _
        (reclaimCompletedFrames_meets idle.completionDone) ?_ world
        invariant rfl
      rintro reaped _ ⟨seen, free, rfl, _⟩
      exact Meets.done { idle with }
  | drainUntil beforeDeadline =>
      refine Meets.bind _
        (drainUntil_meets idle.completionDone idle.current
          idle.sendtoNoted (Nat.zero_le _)) ?_ world invariant rfl
      rintro remaining _ ⟨⟨_, _, _, _, _, rfl, _⟩, _⟩
      exact Meets.done { idle with sendtoNoted := rfl }

/-- So does every run. -/
theorem clientReaches_sound
    (reaches : scenario.ClientReaches events final) :
    scenario.clientMachine.Sound scenario.clientSetting
      (.own scenario.clientSetting ClientIdle) final := by
  have initially :
      scenario.clientMachine.Sound scenario.clientSetting
        (.own scenario.clientSetting ClientIdle)
        scenario.clientStart :=
    { invariant :=
        ⟨World.initial_core _ _ _ _, ground_reached _⟩
      promise :=
        { rxDone := rfl
          completionDone := rfl
          fillWindow := rfl
          current := rfl
          sendtoNoted := rfl } }
  exact Machine.run_sound (fun stepped => stepped)
    (fun issued world _ invariant idle ready =>
      clientCalls_guaranteed issued world invariant idle ready)
    reaches initially

/--
In every reachable state `outstanding_` counts the published, the held and the
completed descriptors; it is zero only if there are none; no assertion has
failed; and between two operations it fits, with what is staged, into the
number of frames.
-/
theorem outstanding_exact
    (scenario : Scenario)
    (reaches : scenario.ClientReaches events final) :
    final.state.transmitter.outstanding.toNat =
        final.state.tx.ring.published.length +
          final.state.kernel.txHeld.length +
          final.state.completion.ring.published.length ∧
      (final.state.transmitter.outstanding = 0 →
        final.state.tx.ring.published = [] ∧
          final.state.kernel.txHeld = [] ∧
          final.state.completion.ring.published = []) ∧
      final.state.aux.assertsHeld = true ∧
      (final.AtBoundary →
        final.state.transmitter.outstanding.toNat +
            final.state.transmitter.txUsed.toNat ≤
          scenario.config.numFrames.toNat) := by
  have sound := clientReaches_sound reaches
  have core := sound.invariant.1
  have exactly := core.outstanding
  rw [← core.tx.published_eq, ← core.completion.published_eq]
    at exactly
  refine ⟨exactly, ?_, core.asserts, ?_⟩
  · intro zero
    rw [zero, UInt32.toNat_zero] at exactly
    exact ⟨List.eq_nil_of_length_eq_zero (by omega),
      List.eq_nil_of_length_eq_zero (by omega),
      List.eq_nil_of_length_eq_zero (by omega)⟩
  · intro boundary
    have idle := sound.between_holds boundary
    exact core.outstanding_add_txUsed_le idle.completionDone

/-- One frame received, staged and published. -/
def clientRun : List (Event ClientCall KernelStep) :=
  List.flatten
    [[.call .refillFill],
      List.replicate 4 .work,
      [.env .takeFill,
        .env (.dma 64 0 samplePacket),
        .env (.deliver { addr := 64, len := 42, options := 0 }),
        .call (.receive 1)],
      List.replicate 3 .work,
      [.call (.sendInPlace 64 42)],
      List.replicate 3 .work,
      [.call .publishAndServiceTx],
      List.replicate 9 .work]

/-- One packet is staged, submitted, and still on the TX ring. -/
theorem outstanding_exact_sample :
    ∃ final,
      sample.ClientReaches clientRun final ∧
        final.AtBoundary ∧
        final.state.transmitter.outstanding = 1 ∧
        final.state.transmitter.outstanding.toNat =
          final.state.tx.ring.published.length +
            final.state.kernel.txHeld.length +
            final.state.completion.ring.published.length ∧
        final.state.transmitter.outstanding.toNat +
            final.state.transmitter.txUsed.toNat ≤
          sample.config.numFrames.toNat := by
  obtain ⟨final, ran, boundary, one⟩ :
      ∃ final,
        sample.ClientReaches clientRun final ∧
          final.AtBoundary ∧
          final.state.transmitter.outstanding = 1 :=
    ⟨_, rfl, rfl, rfl⟩
  obtain ⟨exactly, _, _, fits⟩ := outstanding_exact sample ran
  exact ⟨final, ran, boundary, one, exactly, fits boundary⟩

end Scenario

end AfXdp
