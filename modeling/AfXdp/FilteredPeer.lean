import AfXdp.Reflection
import AfXdp.XdpFilter

namespace AfXdp

open Interleaving
open WireBytes

/-!
# Only the filtered peer is answered

The two packet parsers look at the same source address on every frame that
both accept: the XDP program walks over VLAN tags, `reflect_swap` reads fixed
offsets, and it accepts no frame with a tag.
-/

/-- An IPv4 packet without VLAN tags, addressed to the peer. -/
structure AnswersTo (peer : Ipv4) (frame : Bytes) : Prop where
  ipv4 :
    etherType frame 0 = ethPIp
  untagged :
    ¬ IsVlan (etherType frame 0)
  destination :
    copyOut frame 30 4 = peer.bytes

section Parsers

variable {frame : Bytes}
variable {peer : Ipv4}
variable {maps : Maps}
variable {rxQueueIndex : UInt32}

/-- A frame that is answered is IPv4 without a tag. -/
theorem etherType_of_reflectable
    (accepted : Bench.Reflectable frame) :
    etherType frame 0 = ethPIp :=
  accepted.etherType

/-- Both parsers read the source address at the same place. -/
theorem comesFrom_iff_of_reflectable
    (accepted : Bench.Reflectable frame) :
    ComesFrom peer frame ↔ copyOut frame 26 4 = peer.bytes := by
  have notVlan : ¬ IsVlan (etherType frame 0) := by
    rw [etherType_of_reflectable accepted]
    exact not_isVlan_ethPIp
  constructor
  · rintro ⟨tags, _, tagged, source⟩
    obtain rfl : tags = 0 :=
      Nat.le_zero.mp (tagged.le_of_isVlan notVlan)
    exact source
  · intro source
    have minimum : 42 ≤ frame.length := accepted.minimum
    refine ⟨0, by omega, ?_, source⟩
    exact
      { vlans := by
          intro index below
          omega
        ipv4 := etherType_of_reflectable accepted
        long := by omega }

/-- What the XDP program redirects comes from the target. -/
theorem comesFrom_of_redirect
    (target : maps.targetIp = some peer)
    (redirected :
      xdpFilterIp maps rxQueueIndex frame = some .redirect) :
    ComesFrom peer frame := by
  rcases xdpFilterIp_cases maps rxQueueIndex frame with
    ⟨⟨⟨other, known, source⟩, _⟩, _⟩ | ⟨_, passed⟩
  · obtain rfl : other = peer :=
      Option.some.inj (known.symm.trans target)
    exact source
  · rw [redirected] at passed
    cases passed

/-- The answer to a frame of the peer goes to the peer. -/
theorem answersTo_of_reflectable
    (accepted : Bench.Reflectable frame)
    (source : ComesFrom peer frame) :
    AnswersTo peer (Bench.swapEndpoints frame) := by
  have minimum : 42 ≤ frame.length := accepted.minimum
  have sameType : etherType (Bench.swapEndpoints frame) 0 = ethPIp := by
    rw [← etherType_of_reflectable accepted, etherType, etherType]
    exact congrArg byteSwap16
      (load16_eq_of_copyOut_eq
        (Bench.swapEndpoints_etherType (by omega)))
  exact
    { ipv4 := sameType
      untagged := by
        rw [sameType]
        exact not_isVlan_ethPIp
      destination := by
        rw [Bench.swapEndpoints_destinationIp (by omega)]
        exact (comesFrom_iff_of_reflectable accepted).mp source }

end Parsers

namespace Scenario

variable {scenario : Scenario}
variable {events : List (Event WorkerCall KernelStep)}
variable {final : Configuration World}

/-- The kernel delivers the frames that the XDP program redirects. -/
def filtered
    (scenario : Scenario)
    (maps : Maps)
    (rxQueueIndex : UInt32) :
    Scenario :=
  { scenario with
    admits := fun frame =>
      xdpFilterIp maps rxQueueIndex frame = some .redirect }

end Scenario

/-- Whatever was delivered was let through. -/
def World.Admitted (admits : List UInt8 → Bool) (world : World) : Prop :=
  ∀ packet,
    packet ∈ world.kernel.delivered →
    admits packet.2 = true

namespace Scenario

variable {scenario : Scenario}
variable {events : List (Event WorkerCall KernelStep)}
variable {final : Configuration World}

/-- Every packet of a run was admitted. -/
theorem reaches_admitted
    (reaches : scenario.Reaches events final) :
    final.state.Admitted scenario.admits := by
  refine reaches_invariant ?_ ?_ ?_ reaches
  · intro packet member
    cases member
  · intro step before after _ performed admitted packet member
    obtain ⟨allowed, rfl⟩ := KernelStep.perform_eq_some.mp performed
    cases step with
    | deliver desc =>
        rcases List.mem_append.mp member with old | new
        · exact admitted packet old
        · rw [List.mem_singleton] at new
          subst new
          exact allowed.2.2.2
    | _ =>
        exact admitted packet member
  · intro before after _ step admitted packet member
    have unchanged : after.kernel = before.kernel :=
      congrArg KernelSide.kernel step.kernelSide_unchanged
    rw [unchanged] at member
    exact admitted packet member

/-- Every answer is the reflection of a delivered frame. -/
theorem mem_answers
    {packet : Packet}
    (core : Core scenario.config final.state)
    (answered : packet ∈ final.state.answers) :
    ∃ request,
      request ∈ final.state.kernel.delivered ∧
        (Bench.reflectSwap request.2).1 = true ∧
        packet.2 = (Bench.reflectSwap request.2).2 := by
  obtain ⟨⟨request, verdict⟩, paired, made⟩ :=
    List.mem_filterMap.mp answered
  have handed : request ∈ final.state.aux.handed :=
    (List.of_mem_zip paired).1
  rw [core.handed] at handed
  refine ⟨request, List.mem_of_mem_take handed, ?_⟩
  simp only [Option.ite_none_right_eq_some, Bool.and_eq_true,
    Option.some.injEq] at made
  obtain ⟨⟨accepted, _⟩, rfl⟩ := made
  exact ⟨accepted, rfl⟩

/-- With the filter in place every answer goes to the peer. -/
theorem answers_answersTo
    {maps : Maps}
    {rxQueueIndex : UInt32}
    {peer : Ipv4}
    {packet : Packet}
    (target : maps.targetIp = some peer)
    (reaches :
      (scenario.filtered maps rxQueueIndex).reflecting.Reaches events
        final)
    (answered : packet ∈ final.state.answers) :
    AnswersTo peer packet.2 := by
  obtain ⟨request, delivered, accepted, same⟩ :=
    mem_answers (reaches_core reaches) answered
  have admitted := reaches_admitted reaches request delivered
  have source : ComesFrom peer request.2 :=
    comesFrom_of_redirect target (of_decide_eq_true admitted)
  rw [same, Bench.reflectSwap_of_accepts accepted]
  exact answersTo_of_reflectable
    ((Bench.reflectSwap_accepts_iff _).mp accepted) source

/-- The bytes behind a published descriptor are those of an answer. -/
theorem published_bytes
    {desc : XdpDesc}
    (reaches : scenario.reflecting.Reaches events final)
    (published : desc ∈ final.state.tx.ring.published) :
    ∃ packet,
      packet ∈ final.state.answers ∧
        desc.bytes final.state.memory = packet.2 := by
  have core := reaches_core reaches
  obtain ⟨_, _, visible, sends⟩ := reaches_answers reaches
  have log := core.txWindow.published
  rw [core.tx.published_eq, Channel.pending, ← log, ← List.map_drop]
    at published
  obtain ⟨packet, member, rfl⟩ := List.mem_map.mp published
  have sent :
      packet ∈ final.state.answers.take final.state.tx.log.length := by
    have inPrefix := List.mem_of_mem_drop member
    rwa [sends, List.take_append_of_le_length visible] at inPrefix
  have pending : packet ∈ final.state.txPending := by
    rw [List.drop_take] at member
    exact List.mem_of_mem_take member
  exact ⟨packet, List.mem_of_mem_take sent,
    core.intact packet (List.mem_append_right _ pending)⟩

/-- What the kernel took from TX was an answer. -/
theorem transmitted_mem_answers
    {packet : Packet}
    (reaches : scenario.reflecting.Reaches events final)
    (sent : packet ∈ final.state.kernel.transmitted) :
    packet ∈ final.state.answers := by
  have core := reaches_core reaches
  obtain ⟨_, _, visible, sends⟩ := reaches_answers reaches
  have ordered := core.tx.ordered
  rw [core.transmitted, sends,
    List.take_append_of_le_length (by omega)] at sent
  exact List.mem_of_mem_take sent

/--
The two parsers agree, and so the reflector only ever answers the filtered
peer: whatever is published on TX, or was consumed from it, is an untagged
IPv4 packet to the peer.
-/
theorem only_peer_answered
    (scenario : Scenario)
    (maps : Maps)
    (rxQueueIndex : UInt32)
    (peer : Ipv4)
    (target : maps.targetIp = some peer) :
    (∀ frame,
        xdpFilterIp maps rxQueueIndex frame = some .redirect →
        (Bench.reflectSwap frame).1 = true →
        copyOut (Bench.reflectSwap frame).2 30 4 = peer.bytes ∧
          copyOut (Bench.reflectSwap frame).2 0 6 =
            copyOut frame 6 6) ∧
      (∀ frame,
        (Bench.reflectSwap frame).1 = true →
        copyOut frame 26 4 = peer.bytes →
        (maps.xsks rxQueueIndex).isSome = true →
        xdpFilterIp maps rxQueueIndex frame = some .redirect) ∧
      (∀ events final,
        (scenario.filtered maps rxQueueIndex).reflecting.Reaches events
          final →
        (∀ desc,
            desc ∈ final.state.tx.ring.published →
            AnswersTo peer (desc.bytes final.state.memory)) ∧
          (∀ packet,
            packet ∈ final.state.kernel.transmitted →
            AnswersTo peer packet.2)) := by
  refine ⟨?_, ?_, ?_⟩
  · intro frame redirected accepts
    have accepted := (Bench.reflectSwap_accepts_iff frame).mp accepts
    have minimum : 42 ≤ frame.length := accepted.minimum
    rw [Bench.reflectSwap_of_accepts accepts]
    exact
      ⟨(answersTo_of_reflectable accepted
          (comesFrom_of_redirect target redirected)).destination,
        Bench.swapEndpoints_destinationMac (by omega)⟩
  · intro frame accepts source entry
    have accepted := (Bench.reflectSwap_accepts_iff frame).mp accepts
    have captured : Captured maps rxQueueIndex frame :=
      ⟨⟨peer, target,
        (comesFrom_iff_of_reflectable accepted).mpr source⟩, entry⟩
    rcases xdpFilterIp_cases maps rxQueueIndex frame with
      ⟨_, redirected⟩ | ⟨other, _⟩
    · exact redirected
    · exact absurd captured other
  · intro events final reaches
    refine ⟨?_, ?_⟩
    · intro desc published
      obtain ⟨packet, answered, same⟩ := published_bytes reaches published
      rw [same]
      exact answers_answersTo target reaches answered
    · intro packet sent
      exact answers_answersTo target reaches
        (transmitted_mem_answers reaches sent)

/-- The maps for the peer 10.0.0.1 on queue 0. -/
def sampleMaps : Maps where
  targetIp := some ⟨[10, 0, 0, 1], rfl⟩
  xsks := fun queue => if queue = 0 then some 7 else none

/-- The packet of the peer is answered. -/
theorem only_peer_answered_sample :
    ∃ final,
      (sample.filtered sampleMaps 0).reflecting.Reaches sampleRun
          final ∧
        final.state.kernel.transmitted.length = 1 ∧
        ∀ packet,
          packet ∈ final.state.kernel.transmitted →
          AnswersTo ⟨[10, 0, 0, 1], rfl⟩ packet.2 := by
  obtain ⟨final, ran, one⟩ :
      ∃ final,
        (sample.filtered sampleMaps 0).reflecting.Reaches sampleRun
            final ∧
          final.state.kernel.transmitted.length = 1 :=
    ⟨_, rfl, rfl⟩
  exact ⟨final, ran, one,
    ((only_peer_answered sample sampleMaps 0 _ rfl).2.2 _ _ ran).2⟩

end Scenario

end AfXdp
