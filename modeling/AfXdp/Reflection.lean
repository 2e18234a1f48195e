import AfXdp.CallbackHistory
import AfXdp.ReflectSwap

namespace AfXdp

open Interleaving
open SequenceIndex

/-!
# Reflection, end to end

With `reflect_swap` as the callback's rule: every delivered packet is handled
once and in order, and what the kernel transmits is the reflection of what it
delivered.
-/

/-- The callback of `main.cpp` applies `reflect_swap`. -/
def Main.reflect : Rewrite :=
  fun _ frame => Bench.reflectSwap frame

namespace Scenario

/-- The program as it is: any setting, with `reflect_swap` plugged in. -/
def reflecting (scenario : Scenario) : Scenario :=
  { scenario with rewrite := Main.reflect }

end Scenario

/--
The packets that `reflect_swap` and then `send_in_place` accepted, in order,
each with its address and length and the reflection of its bytes.
-/
def World.answers (world : World) : List Packet :=
  (world.aux.handed.zip world.aux.verdicts).filterMap fun entry =>
    if (Bench.reflectSwap entry.1.2).1 && entry.2.sent then
      some
        ({ addr := entry.1.1.addr
           len := entry.1.1.len
           options := 0 },
          (Bench.reflectSwap entry.1.2).2)
    else
      none

/-- Recorded packets have as many bytes as their descriptor says. -/
def Measured (world : World) : Prop :=
  ∀ packet,
    packet ∈ world.kernel.delivered →
    packet.2.length = packet.1.len.toNat

namespace Scenario

variable {scenario : Scenario}
variable {events : List (Event WorkerCall KernelStep)}
variable {final : Configuration World}

/-- The kernel delivers as many bytes as its descriptor says. -/
theorem reaches_measured
    (reaches : scenario.Reaches events final) :
    Measured final.state := by
  refine reaches_invariant ?_ ?_ ?_ reaches
  · intro packet member
    cases member
  · intro step before after _ performed measured packet member
    obtain ⟨_, rfl⟩ := KernelStep.perform_eq_some.mp performed
    cases step with
    | deliver desc =>
        rcases List.mem_append.mp member with old | new
        · exact measured packet old
        · rw [List.mem_singleton] at new
          subst new
          exact Memory.length_span _ _ _
    | _ =>
        exact measured packet member
  · intro before after _ step measured packet member
    have unchanged : after.kernel = before.kernel :=
      congrArg KernelSide.kernel step.kernelSide_unchanged
    rw [unchanged] at member
    exact measured packet member

/-- A full-length output is what the span holds afterwards. -/
theorem leaves_reflectSwap
    {packet : Packet}
    (measured : packet.2.length = packet.1.len.toNat) :
    packet.leaves (Bench.reflectSwap packet.2).2 =
      (Bench.reflectSwap packet.2).2 := by
  have length := Bench.length_reflectSwap packet.2
  have whole :
      (Bench.reflectSwap packet.2).2.take packet.1.len.toNat =
        (Bench.reflectSwap packet.2).2 :=
    List.take_of_length_le (by omega)
  rw [Packet.leaves, whole, length, List.drop_length,
    List.append_nil]

/-- Handed packets were delivered, in the same order. -/
theorem handed_take
    (core : Core scenario.config final.state) :
    final.state.aux.handed =
      final.state.kernel.delivered.take
        final.state.aux.handed.length := by
  have handed := core.handed
  rw [handed, List.length_take]
  rcases Nat.le_total
      (final.state.rx.taken + final.state.aux.rxDone)
      final.state.kernel.delivered.length with within | beyond
  · rw [Nat.min_eq_left within]
  · rw [Nat.min_eq_right beyond, List.take_length,
      List.take_of_length_le beyond]

/-- What is released was handed out before. -/
theorem taken_le_handed
    (core : Core scenario.config final.state) :
    final.state.rx.taken ≤ final.state.aux.handed.length := by
  have window := core.rxDone
  have stale := core.rx.stale
  have delivered := congrArg List.length core.delivered
  rw [List.length_map] at delivered
  rw [core.handed, List.length_take_of_le (by omega)]
  exact Nat.le_add_right _ _

/-- What was sent is the reflection of what was handed out. -/
theorem reflected_eq_answers
    {settled : List (Packet × Verdict)}
    (measured : Measured final.state)
    (core : Core scenario.config final.state)
    (tells : Tells Main.reflect settled final.state.story) :
    reflected settled = final.state.answers := by
  have settledEq :
      final.state.aux.handed.zip final.state.aux.verdicts =
        settled :=
    tells.settled_eq
  rw [World.answers, settledEq, reflected]
  refine List.filterMap_congr ?_
  intro entry member
  obtain ⟨index, inRange, found⟩ := List.mem_iff_getElem.mp member
  have follows :=
    tells.follows index entry.1 entry.2
      (List.getElem?_eq_some_iff.mpr ⟨inRange, found⟩)
  have delivered : entry.1 ∈ final.state.kernel.delivered := by
    have handed : entry.1 ∈ final.state.aux.handed := by
      have inHanded := tells.handed
      change final.state.aux.handed = _ at inHanded
      rw [inHanded]
      exact List.mem_append_left _
        (List.mem_map_of_mem (f := Prod.fst) member)
    rw [core.handed] at handed
    exact List.mem_of_mem_take handed
  have output := follows.output
  rw [Main.reflect, leaves_reflectSwap (measured _ delivered)]
    at output
  cases sent : entry.2.sent with
  | false =>
      simp
  | true =>
      have accepted := follows.sent sent
      rw [follows.accepted, Main.reflect] at accepted
      simp only [accepted, Bool.and_self, ↓reduceIte, output,
        Packet.resent]

/-- Sends are answers, and what is published was answered completely. -/
theorem reaches_answers
    (reaches : scenario.reflecting.Reaches events final) :
    ∃ settled,
      Tells Main.reflect settled final.state.story ∧
        final.state.tx.log.length ≤ final.state.answers.length ∧
        final.state.aux.sendLog =
          final.state.answers ++
            final.state.aux.current.toList.flatMap InFlight.sent := by
  obtain ⟨settled, tells⟩ := reaches_history reaches
  have answers : reflected settled = final.state.answers :=
    reflected_eq_answers (reaches_measured reaches)
      (reaches_core reaches) tells
  refine ⟨settled, tells, ?_, ?_⟩
  · rw [← answers]
    exact tells.published
  · rw [← answers]
    exact tells.sends

/--
In every reachable state: the callback was handed a prefix of what the kernel
delivered, each packet once, and no RX entry is released before; the TX
descriptors made visible so far are a prefix of the accepted packets, and all
of them between two passes; and every descriptor that the kernel consumed
named, at that moment, the reflection of the bytes it had been delivered with.
-/
theorem reflection_exactly_once
    (scenario : Scenario)
    {events : List (Event WorkerCall KernelStep)}
    {final : Configuration World}
    (reaches : scenario.reflecting.Reaches events final) :
    final.state.kernel.delivered.map Prod.fst = final.state.rx.log ∧
      final.state.aux.handed =
        final.state.kernel.delivered.take
          final.state.aux.handed.length ∧
      final.state.rx.taken ≤ final.state.aux.handed.length ∧
      final.state.tx.log =
        (final.state.answers.map Prod.fst).take
          final.state.tx.log.length ∧
      (final.AtBoundary →
        final.state.aux.verdicts.length =
            final.state.aux.handed.length ∧
          final.state.tx.log =
            final.state.answers.map Prod.fst) ∧
      final.state.kernel.transmitted =
        final.state.answers.take
          final.state.kernel.transmitted.length := by
  have core := reaches_core reaches
  obtain ⟨settled, tells, visible, sends⟩ := reaches_answers reaches
  have ordered := core.tx.ordered
  have published := core.txWindow.published
  have transmitted := core.transmitted
  rw [sends, List.take_append_of_le_length visible] at published
  rw [sends, List.take_append_of_le_length (by omega)] at transmitted
  refine ⟨core.delivered, handed_take core, taken_le_handed core,
    ?_, ?_, ?_⟩
  · rw [← List.map_take]
    exact published.symm
  · intro boundary
    have between := reaches_between reaches boundary
    have current : final.state.aux.current = none := between.current
    have unused : final.state.transmitter.txUsed = 0 := between.txUsed
    have used := core.txWindow.used
    have handed : final.state.aux.handed = settled.map Prod.fst :=
      tells.handed_between current
    have verdicts : final.state.aux.verdicts = settled.map Prod.snd :=
      tells.verdicts
    rw [sends, current, unused] at used
    simp only [Option.toList_none, List.flatMap_nil,
      List.append_nil, UInt32.toNat_zero, Nat.add_zero] at used
    refine ⟨?_, ?_⟩
    · rw [verdicts, handed, List.length_map, List.length_map]
    · rw [← published, ← used, List.take_length]
  · rw [transmitted, List.length_take, Nat.min_eq_left (by omega)]

theorem reflection_exactly_once_sample :
    ∃ final,
      sample.reflecting.Reaches sampleRun final ∧
        final.state.kernel.transmitted.length = 1 ∧
        final.state.kernel.transmitted =
          final.state.answers.take 1 := by
  obtain ⟨final, ran, one⟩ :
      ∃ final,
        sample.reflecting.Reaches sampleRun final ∧
          final.state.kernel.transmitted.length = 1 :=
    ⟨_, rfl, rfl⟩
  refine ⟨final, ran, one, ?_⟩
  have transmitted := (reflection_exactly_once sample ran).2.2.2.2.2
  rwa [one] at transmitted

end Scenario

end AfXdp
