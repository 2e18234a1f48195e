import AfXdp.ReceiverRuns

namespace AfXdp

open Interleaving
open SequenceIndex

/-!
# What the callback did, packet by packet

The packets handed to the callback, its verdicts and the descriptors it had
sent tell one story in every reachable state: each packet was decided by the
callback's own rule from the bytes it came with, and exactly the accepted ones
were sent, in order, with the bytes the rule left.
-/

/-- What the story is about; `published` counts the visible descriptors. -/
structure Story where
  handed : List Packet
  verdicts : List Verdict
  current : Option InFlight
  sendLog : List Packet
  published : Nat

/-- What the state says about the packets so far. -/
def World.story (world : World) : Story where
  handed := world.aux.handed
  verdicts := world.aux.verdicts
  current := world.aux.current
  sendLog := world.aux.sendLog
  published := world.tx.log.length

/-- What the packet's span holds after the callback wrote `output` to it. -/
def Packet.leaves (packet : Packet) (output : List UInt8) : List UInt8 :=
  output.take packet.1.len.toNat ++
    packet.2.drop (output.take packet.1.len.toNat).length

/-- The descriptor that `send_in_place` writes for a packet. -/
def Packet.resent (packet : Packet) (output : List UInt8) : Packet :=
  ({ addr := packet.1.addr, len := packet.1.len, options := 0 }, output)

/-- A verdict that follows from the callback's decision. -/
structure Verdict.Follows
    (verdict : Verdict)
    (packet : Packet)
    (decision : Bool × List UInt8) : Prop where
  accepted :
    verdict.accepted = decision.1
  output :
    verdict.output = packet.leaves decision.2
  sent :
    verdict.sent = true →
    verdict.accepted = true

/-- What the callback is about to do follows from its decision. -/
def InFlight.Follows
    (inFlight : InFlight)
    (decision : Bool × List UInt8) : Prop :=
  match inFlight.progress with
  | .taken =>
      True
  | .opened =>
      True
  | .decided accepted output =>
      accepted = decision.1 ∧
        output = inFlight.packet.leaves decision.2
  | .offered output _ =>
      decision.1 = true ∧
        output = inFlight.packet.leaves decision.2

/-- The descriptor of the packet in flight, once it was sent. -/
def InFlight.sent (inFlight : InFlight) : List Packet :=
  match inFlight.progress with
  | .offered output true =>
      [inFlight.packet.resent output]
  | _ =>
      []

/-- The accepted packets as they were sent, in order. -/
def reflected (settled : List (Packet × Verdict)) : List Packet :=
  settled.filterMap fun entry =>
    if entry.2.sent then
      some (entry.1.resent entry.2.output)
    else
      none

/-- What was reflected first was reflected first. -/
theorem reflected_append (first second : List (Packet × Verdict)) :
    reflected (first ++ second) =
      reflected first ++ reflected second :=
  List.filterMap_append

/-- The story, told from the packets that are settled. -/
structure Tells
    (rewrite : Rewrite)
    (settled : List (Packet × Verdict))
    (story : Story) : Prop where
  handed :
    story.handed =
      settled.map Prod.fst ++
        story.current.toList.map InFlight.packet
  verdicts :
    story.verdicts = settled.map Prod.snd
  sends :
    story.sendLog =
      reflected settled ++ story.current.toList.flatMap InFlight.sent
  published :
    story.published ≤ (reflected settled).length
  follows :
    ∀ (index : Nat) (packet : Packet) (verdict : Verdict),
      settled[index]? = some (packet, verdict) →
      verdict.Follows packet
        (rewrite ((settled.take (index + 1)).map Prod.fst) packet.2)
  deciding :
    ∀ inFlight,
      story.current = some inFlight →
      inFlight.Follows (rewrite story.handed inFlight.packet.2)

namespace Tells

variable {rewrite : Rewrite}
variable {settled : List (Packet × Verdict)}
variable {story : Story}

/-- The settled packets are those that have a verdict. -/
theorem settled_eq (tells : Tells rewrite settled story) :
    story.handed.zip story.verdicts = settled := by
  have lengths :
      (settled.map Prod.fst).length =
        (settled.map Prod.snd).length := by
    rw [List.length_map, List.length_map]
  have pairs :
      settled = (settled.map Prod.fst).zip (settled.map Prod.snd) :=
    List.zip_of_prod rfl rfl
  rw [tells.handed, tells.verdicts,
    ← List.append_nil (settled.map Prod.snd),
    List.zip_append lengths, ← pairs, List.zip_nil_right,
    List.append_nil]

/-- Between two callbacks every packet handed out is settled. -/
theorem handed_between
    (tells : Tells rewrite settled story)
    (between : story.current = none) :
    story.handed = settled.map Prod.fst := by
  rw [tells.handed, between]
  simp

/-- Between callbacks all that was accepted was sent. -/
theorem sends_between
    (tells : Tells rewrite settled story)
    (between : story.current = none) :
    story.sendLog = reflected settled := by
  rw [tells.sends, between]
  simp

/-- Only accepted packets are sent. -/
theorem sent_accepted
    (tells : Tells rewrite settled story)
    (verdict : Verdict)
    (member : verdict ∈ story.verdicts)
    (sent : verdict.sent = true) :
    verdict.accepted = true := by
  rw [tells.verdicts] at member
  obtain ⟨entry, inSettled, rfl⟩ := List.mem_map.mp member
  obtain ⟨index, inRange, found⟩ :=
    List.mem_iff_getElem.mp inSettled
  have follows :=
    tells.follows index entry.1 entry.2
      (List.getElem?_eq_some_iff.mpr ⟨inRange, found⟩)
  exact follows.sent sent

/-- The next packet is handed out. -/
theorem handOut
    (tells : Tells rewrite settled story)
    (between : story.current = none)
    (packet : Packet) :
    Tells rewrite settled
      { story with
        handed := story.handed ++ [packet]
        current :=
          some { packet := packet, progress := .taken } } where
  handed := by
    rw [tells.handed, between]
    simp
  verdicts := tells.verdicts
  sends := by
    rw [tells.sends, between]
    rfl
  published := tells.published
  follows := tells.follows
  deciding := by
    rintro inFlight current
    cases current
    trivial

/-- The callback gets further with its packet and may send it. -/
theorem advance
    (tells : Tells rewrite settled story)
    {packet : Packet}
    {before : Progress}
    (after : Progress)
    (current :
      story.current =
        some { packet := packet, progress := before })
    (unsent :
      InFlight.sent { packet := packet, progress := before } = [])
    (follows :
      InFlight.Follows { packet := packet, progress := after }
        (rewrite story.handed packet.2)) :
    Tells rewrite settled
      { story with
        current := some { packet := packet, progress := after }
        sendLog :=
          story.sendLog ++
            InFlight.sent
              { packet := packet, progress := after } } where
  handed := by
    rw [tells.handed, current]
    rfl
  verdicts := tells.verdicts
  sends := by
    rw [tells.sends, current]
    simp [unsent]
  published := tells.published
  follows := tells.follows
  deciding := by
    rintro inFlight same
    cases same
    exact follows

/-- Everything sent becomes visible, between two callbacks. -/
theorem publish
    (tells : Tells rewrite settled story)
    (between : story.current = none) :
    Tells rewrite settled
      { story with published := story.sendLog.length } :=
  { tells with
    published := by
      rw [tells.sends_between between] }

/-- The callback is finished with its packet. -/
theorem settle
    (tells : Tells rewrite settled story)
    {packet : Packet}
    {progress : Progress}
    {verdict : Verdict}
    (current :
      story.current =
        some { packet := packet, progress := progress })
    (sent :
      InFlight.sent { packet := packet, progress := progress } =
        reflected [(packet, verdict)])
    (follows :
      verdict.Follows packet (rewrite story.handed packet.2)) :
    Tells rewrite (settled ++ [(packet, verdict)])
      { story with
        verdicts := story.verdicts ++ [verdict]
        current := none } where
  handed := by
    rw [tells.handed, current]
    simp
  verdicts := by
    rw [tells.verdicts]
    simp
  sends := by
    rw [tells.sends, current, reflected_append, ← sent]
    simp
  published := by
    rw [reflected_append, List.length_append]
    exact Nat.le_add_right_of_le tells.published
  follows := by
    intro index other decided found
    by_cases isOld : index < settled.length
    · rw [List.getElem?_append_left isOld] at found
      rw [List.take_append_of_le_length isOld]
      exact tells.follows index other decided found
    · rw [List.getElem?_append_right (by omega),
        List.getElem?_singleton] at found
      have isNew : index = settled.length := by
        by_contra beyond
        rw [if_neg (by omega)] at found
        cases found
      rw [if_pos (by omega)] at found
      cases found
      have whole :
          ((settled ++ [(packet, verdict)]).take
            (index + 1)).map Prod.fst = story.handed := by
        rw [List.take_of_length_le (by simp; omega), tells.handed,
          current]
        simp
      rw [whole]
      exact follows
  deciding := nofun

end Tells

/-- The story of a reachable state. -/
def History (rewrite : Rewrite) (world : World) : Prop :=
  ∃ settled, Tells rewrite settled world.story

namespace History

variable {config : Config}
variable {rewrite : Rewrite}
variable {world : World}

/-- The packet in work was refused. -/
theorem rejectFrame
    {desc : XdpDesc}
    (history : History rewrite world)
    (offering :
      Offering false world.aux.current world.aux.hand desc) :
    History rewrite (Transmitter.rejectFrame world) := by
  obtain ⟨settled, tells⟩ := history
  obtain ⟨packet, output, current, _, _⟩ := offering
  obtain ⟨accepts, leaves⟩ := tells.deciding _ current
  have next :=
    tells.advance (.offered output false) current rfl
      ⟨accepts.symm, leaves⟩
  refine ⟨settled, ?_⟩
  have story :
      (Transmitter.rejectFrame world).story =
        { world.story with
          current :=
            some
              { packet := packet
                progress := .offered output false } } := by
    simp only [World.story, Transmitter.rejectFrame, World.progress,
      current, Option.map_some, Progress.offer]
  rw [story]
  simpa [InFlight.sent] using next

/-- The packet in work was sent. -/
theorem stage
    {packet : Packet}
    (history : History rewrite world)
    (core : Core config world)
    (offering :
      Offering false world.aux.current world.aux.hand packet.1) :
    History rewrite
      (Transmitter.stage packet.1.addr packet.1.len world) := by
  obtain ⟨settled, tells⟩ := history
  obtain ⟨offered, output, current, hand, same⟩ := offering
  obtain ⟨accepts, leaves⟩ := tells.deciding _ current
  have next :=
    tells.advance (.offered output true) current rfl
      ⟨accepts.symm, leaves⟩
  have bytes : packet.1.bytes world.memory = output := by
    rw [← same]
    exact core.intact (offered.1, output) (by simp [hand])
  refine ⟨settled, ?_⟩
  have story :
      (Transmitter.stage packet.1.addr packet.1.len world).story =
        { world.story with
          current :=
            some
              { packet := offered
                progress := .offered output true }
          sendLog :=
            world.story.sendLog ++ [offered.resent output] } := by
    simp only [World.story, Transmitter.stage, World.leaveHand,
      World.progress, current, Option.map_some, Progress.offer,
      Packet.resent, ← bytes, same]
    rfl
  rw [story]
  exact next

/-- The callback opens its packet. -/
theorem openPacket
    {packet : Packet}
    (history : History rewrite world)
    (current :
      world.aux.current =
        some { packet := packet, progress := .taken }) :
    History rewrite
      (Main.openPacket
        { addr := packet.1.addr, len := packet.1.len } world).2 := by
  obtain ⟨settled, tells⟩ := history
  have next := tells.advance .opened current rfl trivial
  refine ⟨settled, ?_⟩
  have story :
      (Main.openPacket
          { addr := packet.1.addr, len := packet.1.len }
          world).2.story =
        { world.story with
          current :=
            some { packet := packet, progress := .opened } } := by
    simp only [World.story, Main.openPacket, World.progress, current,
      Option.map_some]
  rw [story]
  simpa [InFlight.sent] using next

/-- The callback has rewritten its packet, or not. -/
theorem rewritePacket
    {packet : Packet}
    (history : History rewrite world)
    (core : Core config world)
    (current :
      world.aux.current =
        some { packet := packet, progress := .opened })
    (alone : world.aux.hand = [packet]) :
    History rewrite
      (Main.rewritePacket
        { addr := packet.1.addr, len := packet.1.len }
        (rewrite world.aux.handed packet.2).1
        (rewrite world.aux.handed packet.2).2 world) := by
  obtain ⟨settled, tells⟩ := history
  have bytes : packet.1.bytes world.memory = packet.2 :=
    core.intact packet (by simp [alone])
  have left :
      (world.memory.overwrite packet.1.addr.toNat
          ((rewrite world.aux.handed packet.2).2.take
            packet.1.len.toNat)).span
          packet.1.addr.toNat packet.1.len.toNat =
        packet.leaves (rewrite world.aux.handed packet.2).2 := by
    rw [Memory.span_overwrite_start _ _ (List.length_take_le _ _),
      Packet.leaves]
    congr 2
  have next :=
    tells.advance
      (.decided (rewrite world.aux.handed packet.2).1
        (packet.leaves (rewrite world.aux.handed packet.2).2))
      current rfl ⟨rfl, rfl⟩
  refine ⟨settled, ?_⟩
  have story :
      (Main.rewritePacket
          { addr := packet.1.addr, len := packet.1.len }
          (rewrite world.aux.handed packet.2).1
          (rewrite world.aux.handed packet.2).2 world).story =
        { world.story with
          current :=
            some
              { packet := packet
                progress :=
                  .decided (rewrite world.aux.handed packet.2).1
                    (packet.leaves
                      (rewrite world.aux.handed packet.2).2) } } := by
    simp only [World.story, Main.rewritePacket, World.progress,
      current, Option.map_some, left]
  rw [story]
  simpa [InFlight.sent] using next

/-- Between callbacks the publication sends what was accepted. -/
theorem publishStaged
    (history : History rewrite world)
    (core : Core config world)
    (between : world.aux.current = none) :
    History rewrite (Transmitter.publishStaged world) := by
  obtain ⟨settled, tells⟩ := history
  refine ⟨settled, ?_⟩
  have published := core.txWindow.publish_length core.tx
  refine Transmitter.publishStaged_branches ?_ ?_
  · intro _
    have next := tells.publish between
    rw [World.story, ← published] at next
    exact next
  · intro _
    exact tells

/-- The callback is over, and its verdict is known. -/
theorem settle
    {packet : Packet}
    {output : List UInt8}
    {accepted transferred : Bool}
    (history : History rewrite world)
    (current :
      world.aux.current =
        some
          { packet := packet
            progress :=
              if accepted then
                .offered output transferred
              else
                .decided false output })
    (offered : accepted = false → transferred = false) :
    History rewrite (Main.settle accepted transferred world) := by
  obtain ⟨settled, tells⟩ := history
  let verdict : Verdict :=
    { accepted := accepted, output := output, sent := transferred }
  have story :
      (Main.settle accepted transferred world).story =
        { world.story with
          verdicts := world.story.verdicts ++ [verdict]
          current := none } := by
    simp only [World.story, Main.settle, current, Option.map_some,
      Option.getD_some, verdict]
    cases accepted <;> rfl
  have follows := tells.deciding _ current
  refine ⟨settled ++ [(packet, verdict)], ?_⟩
  rw [story]
  refine tells.settle current ?_ ?_
  · cases accepted with
    | false =>
        have unsent := offered rfl
        subst unsent
        rfl
    | true =>
        cases transferred <;> rfl
  · cases accepted with
    | false =>
        exact ⟨follows.1, follows.2, fun sent => by
          have unsent := offered rfl
          simp [verdict, unsent] at sent⟩
    | true =>
        exact ⟨follows.1.symm, follows.2, fun _ => rfl⟩

/-- Every step of the worker continues the story. -/
theorem workerStep
    {before after : World}
    (history : History rewrite before)
    (core : Core config before)
    (step : WorkerStep config rewrite false before after) :
    History rewrite after := by
  cases step with
  | rejectFrame offering =>
      exact history.rejectFrame offering
  | stage _ _ _ offering =>
      exact history.stage core offering
  | rewritePacket current alone =>
      exact history.rewritePacket core current alone
  | settle current offered =>
      exact history.settle current offered
  | takeDesc _ _ isDirect =>
      cases isDirect
  | handOut next inWindow between =>
      obtain ⟨settled, tells⟩ := history
      exact ⟨settled, tells.handOut between _⟩
  | openPacket current =>
      exact history.openPacket current
  | fillPush =>
      exact Xsk.fillPush_branches history fun _ _ => history
  | reserve =>
      exact Transmitter.reserve_branches history history
  | refresh =>
      exact Transmitter.refresh_branches history history
  | publishStaged _ between =>
      exact history.publishStaged core between
  | _ =>
      exact history

/-- At the start nothing has happened. -/
theorem initial
    (memory : Memory)
    (sendto recvfrom : Nat → Option Errno) :
    History rewrite
      (World.initial config memory sendto recvfrom) :=
  ⟨[],
    { handed := rfl
      verdicts := rfl
      sends := rfl
      published := Nat.le_refl 0
      follows := by
        intro index packet verdict found
        simp at found
      deciding := nofun }⟩

/-- The kernel has no part in the story. -/
theorem kernelStep
    {admits : List UInt8 → Bool}
    {step : KernelStep}
    {before after : World}
    (history : History rewrite before)
    (performed :
      step.perform config admits before = some after) :
    History rewrite after := by
  obtain ⟨_, rfl⟩ := KernelStep.perform_eq_some.mp performed
  cases step <;> exact history

end History

/-- The story holds in every reachable state. -/
theorem Scenario.reaches_history
    {scenario : Scenario}
    {events : List (Event WorkerCall KernelStep)}
    {final : Configuration World}
    (reaches : scenario.Reaches events final) :
    History scenario.rewrite final.state :=
  reaches_invariant
    (.initial _ _ _)
    (fun _ performed history => history.kernelStep performed)
    (fun core step history => history.workerStep core step)
    reaches

end AfXdp
