import AfXdp.WireLayout
import AfXdp.ReflectSwap
import Mathlib.Data.Nat.Bitwise

namespace AfXdp

open WireBytes

/-!
# The packet grammar of `reflect_swap`

The structured packets that the reflector is for, as a type of its own, and
that `reflect_swap` accepts exactly their bytes and reverses their endpoints.
-/

/-- A UDP packet over IPv4 without options, in an untagged Ethernet frame. -/
structure UdpPacket where
  dstMac : Octets 6
  srcMac : Octets 6
  tos : UInt8
  id : UInt16
  dontFragment : Bool
  ttl : UInt8
  headerChecksum : UInt16
  srcIp : Octets 4
  dstIp : Octets 4
  srcPort : UInt16
  dstPort : UInt16
  udpChecksum : UInt16
  payload : Bytes
  padding : Bytes

namespace UdpPacket

/-- The UDP length: header and payload. -/
def udpLength (packet : UdpPacket) : Nat :=
  8 + packet.payload.length

/-- The IPv4 total length: both headers and the payload. -/
def totalLength (packet : UdpPacket) : Nat :=
  28 + packet.payload.length

/-- The flags and the fragment offset: `DF` or nothing. -/
def flags (packet : UdpPacket) : UInt16 :=
  if packet.dontFragment then 0x4000 else 0

/-- The UDP header behind the ports, and the payload. -/
def datagram (packet : UdpPacket) : Bytes :=
  be16 (UInt16.ofNat packet.udpLength) ++
    (be16 packet.udpChecksum ++ packet.payload)

/-- The UDP header and the payload. -/
def segment (packet : UdpPacket) : Bytes :=
  be16 packet.srcPort ++ (be16 packet.dstPort ++ packet.datagram)

/-- The IPv4 header up to the addresses. -/
def ipControl (packet : UdpPacket) : Bytes :=
  [0x45, packet.tos] ++
    (be16 (UInt16.ofNat packet.totalLength) ++
      (be16 packet.id ++ (be16 packet.flags ++
        ([packet.ttl, 17] ++ be16 packet.headerChecksum))))

/-- The IPv4 header. -/
def ipHeader (packet : UdpPacket) : Bytes :=
  packet.ipControl ++ (packet.srcIp.bytes ++ packet.dstIp.bytes)

/-- The bytes of the frame. -/
def serialise (packet : UdpPacket) : Bytes :=
  packet.dstMac.bytes ++ (packet.srcMac.bytes ++ (be16 0x0800 ++
    (packet.ipHeader ++ (packet.segment ++ packet.padding))))

/-- The packet with its endpoints exchanged. -/
def reversed (packet : UdpPacket) : UdpPacket :=
  { packet with
    dstMac := packet.srcMac
    srcMac := packet.dstMac
    srcIp := packet.dstIp
    dstIp := packet.srcIp
    srcPort := packet.dstPort
    dstPort := packet.srcPort }

/-- Turning a packet around twice gives the packet. -/
@[simp]
theorem reversed_reversed (packet : UdpPacket) :
    packet.reversed.reversed = packet :=
  rfl

/-- The first twelve bytes of the header. -/
@[simp]
theorem length_ipControl (packet : UdpPacket) :
    packet.ipControl.length = 12 := by
  simp [ipControl]

/-- A header without options. -/
@[simp]
theorem length_ipHeader (packet : UdpPacket) :
    packet.ipHeader.length = 20 := by
  simp [ipHeader]

/-- Eight bytes before the payload. -/
@[simp]
theorem length_segment (packet : UdpPacket) :
    packet.segment.length = 8 + packet.payload.length := by
  simp only [UdpPacket.segment, datagram, List.length_append, length_be16]
  omega

/-- The whole frame, padding included. -/
theorem length_serialise (packet : UdpPacket) :
    packet.serialise.length =
      42 + packet.payload.length + packet.padding.length := by
  simp only [serialise, List.length_append, Octets.sized, length_be16,
    length_ipHeader, length_segment]
  omega

/-- Turning a packet around keeps its length. -/
theorem length_serialise_reversed (packet : UdpPacket) :
    packet.reversed.serialise.length = packet.serialise.length := by
  rw [length_serialise, length_serialise]
  rfl

end UdpPacket

namespace Bench

open UdpPacket

/-! ## The bytes of a packet pass every check -/

section Accepted

variable {front rest : Bytes}
variable {offset : Nat}

/-- A field behind the front is one of the rest. -/
theorem readBe16_append_skip
    (skip : front.length ≤ offset) :
    readBe16 (front ++ rest) offset =
      readBe16 rest (offset - front.length) := by
  rw [readBe16, readBe16, load16_append_skip skip]

/-- A field is read back as it was written. -/
@[simp]
theorem readBe16_be16 (value : UInt16) :
    readBe16 (be16 value ++ rest) 0 = value :=
  byteSwap16_load16_be16 value

/-- The frame says that it is IPv4. -/
theorem readBe16_etherType (packet : UdpPacket) :
    readBe16 packet.serialise 12 = ethPIp := by
  rw [serialise, readBe16_append_skip (by simp),
    readBe16_append_skip (by simp)]
  simp [ethPIp]

/-- Reads behind the Ethernet header are reads of the IPv4 header. -/
theorem readBe16_serialise
    (packet : UdpPacket)
    (behind : 14 ≤ offset) :
    readBe16 packet.serialise offset =
      readBe16 (packet.ipHeader ++ (packet.segment ++ packet.padding))
        (offset - 14) := by
  rw [serialise, readBe16_append_skip (by simp; omega),
    readBe16_append_skip (by simp; omega),
    readBe16_append_skip (by simp; omega)]
  simp only [Octets.sized, length_be16]
  congr 1

/-- Behind the Ethernet header the bytes are those of the IP packet. -/
theorem byteAt_serialise
    (packet : UdpPacket)
    (behind : 14 ≤ offset) :
    byteAt packet.serialise offset =
      byteAt (packet.ipHeader ++ (packet.segment ++ packet.padding))
        (offset - 14) := by
  rw [serialise, byteAt_append_skip (by simp; omega),
    byteAt_append_skip (by simp; omega),
    byteAt_append_skip (by simp; omega)]
  simp only [Octets.sized, length_be16]
  congr 1

/-- Version 4, and five words of header. -/
theorem byteAt_version (packet : UdpPacket) :
    byteAt packet.serialise 14 = 0x45 := by
  rw [byteAt_serialise packet (by decide)]
  rfl

/-- The protocol is UDP. -/
theorem byteAt_protocol (packet : UdpPacket) :
    byteAt packet.serialise 23 = ipprotoUdp := by
  rw [byteAt_serialise packet (by decide)]
  rfl

/-- The total length is that of header and segment. -/
theorem readBe16_totalLength (packet : UdpPacket) :
    readBe16 packet.serialise 16 =
      UInt16.ofNat packet.totalLength := by
  rw [readBe16_serialise packet (by decide), ipHeader,
    List.append_assoc, ipControl, List.append_assoc,
    readBe16_append_skip (by simp)]
  simp

/-- The flags are those of the packet. -/
theorem readBe16_flags (packet : UdpPacket) :
    readBe16 packet.serialise 20 = packet.flags := by
  rw [readBe16_serialise packet (by decide), ipHeader,
    List.append_assoc, ipControl, List.append_assoc,
    readBe16_append_skip (by simp),
    List.append_assoc, readBe16_append_skip (by simp),
    List.append_assoc, readBe16_append_skip (by simp)]
  simp

/-- The length field of the datagram. -/
theorem readBe16_udpLength (packet : UdpPacket) :
    readBe16 packet.serialise 38 =
      UInt16.ofNat packet.udpLength := by
  rw [readBe16_serialise packet (by decide),
    readBe16_append_skip (by simp), UdpPacket.segment,
    List.append_assoc, readBe16_append_skip (by simp),
    List.append_assoc, readBe16_append_skip (by simp)]
  simp [datagram]

/-- A packet is no fragment. -/
theorem flags_masked (packet : UdpPacket) :
    packet.flags &&& 0xbfff = 0 := by
  rw [flags]
  split <;> decide

/-- The bytes of a packet that fits the MTU pass every check. -/
theorem reflectable_serialise
    {packet : UdpPacket}
    (fits : packet.serialise.length ≤ 1514) :
    Reflectable packet.serialise := by
  have length := length_serialise packet
  have total :
      (readBe16 packet.serialise 16).toNat = packet.totalLength := by
    rw [readBe16_totalLength]
    exact UInt16.toNat_ofNat_of_lt'
      (by rw [UInt16.size, totalLength]; omega)
  have udp :
      (readBe16 packet.serialise 38).toNat = packet.udpLength := by
    rw [readBe16_udpLength]
    exact UInt16.toNat_ofNat_of_lt'
      (by rw [UInt16.size, udpLength]; omega)
  exact
    { minimum := by
        rw [length, ethernet, ipv4, Bench.udp]
        omega
      maximum := fits
      etherType := readBe16_etherType packet
      versionIhl := byteAt_version packet
      protocol := byteAt_protocol packet
      unfragmented := by
        rw [readBe16_flags]
        exact flags_masked packet
      ipLengthMin := by
        rw [total, totalLength, ipv4, Bench.udp]
        omega
      ipLengthMax := by
        rw [total, totalLength, length, ethernet]
        omega
      udpLength := by
        rw [total, udp, totalLength, UdpPacket.udpLength, ipv4]
        omega }

end Accepted

/-! ## An accepted frame is the bytes of a packet -/

section Parsed

/-- With every bit but `DF` clear, the value is zero or `DF`. -/
theorem flags_of_masked
    {value : UInt16}
    (masked : value &&& 0xbfff = 0) :
    value = if value = 0x4000 then 0x4000 else 0 := by
  have clear : value.toNat &&& 0xbfff = 0 := by
    simpa using congrArg UInt16.toNat masked
  have all : value.toNat &&& 0xffff = value.toNat := by
    rw [show 0xffff = 2 ^ 16 - 1 from rfl, Nat.and_two_pow_sub_one_eq_mod]
    exact Nat.mod_eq_of_lt value.toNat_lt
  -- The sixteen bits are `DF` and the masked ones.
  have onlyDf : value.toNat &&& 2 ^ 14 = value.toNat := by
    calc
      value.toNat &&& 2 ^ 14 =
          (value.toNat &&& 0xbfff) ||| (value.toNat &&& 2 ^ 14) := by
        rw [clear, Nat.zero_or]
      _ = value.toNat &&& 0xffff := by
        rw [← Nat.and_or_distrib_left]
        rfl
      _ = value.toNat := all
  rw [Nat.and_two_pow] at onlyDf
  split
  · assumption
  · next notDf =>
      apply UInt16.toNat_inj.mp
      rw [← onlyDf]
      cases bit : value.toNat.testBit 14 with
      | false => rfl
      | true =>
          refine absurd (UInt16.toNat_inj.mp ?_) notDf
          rw [← onlyDf, bit]
          rfl

variable {frame : Bytes}

/-- The packet that a long enough frame holds. -/
def packetOf
    (frame : Bytes)
    (long : 42 ≤ frame.length) :
    UdpPacket where
  dstMac := Octets.of frame 0 6 (by omega)
  srcMac := Octets.of frame 6 6 (by omega)
  tos := byteAt frame 15
  id := readBe16 frame 18
  dontFragment := readBe16 frame 20 = 0x4000
  ttl := byteAt frame 22
  headerChecksum := readBe16 frame 24
  srcIp := Octets.of frame 26 4 (by omega)
  dstIp := Octets.of frame 30 4 (by omega)
  srcPort := readBe16 frame 34
  dstPort := readBe16 frame 36
  udpChecksum := readBe16 frame 40
  payload := copyOut frame 42 ((readBe16 frame 16).toNat - 28)
  padding := frame.drop (42 + ((readBe16 frame 16).toNat - 28))

/-- Two bytes are a field. -/
theorem copyOut_eq_be16
    {offset : Nat}
    (fits : offset + 2 ≤ frame.length) :
    copyOut frame offset 2 = be16 (readBe16 frame offset) :=
  copyOut_two fits

/-- Two bytes and what is behind them. -/
theorem cut_bytes
    (offset : Nat)
    (fits : offset + 2 ≤ frame.length) :
    frame.drop offset =
      [byteAt frame offset, byteAt frame (offset + 1)] ++
        frame.drop (offset + 2) := by
  rw [drop_eq_copyOut_append frame offset 1,
    drop_eq_copyOut_append frame (offset + 1) 1,
    copyOut_one (by omega), copyOut_one (by omega)]
  rfl

/-- A field and what is behind it. -/
theorem cut_be16
    (offset : Nat)
    (fits : offset + 2 ≤ frame.length) :
    frame.drop offset =
      be16 (readBe16 frame offset) ++ frame.drop (offset + 2) := by
  rw [drop_eq_copyOut_append frame offset 2, copyOut_eq_be16 fits]

/-- An accepted frame is the bytes of the packet it holds. -/
theorem serialise_packetOf
    (accepted : Reflectable frame)
    (long : 42 ≤ frame.length) :
    (packetOf frame long).serialise = frame := by
  have minimum := accepted.ipLengthMin
  have maximum := accepted.ipLengthMax
  have udp := accepted.udpLength
  have flags := flags_of_masked accepted.unfragmented
  simp only [ethernet, ipv4, Bench.udp] at minimum maximum udp
  have payload :
      (packetOf frame long).payload.length =
        (readBe16 frame 16).toNat - 28 :=
    length_copyOut (by omega)
  have total :
      UInt16.ofNat (packetOf frame long).totalLength =
        readBe16 frame 16 := by
    apply UInt16.toNat_inj.mp
    have bound := (readBe16 frame 16).toNat_lt
    rw [UInt16.toNat_ofNat', totalLength, payload]
    omega
  have segment :
      UInt16.ofNat (packetOf frame long).udpLength =
        readBe16 frame 38 := by
    apply UInt16.toNat_inj.mp
    have bound := (readBe16 frame 38).toNat_lt
    rw [UInt16.toNat_ofNat', UdpPacket.udpLength, payload]
    omega
  have df : (packetOf frame long).flags = readBe16 frame 20 := by
    rw [UdpPacket.flags, packetOf]
    simp only [decide_eq_true_eq]
    exact flags.symm
  symm
  calc
    frame = frame.drop 0 := rfl
    _ = (packetOf frame long).serialise := by
      rw [drop_eq_copyOut_append frame 0 6,
        drop_eq_copyOut_append frame (0 + 6) 6,
        cut_be16 12 (by omega),
        cut_bytes 14 (by omega),
        cut_be16 16 (by omega),
        cut_be16 18 (by omega),
        cut_be16 20 (by omega),
        cut_bytes 22 (by omega),
        cut_be16 24 (by omega),
        drop_eq_copyOut_append frame 26 4,
        drop_eq_copyOut_append frame 30 4,
        cut_be16 34 (by omega),
        cut_be16 36 (by omega),
        cut_be16 38 (by omega),
        cut_be16 40 (by omega),
        drop_eq_copyOut_append frame 42
          ((readBe16 frame 16).toNat - 28),
        accepted.etherType, accepted.versionIhl, accepted.protocol,
        serialise, ipHeader, ipControl, UdpPacket.segment, datagram,
        total, segment, df]
      simp only [List.append_assoc]
      rfl

end Parsed

/-! ## The exchanged bytes are those of the reversed packet -/

section Exchanged

variable {front first middle second rest : Bytes}
variable {start next length : Nat}

/-- Writing over a field replaces it. -/
theorem copyIn_append
    {field data : Bytes}
    (atField : start = front.length)
    (sized : data.length = field.length) :
    copyIn (front ++ (field ++ rest)) start data =
      front ++ (data ++ rest) := by
  rw [copyIn, atField, sized, List.take_left, List.append_assoc,
    ← List.drop_drop, List.drop_left, List.drop_left]

/-- Two fields of one length change places. -/
theorem exchange_append
    (atFirst : start = front.length)
    (atSecond : next = front.length + length + middle.length)
    (firstSized : first.length = length)
    (secondSized : second.length = length) :
    exchange (front ++ (first ++ (middle ++ (second ++ rest))))
        start next length =
      front ++ (second ++ (middle ++ (first ++ rest))) := by
  have firstOut :
      copyOut (front ++ (first ++ (middle ++ (second ++ rest))))
          start length = first := by
    rw [copyOut_append_skip (by omega), atFirst, Nat.sub_self]
    exact copyOut_append_front firstSized
  have secondOut :
      copyOut (front ++ (first ++ (middle ++ (second ++ rest))))
          next length = second := by
    rw [copyOut_append_skip (by omega), copyOut_append_skip (by omega),
      copyOut_append_skip (by omega)]
    have atStart :
        next - front.length - first.length - middle.length = 0 := by
      omega
    rw [atStart]
    exact copyOut_append_front secondSized
  have behind :
      next = (front ++ (second ++ middle)).length := by
    simp only [List.length_append]
    omega
  have written :=
    @copyIn_append (front ++ (second ++ middle)) rest next second first
      behind (firstSized.trans secondSized.symm)
  rw [exchange, firstOut, secondOut,
    copyIn_append atFirst (by omega)]
  simpa only [List.append_assoc] using written

/-- The copies of `reflect_swap` reverse the packet. -/
theorem swapEndpoints_serialise (packet : UdpPacket) :
    swapEndpoints packet.serialise = packet.reversed.serialise := by
  have macs :=
    @exchange_append [] packet.dstMac.bytes [] packet.srcMac.bytes
      (be16 0x0800 ++
        (packet.ipHeader ++ (packet.segment ++ packet.padding)))
      0 6 6 rfl rfl packet.dstMac.sized packet.srcMac.sized
  have addresses :=
    @exchange_append
      (packet.srcMac.bytes ++ (packet.dstMac.bytes ++
        (be16 0x0800 ++ packet.ipControl)))
      packet.srcIp.bytes [] packet.dstIp.bytes
      (packet.segment ++ packet.padding) 26 30 4
      (by simp) (by simp) packet.srcIp.sized packet.dstIp.sized
  have ports :=
    @exchange_append
      (packet.srcMac.bytes ++ (packet.dstMac.bytes ++
        (be16 0x0800 ++ (packet.ipControl ++
          (packet.dstIp.bytes ++ packet.srcIp.bytes)))))
      (be16 packet.srcPort) [] (be16 packet.dstPort)
      (packet.datagram ++ packet.padding) 34 36 2
      (by simp) (by simp) (length_be16 _) (length_be16 _)
  simp only [List.nil_append, List.append_assoc, ipHeader,
    UdpPacket.segment] at macs addresses ports
  simp only [swapEndpoints, serialise, ipHeader, UdpPacket.segment,
    List.append_assoc]
  rw [macs, addresses, ports]
  rfl

end Exchanged

/-! ## The grammar -/

/-- The accepted frames are the bytes of packets within the MTU. -/
theorem reflectable_iff_serialise (frame : Bytes) :
    Reflectable frame ↔
      ∃ packet : UdpPacket,
        frame = packet.serialise ∧ frame.length ≤ 1514 := by
  constructor
  · intro accepted
    have long : 42 ≤ frame.length := accepted.minimum
    exact
      ⟨packetOf frame long,
        (serialise_packetOf accepted long).symm,
        accepted.maximum⟩
  · rintro ⟨packet, rfl, fits⟩
    exact reflectable_serialise fits

/-- On the bytes of a packet within the MTU, the endpoints are reversed. -/
theorem reflectSwap_serialise
    {packet : UdpPacket}
    (fits : packet.serialise.length ≤ 1514) :
    reflectSwap packet.serialise =
      (true, packet.reversed.serialise) := by
  have accepted := reflectable_serialise fits
  rcases reflectSwap_cases packet.serialise with
    ⟨_, swapped⟩ | ⟨rejected, _⟩
  · rw [swapped, swapEndpoints_serialise]
  · exact absurd accepted rejected

/-- `reflect_swap` accepts exactly the bytes of structured packets within the
MTU, turns them into the bytes of the reversed packet, and leaves every other
byte span alone; a second application restores an accepted frame. -/
theorem reflectSwap_reverses_grammar (frame : Bytes) :
    ((reflectSwap frame).1 = true ↔
        ∃ packet : UdpPacket,
          frame = packet.serialise ∧ frame.length ≤ 1514) ∧
      (∀ packet : UdpPacket,
        frame = packet.serialise →
        frame.length ≤ 1514 →
          (reflectSwap frame).2 = packet.reversed.serialise ∧
            packet.reversed.serialise.length = frame.length) ∧
      ((reflectSwap frame).1 = false → (reflectSwap frame).2 = frame) ∧
      ((reflectSwap frame).1 = true →
        reflectSwap (reflectSwap frame).2 = (true, frame)) := by
  refine ⟨?_, ?_, ?_, ?_⟩
  · rw [reflectSwap_accepts_iff, reflectable_iff_serialise]
  · rintro packet rfl fits
    rw [reflectSwap_serialise fits]
    exact ⟨rfl, packet.length_serialise_reversed⟩
  · intro rejects
    rcases reflectSwap_cases frame with ⟨_, swapped⟩ | ⟨_, same⟩
    · rw [swapped] at rejects
      cases rejects
    · rw [same]
  · intro accepts
    have grammatical :=
      (reflectable_iff_serialise frame).mp
        ((reflectSwap_accepts_iff frame).mp accepts)
    obtain ⟨packet, rfl, fits⟩ := grammatical
    have reversedFits : packet.reversed.serialise.length ≤ 1514 := by
      rw [packet.length_serialise_reversed]
      exact fits
    rw [reflectSwap_serialise fits, reflectSwap_serialise reversedFits,
      UdpPacket.reversed_reversed]

/-- A datagram of one byte with valid checksums and one byte of padding. -/
def samplePacket : UdpPacket where
  dstMac := ⟨[0x02, 0, 0, 0, 0, 0x01], rfl⟩
  srcMac := ⟨[0x02, 0, 0, 0, 0, 0x02], rfl⟩
  tos := 0
  id := 7
  dontFragment := true
  ttl := 64
  headerChecksum := 0xb6c5
  srcIp := ⟨[192, 0, 2, 1], rfl⟩
  dstIp := ⟨[192, 0, 2, 2], rfl⟩
  srcPort := 4000
  dstPort := 9000
  udpChecksum := 0x9e0f
  payload := [0xab]
  padding := [0]

/-- There and back, and a frame that is cut short. -/
theorem reflectSwap_reverses_sample :
    reflectSwap samplePacket.serialise =
        (true, samplePacket.reversed.serialise) ∧
      reflectSwap samplePacket.reversed.serialise =
        (true, samplePacket.serialise) ∧
      reflectSwap (samplePacket.serialise.take 41) =
        (false, samplePacket.serialise.take 41) := by
  obtain ⟨accepts, output, _, twice⟩ :=
    reflectSwap_reverses_grammar samplePacket.serialise
  obtain ⟨_, _, unchanged, _⟩ :=
    reflectSwap_reverses_grammar (samplePacket.serialise.take 41)
  have accepted :=
    accepts.mpr ⟨samplePacket, rfl, by decide⟩
  have swapped := (output samplePacket rfl (by decide)).1
  have short :
      (reflectSwap (samplePacket.serialise.take 41)).1 = false := by
    decide
  refine ⟨Prod.ext accepted swapped, ?_, Prod.ext short (unchanged short)⟩
  rw [← swapped]
  exact twice accepted

end Bench

end AfXdp
