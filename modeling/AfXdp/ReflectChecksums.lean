import AfXdp.OnesComplement
import AfXdp.ReflectGrammar

namespace AfXdp

open WireBytes
open OnesComplement

namespace Bench

/-!
# Reflection keeps both checksums

`reflect_swap` recomputes no checksum: the exchanged fields are whole 16-bit
addends of the two sums, so both stay as they are.
-/

/-- The bytes 14..33 of a frame. -/
def ipv4HeaderBytes (frame : Bytes) : Bytes :=
  copyOut frame ethernet ipv4

/-- Source, destination, zero and protocol, UDP length. -/
def pseudoHeader (frame : Bytes) : Bytes :=
  copyOut frame 26 4 ++ (copyOut frame 30 4 ++
    ([0, byteAt frame 23] ++ copyOut frame 38 2))

/-- The UDP header and payload, up to the IPv4 total length. -/
def udpSegment (frame : Bytes) : Bytes :=
  copyOut frame (ethernet + ipv4) ((readBe16 frame 16).toNat - ipv4)

/-- What the UDP checksum covers. -/
def udpCovered (frame : Bytes) : Bytes :=
  pseudoHeader frame ++ udpSegment frame

/-- The checksum field of the UDP header. -/
def udpChecksumField (frame : Bytes) : UInt16 :=
  readBe16 frame 40

/-! ## The covered bytes of a packet -/

section Covered

variable {packet : UdpPacket}

/-- Behind the Ethernet header the bytes are those of the IP packet. -/
theorem copyOut_serialise
    (packet : UdpPacket)
    {offset length : Nat}
    (behind : 14 ≤ offset) :
    copyOut packet.serialise offset length =
      copyOut
        (packet.ipHeader ++ (packet.segment ++ packet.padding))
        (offset - 14) length := by
  rw [UdpPacket.serialise, copyOut_append_skip (by simp; omega),
    copyOut_append_skip (by simp; omega),
    copyOut_append_skip (by simp; omega)]
  simp only [Octets.sized, length_be16]
  congr 1

/-- The header of the frame is the header of the packet. -/
theorem ipv4HeaderBytes_serialise (packet : UdpPacket) :
    ipv4HeaderBytes packet.serialise = packet.ipHeader := by
  rw [ipv4HeaderBytes, ethernet, ipv4,
    copyOut_serialise packet (by decide)]
  exact copyOut_append_front packet.length_ipHeader

/-- The source address is where the header has it. -/
theorem sourceIp_serialise (packet : UdpPacket) :
    copyOut packet.serialise 26 4 = packet.srcIp.bytes := by
  rw [copyOut_serialise packet (by decide), UdpPacket.ipHeader,
    List.append_assoc, copyOut_append_skip (by simp), List.append_assoc,
    packet.length_ipControl]
  exact copyOut_append_front packet.srcIp.sized

/-- So is the destination address. -/
theorem destinationIp_serialise (packet : UdpPacket) :
    copyOut packet.serialise 30 4 = packet.dstIp.bytes := by
  rw [copyOut_serialise packet (by decide), UdpPacket.ipHeader,
    List.append_assoc, copyOut_append_skip (by simp), List.append_assoc,
    copyOut_append_skip (by simp), packet.length_ipControl,
    packet.srcIp.sized]
  exact copyOut_append_front packet.dstIp.sized

/-- The length field of the datagram. -/
theorem udpLength_serialise (packet : UdpPacket) :
    copyOut packet.serialise 38 2 =
      be16 (UInt16.ofNat packet.udpLength) := by
  have length := packet.length_serialise
  rw [copyOut_eq_be16 (by omega), readBe16_udpLength]

/-- The pseudo header is made of fields of the packet. -/
theorem pseudoHeader_serialise (packet : UdpPacket) :
    pseudoHeader packet.serialise =
      packet.srcIp.bytes ++ (packet.dstIp.bytes ++
        ([0, ipprotoUdp] ++ be16 (UInt16.ofNat packet.udpLength))) := by
  rw [pseudoHeader, sourceIp_serialise, destinationIp_serialise,
    udpLength_serialise, byteAt_protocol]

/-- A frame within the MTU has a segment as long as its length field says. -/
theorem udpSegment_serialise
    (fits : packet.serialise.length ≤ 1514) :
    udpSegment packet.serialise = packet.segment := by
  have length := packet.length_serialise
  have total :
      (readBe16 packet.serialise 16).toNat = packet.totalLength := by
    rw [readBe16_totalLength]
    exact UInt16.toNat_ofNat_of_lt'
      (by rw [UInt16.size, UdpPacket.totalLength]; omega)
  have segment : packet.segment.length = packet.totalLength - 20 := by
    rw [packet.length_segment, UdpPacket.totalLength]
    omega
  rw [udpSegment, ethernet, ipv4, total,
    copyOut_serialise packet (by decide),
    copyOut_append_skip (by simp), packet.length_ipHeader]
  exact copyOut_append_front segment

end Covered

/-! ## Both sums are kept -/

section Sums

variable {packet : UdpPacket}

/-- Exchanging two addresses permutes the words of the sum. -/
theorem sum_ipHeader_reversed (packet : UdpPacket) :
    sum packet.reversed.ipHeader = sum packet.ipHeader := by
  have permuted :=
    @words_exchange_perm packet.srcIp.bytes packet.dstIp.bytes
      packet.ipControl [] (by simp; decide) (by simp; decide)
      (by simp; decide)
  rw [List.append_nil, List.append_nil] at permuted
  exact sum_eq_of_perm permuted

/-- The addends of the UDP sum trade places: first the addresses, then the
ports behind them. -/
theorem sum_udpCovered_reversed
    (fits : packet.serialise.length ≤ 1514) :
    sum (udpCovered packet.reversed.serialise) =
      sum (udpCovered packet.serialise) := by
  have reversedFits : packet.reversed.serialise.length ≤ 1514 := by
    rw [packet.length_serialise_reversed]
    exact fits
  have addresses :=
    @words_exchange_perm packet.srcIp.bytes packet.dstIp.bytes []
      ([0, ipprotoUdp] ++ (be16 (UInt16.ofNat packet.udpLength) ++
        (be16 packet.dstPort ++ (be16 packet.srcPort ++
          packet.datagram))))
      (by decide) (by simp; decide) (by simp; decide)
  have ports :=
    @words_exchange_perm (be16 packet.srcPort) (be16 packet.dstPort)
      (packet.srcIp.bytes ++ (packet.dstIp.bytes ++
        ([0, ipprotoUdp] ++ be16 (UInt16.ofNat packet.udpLength))))
      packet.datagram (by simp; decide) (by simp) (by simp)
  simp only [List.nil_append, List.append_assoc] at addresses ports
  rw [udpCovered, udpCovered, pseudoHeader_serialise,
    pseudoHeader_serialise, udpSegment_serialise fits,
    udpSegment_serialise reversedFits, UdpPacket.segment,
    UdpPacket.segment]
  simp only [List.append_assoc]
  exact sum_eq_of_perm (addresses.trans ports)

/-- The checksum field of the datagram. -/
theorem readBe16_udpChecksum (packet : UdpPacket) :
    readBe16 packet.serialise 40 = packet.udpChecksum := by
  rw [readBe16_serialise packet (by decide),
    readBe16_append_skip (by simp), UdpPacket.segment,
    List.append_assoc, readBe16_append_skip (by simp),
    List.append_assoc, readBe16_append_skip (by simp),
    UdpPacket.datagram, List.append_assoc,
    readBe16_append_skip (by simp)]
  simp

end Sums

/-- For every accepted frame both one's-complement sums are the same before
and after reflection, so either checksum verifies after it exactly if it did
before, and an absent UDP checksum stays absent. -/
theorem checksums_preserved
    (frame : Bytes)
    (accepts : (reflectSwap frame).1 = true) :
    sum (ipv4HeaderBytes (reflectSwap frame).2) =
        sum (ipv4HeaderBytes frame) ∧
      sum (udpCovered (reflectSwap frame).2) =
        sum (udpCovered frame) ∧
      (Verifies (ipv4HeaderBytes (reflectSwap frame).2) ↔
        Verifies (ipv4HeaderBytes frame)) ∧
      (Verifies (udpCovered (reflectSwap frame).2) ↔
        Verifies (udpCovered frame)) ∧
      udpChecksumField (reflectSwap frame).2 =
        udpChecksumField frame ∧
      (udpChecksumField frame = 0 →
        udpChecksumField (reflectSwap frame).2 = 0) := by
  have grammatical :=
    (reflectable_iff_serialise frame).mp
      ((reflectSwap_accepts_iff frame).mp accepts)
  obtain ⟨packet, rfl, fits⟩ := grammatical
  have header :
      sum (ipv4HeaderBytes packet.reversed.serialise) =
        sum (ipv4HeaderBytes packet.serialise) := by
    rw [ipv4HeaderBytes_serialise, ipv4HeaderBytes_serialise,
      sum_ipHeader_reversed]
  have covered := sum_udpCovered_reversed fits
  have field :
      udpChecksumField packet.reversed.serialise =
        udpChecksumField packet.serialise := by
    rw [udpChecksumField, udpChecksumField, readBe16_udpChecksum,
      readBe16_udpChecksum]
    rfl
  rw [reflectSwap_serialise fits]
  refine ⟨header, covered, ?_, ?_, field, ?_⟩
  · rw [Verifies, Verifies, header]
  · rw [Verifies, Verifies, covered]
  · intro absent
    rw [field, absent]

/-- Valid checksums over an odd payload are valid in the reflection. -/
theorem checksums_preserved_sample :
    (reflectSwap samplePacket.serialise).1 = true ∧
      Verifies (ipv4HeaderBytes (reflectSwap samplePacket.serialise).2) ∧
      Verifies (udpCovered (reflectSwap samplePacket.serialise).2) := by
  have accepts : (reflectSwap samplePacket.serialise).1 = true := by
    decide
  obtain ⟨_, _, header, covered, _⟩ :=
    checksums_preserved samplePacket.serialise accepts
  exact
    ⟨accepts, header.mpr (by decide), covered.mpr (by decide)⟩

end Bench

end AfXdp
