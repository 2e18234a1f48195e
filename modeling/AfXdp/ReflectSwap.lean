import AfXdp.WireBytes

namespace AfXdp

open WireBytes

/-!
# `reflect_swap` of `bench.hpp`

The packet transformation of the reflector: accept plain UDP over IPv4 over
Ethernet and exchange the endpoints, or leave the bytes alone.
-/

/-- `ETH_P_IP`. -/
def ethPIp : UInt16 :=
  0x0800

/-- `IPPROTO_UDP`. -/
def ipprotoUdp : UInt8 :=
  17

namespace Bench

/-- `REFLECTOR_IPV4_MTU`. -/
def reflectorIpv4Mtu : Nat :=
  1500

/-- The header lengths `ethernet`, `ipv4` and `udp`. -/
def ethernet : Nat :=
  14

/-- Where the IPv4 header begins. -/
def ipv4 : Nat :=
  20

/-- Where the UDP header begins. -/
def udp : Nat :=
  8

/-- The lambda `read_be16`. -/
def readBe16 (frame : Bytes) (offset : Nat) : UInt16 :=
  byteSwap16 (load16 frame offset)

/-- Exchange two fields of one length, through temporaries. -/
def exchange (frame : Bytes) (first second length : Nat) : Bytes :=
  copyIn (copyIn frame first (copyOut frame second length)) second
    (copyOut frame first length)

/-- The copies at the end of `reflect_swap`: MACs, addresses and ports. -/
def swapEndpoints (frame : Bytes) : Bytes :=
  let macs := exchange frame 0 6 6
  let addresses := exchange macs 26 30 4
  exchange addresses 34 36 2

/-- `reflect_swap`: whether the frame is accepted, and the frame afterwards. -/
def reflectSwap (frame : Bytes) : Bool × Bytes :=
  if frame.length < ethernet + ipv4 + udp ∨
      frame.length > ethernet + reflectorIpv4Mtu then
    (false, frame)
  else if readBe16 frame 12 ≠ ethPIp ∨
      byteAt frame 14 ≠ 0x45 ∨
      byteAt frame 23 ≠ ipprotoUdp then
    (false, frame)
  else if readBe16 frame 20 &&& 0xbfff ≠ 0 then
    (false, frame)
  else
    let ipLength := (readBe16 frame 16).toNat
    if ipLength < ipv4 + udp ∨
        ipLength > frame.length - ethernet ∨
        (readBe16 frame 38).toNat ≠ ipLength - ipv4 then
      (false, frame)
    else
      (true, swapEndpoints frame)

/-- The frames that pass every check. -/
structure Reflectable (frame : Bytes) : Prop where
  minimum :
    ethernet + ipv4 + udp ≤ frame.length
  maximum :
    frame.length ≤ ethernet + reflectorIpv4Mtu
  etherType :
    readBe16 frame 12 = ethPIp
  versionIhl :
    byteAt frame 14 = 0x45
  protocol :
    byteAt frame 23 = ipprotoUdp
  unfragmented :
    readBe16 frame 20 &&& 0xbfff = 0
  ipLengthMin :
    ipv4 + udp ≤ (readBe16 frame 16).toNat
  ipLengthMax :
    (readBe16 frame 16).toNat ≤ frame.length - ethernet
  udpLength :
    (readBe16 frame 38).toNat = (readBe16 frame 16).toNat - ipv4

/-- A frame is accepted and its endpoints exchanged, or it is unchanged. -/
theorem reflectSwap_cases (frame : Bytes) :
    (Reflectable frame ∧
        reflectSwap frame = (true, swapEndpoints frame)) ∨
      (¬ Reflectable frame ∧ reflectSwap frame = (false, frame)) := by
  rw [reflectSwap]
  split
  · next size =>
      exact .inr ⟨fun accepted => by
        have := accepted.minimum
        have := accepted.maximum
        omega, rfl⟩
  split
  · next header =>
      exact .inr ⟨fun accepted => by
        rcases header with etherType | version | protocol
        · exact etherType accepted.etherType
        · exact version accepted.versionIhl
        · exact protocol accepted.protocol, rfl⟩
  split
  · next fragment =>
      exact .inr ⟨fun accepted => fragment accepted.unfragmented, rfl⟩
  simp only
  split
  · next lengths =>
      exact .inr ⟨fun accepted => by
        have := accepted.ipLengthMin
        have := accepted.ipLengthMax
        have := accepted.udpLength
        omega, rfl⟩
  · next size header fragment lengths =>
      simp only [not_or, ne_eq, not_not] at size header fragment lengths
      exact .inl
        ⟨{ minimum := by omega
           maximum := by omega
           etherType := header.1
           versionIhl := header.2.1
           protocol := header.2.2
           unfragmented := fragment
           ipLengthMin := by omega
           ipLengthMax := by omega
           udpLength := lengths.2.2 }, rfl⟩

/-- The checks of the source as one predicate. -/
theorem reflectSwap_accepts_iff (frame : Bytes) :
    (reflectSwap frame).1 = true ↔ Reflectable frame := by
  rcases reflectSwap_cases frame with ⟨accepted, swapped⟩ | ⟨rejected, same⟩
  · simp [swapped, accepted]
  · simp [same, rejected]

/-- An accepted frame has its end points exchanged. -/
theorem reflectSwap_of_accepts
    {frame : Bytes}
    (accepts : (reflectSwap frame).1 = true) :
    (reflectSwap frame).2 = swapEndpoints frame := by
  rcases reflectSwap_cases frame with ⟨_, swapped⟩ | ⟨_, same⟩
  · rw [swapped]
  · rw [same] at accepts
    cases accepts

/-! ## Exchanging fields -/

section Exchange

variable {frame : Bytes}
variable {first second length : Nat}

/-- Copying a field elsewhere keeps the length. -/
theorem length_copyIn_copyOut
    (firstFits : first + length ≤ frame.length)
    (secondFits : second + length ≤ frame.length) :
    (copyIn frame first (copyOut frame second length)).length =
      frame.length := by
  have secondOut := length_copyOut secondFits
  exact length_copyIn (by omega)

/-- So does exchanging two fields. -/
theorem length_exchange
    (firstFits : first + length ≤ frame.length)
    (secondFits : second + length ≤ frame.length) :
    (exchange frame first second length).length = frame.length := by
  have firstOut := length_copyOut firstFits
  have inner := length_copyIn_copyOut firstFits secondFits
  rw [exchange, length_copyIn (by omega), inner]

/-- The first field has the bytes of the second one. -/
theorem copyOut_exchange_first
    (apart : first + length ≤ second)
    (fits : second + length ≤ frame.length) :
    copyOut (exchange frame first second length) first length =
      copyOut frame second length := by
  have firstFits : first + length ≤ frame.length := by
    omega
  have secondOut := length_copyOut fits
  have firstOut := length_copyOut firstFits
  have inner := length_copyIn_copyOut firstFits fits
  rw [exchange, copyOut_copyIn_disjoint (by omega) (by omega)
    (by omega)]
  have readBack :=
    @copyOut_copyIn frame (copyOut frame second length) first
      (by omega)
  rwa [secondOut] at readBack

/-- The second field has the bytes of the first one. -/
theorem copyOut_exchange_second
    (apart : first + length ≤ second)
    (fits : second + length ≤ frame.length) :
    copyOut (exchange frame first second length) second length =
      copyOut frame first length := by
  have firstFits : first + length ≤ frame.length := by
    omega
  have secondOut := length_copyOut fits
  have firstOut := length_copyOut firstFits
  have inner := length_copyIn_copyOut firstFits fits
  have readBack :=
    @copyOut_copyIn
      (copyIn frame first (copyOut frame second length))
      (copyOut frame first length) second (by omega)
  rw [firstOut] at readBack
  exact readBack

/-- Bytes outside both fields are unchanged. -/
theorem copyOut_exchange_disjoint
    {start amount : Nat}
    (firstFits : first + length ≤ frame.length)
    (secondFits : second + length ≤ frame.length)
    (within : start + amount ≤ frame.length)
    (fromFirst : start + amount ≤ first ∨ first + length ≤ start)
    (fromSecond :
      start + amount ≤ second ∨ second + length ≤ start) :
    copyOut (exchange frame first second length) start amount =
      copyOut frame start amount := by
  have secondOut := length_copyOut secondFits
  have firstOut := length_copyOut firstFits
  have inner := length_copyIn_copyOut firstFits secondFits
  rw [exchange,
    copyOut_copyIn_disjoint (by omega) (by omega) (by omega),
    copyOut_copyIn_disjoint (by omega) (by omega) (by omega)]

end Exchange

/-! ## The reflected frame -/

section Reflected

variable {frame : Bytes}

/-- After the addresses of Ethernet are exchanged. -/
theorem length_swappedMacs
    (long : 38 ≤ frame.length) :
    (exchange frame 0 6 6).length = frame.length :=
  length_exchange (by omega) (by omega)

/-- After those of IPv4 are exchanged as well. -/
theorem length_swappedAddresses
    (long : 38 ≤ frame.length) :
    (exchange (exchange frame 0 6 6) 26 30 4).length =
      frame.length := by
  have macs := length_swappedMacs long
  rw [length_exchange (by omega) (by omega), macs]

/-- After the ports are exchanged as well. -/
theorem length_swapEndpoints
    (long : 38 ≤ frame.length) :
    (swapEndpoints frame).length = frame.length := by
  have addresses := length_swappedAddresses long
  rw [swapEndpoints, length_exchange (by omega) (by omega), addresses]

/-- `reflect_swap` never changes the length. -/
theorem length_reflectSwap (frame : Bytes) :
    (reflectSwap frame).2.length = frame.length := by
  rcases reflectSwap_cases frame with ⟨accepted, swapped⟩ | ⟨_, same⟩
  · have minimum := accepted.minimum
    rw [swapped]
    exact length_swapEndpoints
      (Nat.le_trans (by decide) minimum)
  · rw [same]

/-- The new destination MAC is the old source MAC. -/
theorem swapEndpoints_destinationMac
    (long : 38 ≤ frame.length) :
    copyOut (swapEndpoints frame) 0 6 = copyOut frame 6 6 := by
  have macs := length_swappedMacs long
  have addresses := length_swappedAddresses long
  rw [swapEndpoints,
    copyOut_exchange_disjoint (by omega) (by omega) (by omega)
      (by omega) (by omega),
    copyOut_exchange_disjoint (by omega) (by omega) (by omega)
      (by omega) (by omega),
    copyOut_exchange_first (by omega) (by omega)]

/-- The new destination address is the old source address. -/
theorem swapEndpoints_destinationIp
    (long : 38 ≤ frame.length) :
    copyOut (swapEndpoints frame) 30 4 = copyOut frame 26 4 := by
  have macs := length_swappedMacs long
  have addresses := length_swappedAddresses long
  rw [swapEndpoints,
    copyOut_exchange_disjoint (by omega) (by omega) (by omega)
      (by omega) (by omega),
    copyOut_exchange_second (by omega) (by omega),
    copyOut_exchange_disjoint (by omega) (by omega) (by omega)
      (by omega) (by omega)]

/-- The EtherType is not touched. -/
theorem swapEndpoints_etherType
    (long : 38 ≤ frame.length) :
    copyOut (swapEndpoints frame) 12 2 = copyOut frame 12 2 := by
  have macs := length_swappedMacs long
  have addresses := length_swappedAddresses long
  rw [swapEndpoints,
    copyOut_exchange_disjoint (by omega) (by omega) (by omega)
      (by omega) (by omega),
    copyOut_exchange_disjoint (by omega) (by omega) (by omega)
      (by omega) (by omega),
    copyOut_exchange_disjoint (by omega) (by omega) (by omega)
      (by omega) (by omega)]

end Reflected

end Bench

end AfXdp
