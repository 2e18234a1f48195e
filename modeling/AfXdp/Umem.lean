import AfXdp.FrameAllocator

namespace AfXdp

open SequenceIndex

/-!
# Packet memory

UMEM is one byte array, cut into frames of a power-of-two size.  A descriptor
names a span of it.  Offsets are relative to `umem_base_`, as descriptors are.
-/

/-- Byte contents of UMEM. -/
abbrev Memory :=
  Nat → UInt8

/-- `struct xdp_desc` of `linux/if_xdp.h`. -/
structure XdpDesc where
  addr : UInt64
  len : UInt32
  options : UInt32
  deriving Repr, DecidableEq

namespace Memory

/-- The `length` bytes from `offset` on. -/
def span (memory : Memory) (offset length : Nat) : List UInt8 :=
  (List.range length).map fun index => memory (offset + index)

/-- Replace the bytes from `offset` on. -/
def overwrite
    (memory : Memory)
    (offset : Nat)
    (bytes : List UInt8) :
    Memory :=
  fun address =>
    if offset ≤ address then
      (bytes[address - offset]?).getD (memory address)
    else
      memory address

/-- A span is as long as it says. -/
@[simp] theorem length_span
    (memory : Memory)
    (offset length : Nat) :
    (memory.span offset length).length = length := by
  simp [span]

/-- A write at the start of a span replaces its first bytes. -/
theorem span_overwrite_start
    (memory : Memory)
    (offset : Nat)
    {length : Nat}
    {bytes : List UInt8}
    (short : bytes.length ≤ length) :
    (memory.overwrite offset bytes).span offset length =
      bytes ++ (memory.span offset length).drop bytes.length := by
  apply List.ext_getElem
  · simp only [length_span, List.length_append, List.length_drop]
    omega
  · intro index inSpan _
    rw [length_span] at inSpan
    by_cases inBytes : index < bytes.length
    · rw [List.getElem_append_left inBytes]
      simp [span, overwrite, inBytes]
    · have outside : bytes[index]? = none :=
        List.getElem?_eq_none (by omega)
      rw [List.getElem_append_right (by omega)]
      simp only [span, overwrite, List.getElem_map,
        List.getElem_range, Nat.le_add_right, ↓reduceIte,
        Nat.add_sub_cancel_left, outside, Option.getD_none,
        List.getElem_drop]
      congr 2
      omega

/-- A write elsewhere is not seen. -/
theorem span_overwrite_disjoint
    (memory : Memory)
    {offset length target : Nat}
    {bytes : List UInt8}
    (disjoint :
      offset + length ≤ target ∨ target + bytes.length ≤ offset) :
    (memory.overwrite target bytes).span offset length =
      memory.span offset length := by
  unfold span
  apply List.map_congr_left
  intro index inRange
  rw [List.mem_range] at inRange
  unfold overwrite
  split
  · next after =>
      have outside :
          bytes[offset + index - target]? = none :=
        List.getElem?_eq_none (by omega)
      rw [outside, Option.getD_none]
  · rfl

end Memory

namespace XdpDesc

/-- The bytes that a descriptor names. -/
def bytes (desc : XdpDesc) (memory : Memory) : List UInt8 :=
  memory.span desc.addr.toNat desc.len.toNat

/-- The frame that a descriptor's address lies in. -/
def base (frameSize : UInt32) (desc : XdpDesc) : UInt64 :=
  frameBase frameSize desc.addr

/-- `(addr mod frame_size) + len <= frame_size`. -/
def Inside (frameSize : UInt32) (desc : XdpDesc) : Prop :=
  desc.addr.toNat % frameSize.toNat + desc.len.toNat ≤ frameSize.toNat

instance (frameSize : UInt32) (desc : XdpDesc) :
    Decidable (desc.Inside frameSize) :=
  inferInstanceAs (Decidable (_ ≤ _))

end XdpDesc

section Frames

variable {order : Nat}

/-- A descriptor inside its frame names only bytes of that frame. -/
theorem XdpDesc.Inside.bounds
    (small : order < 32)
    {desc : XdpDesc}
    (inside : desc.Inside (stored (2 ^ order))) :
    (desc.base (stored (2 ^ order))).toNat ≤ desc.addr.toNat ∧
      desc.addr.toNat + desc.len.toNat ≤
        (desc.base (stored (2 ^ order))).toNat + 2 ^ order := by
  unfold XdpDesc.Inside at inside
  rw [toNat_stored_two_pow small] at inside
  rw [XdpDesc.base, toNat_frameBase small]
  have split := Nat.div_add_mod' desc.addr.toNat (2 ^ order)
  omega

/-- Two different frames have no byte in common. -/
theorem frames_disjoint
    (small : order < 32)
    {first second : UInt64}
    (firstAligned : frameBase (stored (2 ^ order)) first = first)
    (secondAligned : frameBase (stored (2 ^ order)) second = second)
    (different : first ≠ second) :
    first.toNat + 2 ^ order ≤ second.toNat ∨
      second.toNat + 2 ^ order ≤ first.toNat := by
  have firstMultiple := congrArg UInt64.toNat firstAligned
  have secondMultiple := congrArg UInt64.toNat secondAligned
  rw [toNat_frameBase small] at firstMultiple secondMultiple
  have values : first.toNat ≠ second.toNat := fun same =>
    different (UInt64.toNat_inj.mp same)
  have quotients :
      first.toNat / 2 ^ order ≠ second.toNat / 2 ^ order := by
    intro same
    rw [same] at firstMultiple
    omega
  rcases Nat.lt_or_gt_of_ne quotients with before | after
  · left
    have scaled := Nat.mul_le_mul_right (2 ^ order) before
    rw [Nat.succ_mul] at scaled
    omega
  · right
    have scaled := Nat.mul_le_mul_right (2 ^ order) after
    rw [Nat.succ_mul] at scaled
    omega

/-- Aligning twice is aligning once. -/
theorem frameBase_idem
    (small : order < 32)
    (addr : UInt64) :
    frameBase (stored (2 ^ order))
        (frameBase (stored (2 ^ order)) addr) =
      frameBase (stored (2 ^ order)) addr := by
  apply UInt64.toNat_inj.mp
  rw [toNat_frameBase small, toNat_frameBase small,
    Nat.mul_div_cancel _ (Nat.two_pow_pos order)]

/--
A write inside one frame leaves the bytes of a descriptor in another frame
unchanged.
-/
theorem XdpDesc.bytes_overwrite
    (small : order < 32)
    {desc : XdpDesc}
    (inside : desc.Inside (stored (2 ^ order)))
    {frame : UInt64}
    (aligned : frameBase (stored (2 ^ order)) frame = frame)
    (different : desc.base (stored (2 ^ order)) ≠ frame)
    {offset : Nat}
    {bytes : List UInt8}
    (fromFrame : frame.toNat ≤ offset)
    (withinFrame :
      offset + bytes.length ≤ frame.toNat + 2 ^ order)
    (memory : Memory) :
    desc.bytes (memory.overwrite offset bytes) =
      desc.bytes memory := by
  have own := inside.bounds small
  have apart :=
    frames_disjoint small
      (frameBase_idem small desc.addr) aligned different
  apply Memory.span_overwrite_disjoint
  rw [XdpDesc.base] at own
  omega

end Frames

end AfXdp
