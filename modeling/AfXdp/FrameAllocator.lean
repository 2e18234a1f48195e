import Mathlib.Data.List.Nodup
import AfXdp.SequenceIndex

namespace AfXdp

open SequenceIndex

/-!
# The frame allocator of `frame_alloc.hpp`

`FrameAllocator` is a fixed-capacity stack of frame offsets.  The model keeps
`frames_[0 .. count_)` as a list, top of the stack first.
-/

/-- The stack of free frames, with its top first. -/
structure FrameAllocator where
  capacity : Nat
  frames : List UInt64
  deriving Repr, DecidableEq

namespace FrameAllocator

/-- The frame offsets that the constructor writes, `frames_[0]` first. -/
def frameOffsets (numFrames frameSize : UInt32) : List UInt64 :=
  (List.range numFrames.toNat).map fun index =>
    UInt64.ofNat index * frameSize.toUInt64

/-- The constructor. -/
def create
    (capacity : Nat)
    (numFrames frameSize : UInt32) :
    FrameAllocator where
  capacity := capacity
  frames := (frameOffsets numFrames frameSize).reverse

/-- `alloc`: pop the top of the stack. -/
def alloc (allocator : FrameAllocator) : Option (UInt64 × FrameAllocator) :=
  match allocator.frames with
  | [] =>
      none
  | frame :: rest =>
      some (frame, { allocator with frames := rest })

/-- The assertion at the head of `free`. -/
def freeAsserts (allocator : FrameAllocator) : Bool :=
  allocator.frames.length < allocator.capacity

/-- `free`: push on top of the stack. -/
def free (allocator : FrameAllocator) (offset : UInt64) : FrameAllocator :=
  { allocator with frames := offset :: allocator.frames }

/-- `free_count`. -/
def freeCount (allocator : FrameAllocator) : UInt32 :=
  UInt32.ofNat allocator.frames.length

end FrameAllocator

/-! ## Frames of a power-of-two size -/

/-- `addr & frame_mask_`: the frame that contains an address. -/
def frameBase (frameSize : UInt32) (addr : UInt64) : UInt64 :=
  alignDown frameSize.toUInt64 addr

section Frames

variable {order : Nat}

/-- A power of two is not changed by a conversion. -/
theorem toUInt64_stored_two_pow (small : order < 32) :
    (stored (2 ^ order)).toUInt64 = UInt64.ofNat (2 ^ order) := by
  apply UInt64.toNat_inj.mp
  have bounded : 2 ^ order < 2 ^ 32 :=
    Nat.pow_lt_pow_right (by decide) small
  rw [UInt32.toNat_toUInt64, toNat_stored_two_pow small,
    UInt64.toNat_ofNat_of_lt' (by rw [UInt64.size]; omega)]

/-- The frame of an address starts at the multiple below it. -/
theorem toNat_frameBase
    (small : order < 32)
    (addr : UInt64) :
    (frameBase (stored (2 ^ order)) addr).toNat =
      addr.toNat / 2 ^ order * 2 ^ order := by
  rw [frameBase, toUInt64_stored_two_pow small,
    toNat_alignDown (by omega)]

/-- Every offset the constructor writes is a multiple of the frame size. -/
theorem toNat_frameOffset
    (small : order < 32)
    {index : Nat}
    (inRange : index < 2 ^ 32) :
    (UInt64.ofNat index * (stored (2 ^ order)).toUInt64).toNat =
      index * 2 ^ order := by
  have bounded : 2 ^ order ≤ 2 ^ 31 :=
    Nat.pow_le_pow_right (by decide) (by omega)
  have product : index * 2 ^ order < 2 ^ 64 :=
    calc
      index * 2 ^ order ≤ 2 ^ 32 * 2 ^ 31 :=
        Nat.mul_le_mul (Nat.le_of_lt inRange) bounded
      _ < 2 ^ 64 := by decide
  rw [UInt64.toNat_mul, toUInt64_stored_two_pow small,
    UInt64.toNat_ofNat_of_lt' (by rw [UInt64.size]; omega),
    UInt64.toNat_ofNat_of_lt' (by rw [UInt64.size]; omega),
    Nat.mod_eq_of_lt product]

/-- A frame offset is its own frame. -/
theorem frameBase_of_mem
    (small : order < 32)
    {numFrames : UInt32}
    {frame : UInt64}
    (member :
      frame ∈
        FrameAllocator.frameOffsets numFrames (stored (2 ^ order))) :
    frameBase (stored (2 ^ order)) frame = frame := by
  simp only [FrameAllocator.frameOffsets, List.mem_map,
    List.mem_range] at member
  obtain ⟨index, inRange, rfl⟩ := member
  have bounded : index < 2 ^ 32 :=
    Nat.lt_trans inRange numFrames.toNat_lt
  apply UInt64.toNat_inj.mp
  rw [toNat_frameBase small, toNat_frameOffset small bounded,
    Nat.mul_div_cancel _ (Nat.two_pow_pos order)]

/-- No offset is written twice. -/
theorem frameOffsets_nodup
    (small : order < 32)
    (numFrames : UInt32) :
    (FrameAllocator.frameOffsets
      numFrames (stored (2 ^ order))).Nodup := by
  refine List.Nodup.map_on ?_ List.nodup_range
  intro first firstMember second secondMember same
  have bound := numFrames.toNat_lt
  rw [List.mem_range] at firstMember secondMember
  have values := congrArg UInt64.toNat same
  rw [toNat_frameOffset small (by omega),
    toNat_frameOffset small (by omega)] at values
  exact Nat.eq_of_mul_eq_mul_right (Nat.two_pow_pos order) values

end Frames

end AfXdp
