import Mathlib.Data.Nat.Bitwise
import Mathlib.Data.Int.ModEq
import Mathlib.Tactic.Common

namespace SequenceIndex

/-!
# Wrapped sequence numbers and power-of-two alignment

A sequence number counts without bound, but a machine stores it modulo `2^32`.
As long as two numbers are less than `2^32` apart their stored difference is
exact.  A power-of-two mask takes a stored number to its slot, and the same
masks align an address to the block that contains it.
-/

/-- The stored form of an unbounded sequence number. -/
abbrev stored (number : Nat) : UInt32 :=
  UInt32.ofNat number

/-- Stored numbers advance like the numbers themselves. -/
theorem stored_add
    (number : Nat)
    (amount : UInt32) :
    stored number + amount = stored (number + amount.toNat) := by
  apply UInt32.toNat_inj.mp
  simp only [stored, UInt32.toNat_add, UInt32.toNat_ofNat']
  omega

/-- Indexes add up modulo their range. -/
theorem stored_add_stored
    (number offset : Nat) :
    stored number + stored offset = stored (number + offset) := by
  apply UInt32.toNat_inj.mp
  simp only [stored, UInt32.toNat_add, UInt32.toNat_ofNat']
  omega

/-- The stored difference of two nearby numbers is their true distance. -/
theorem toNat_stored_sub
    {earlier later : Nat}
    (ordered : earlier ≤ later)
    (near : later < earlier + 2 ^ 32) :
    (stored later - stored earlier).toNat = later - earlier := by
  simp only [stored, UInt32.toNat_sub, UInt32.toNat_ofNat']
  omega

/-- A small number is stored as it is. -/
theorem toNat_stored
    {number : Nat}
    (small : number < 2 ^ 32) :
    (stored number).toNat = number :=
  UInt32.toNat_ofNat_of_lt' small

/-- A power of two below `2^32` keeps its value when stored. -/
theorem toNat_stored_two_pow
    {order : Nat}
    (small : order < 32) :
    (stored (2 ^ order)).toNat = 2 ^ order :=
  toNat_stored (Nat.pow_lt_pow_right (by decide) small)

/-- A power-of-two mask takes a stored number to its slot. -/
theorem toNat_stored_and_mask
    {order : Nat}
    (small : order < 32)
    (number : Nat) :
    (stored number &&& (stored (2 ^ order) - 1)).toNat =
      number % 2 ^ order := by
  have positive : 0 < 2 ^ order := Nat.two_pow_pos order
  have bounded : 2 ^ order < 2 ^ 32 :=
    Nat.pow_lt_pow_right (by decide) small
  have mask : (stored (2 ^ order) - 1).toNat = 2 ^ order - 1 := by
    rw [UInt32.toNat_sub, toNat_stored_two_pow small]
    simp only [UInt32.toNat_one]
    omega
  rw [UInt32.toNat_and, mask, Nat.and_two_pow_sub_one_eq_mod,
    UInt32.toNat_ofNat']
  exact Nat.mod_mod_of_dvd number
    (Nat.pow_dvd_pow 2 (Nat.le_of_lt small))

/-- Numbers within one lap of each other occupy different slots. -/
theorem slot_injective
    {size first second : Nat}
    (ordered : first ≤ second)
    (oneLap : second < first + size)
    (sameSlot : first % size = second % size) :
    first = second := by
  have divides : size ∣ second - first :=
    (Nat.modEq_iff_dvd' ordered).mp sameSlot
  have distance : second - first = 0 :=
    Nat.eq_zero_of_dvd_of_lt divides (by omega)
  omega

/-! ## Alignment of 64-bit addresses -/

/-- Clear the low bits of an address below a power-of-two block size. -/
def alignDown (blockSize address : UInt64) : UInt64 :=
  address &&& ~~~(blockSize - 1)

/-- Aligning rounds down to a multiple of the block size. -/
theorem toNat_alignDown
    {order : Nat}
    (small : order < 64)
    (address : UInt64) :
    (alignDown (UInt64.ofNat (2 ^ order)) address).toNat =
      address.toNat / 2 ^ order * 2 ^ order := by
  have positive : 0 < 2 ^ order := Nat.two_pow_pos order
  have bounded : 2 ^ order < 2 ^ 64 :=
    Nat.pow_lt_pow_right (by decide) small
  have lowBits :
      (UInt64.ofNat (2 ^ order) - 1).toNat = 2 ^ order - 1 := by
    rw [UInt64.toNat_sub, UInt64.toNat_ofNat_of_lt' bounded]
    simp only [UInt64.toNat_one]
    omega
  have highBits :
      UInt64.size - 1 - (2 ^ order - 1) =
        2 ^ 64 - (2 ^ order - 1 + 1) := by
    simp only [UInt64.size]
    omega
  rw [alignDown, UInt64.toNat_and, UInt64.toNat_not, lowBits,
    highBits]
  apply Nat.eq_of_testBit_eq
  intro bit
  rw [Nat.testBit_and, Nat.testBit_mul_two_pow,
    Nat.testBit_div_two_pow,
    Nat.testBit_two_pow_sub_succ (by omega),
    Nat.testBit_two_pow_sub_one]
  by_cases high : order ≤ bit
  · by_cases inRange : bit < 64
    · simp [high, inRange, Nat.not_lt.mpr high,
        Nat.sub_add_cancel high]
    · have clear : address.toNat.testBit bit = false :=
        Nat.testBit_lt_two_pow
          (Nat.lt_of_lt_of_le (UInt64.toNat_lt address)
            (Nat.pow_le_pow_right (by decide) (by omega)))
      simp [inRange, high, clear, Nat.sub_add_cancel high]
  · have low : bit < order := Nat.lt_of_not_le high
    simp [high, low]

end SequenceIndex
