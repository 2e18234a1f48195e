import AfXdp.WireBytes

namespace WireBytes

/-!
# Fields laid out one after another

A packet header is a concatenation of fields. The lemmas here read a field out
of such a concatenation, and cut a byte string back into its fields.
-/

/-- A field of a fixed number of bytes. -/
structure Octets (length : Nat) where
  bytes : Bytes
  sized : bytes.length = length

attribute [simp] Octets.sized

/-- The two bytes of a number in network order. -/
def be16 (value : UInt16) : Bytes :=
  [UInt8.ofNat (value.toNat / 256), UInt8.ofNat value.toNat]

/-- A field has two bytes. -/
@[simp]
theorem length_be16 (value : UInt16) :
    (be16 value).length = 2 :=
  rfl

namespace Octets

/-- The field a byte string has at an offset. -/
def of
    (bytes : Bytes)
    (offset length : Nat)
    (fits : offset + length ≤ bytes.length) :
    Octets length where
  bytes := copyOut bytes offset length
  sized := length_copyOut fits

end Octets

/-! ## Reading a concatenation -/

section Concatenation

variable {front rest : Bytes}
variable {offset length : Nat}

/-- A byte behind the first field is a byte of the others. -/
theorem byteAt_append_skip
    (skip : front.length ≤ offset) :
    byteAt (front ++ rest) offset =
      byteAt rest (offset - front.length) := by
  simp only [byteAt, List.getD_eq_getElem?_getD]
  rw [List.getElem?_append_right skip]

/-- A load behind the front is one of the rest. -/
theorem load16_append_skip
    (skip : front.length ≤ offset) :
    load16 (front ++ rest) offset =
      load16 rest (offset - front.length) := by
  rw [load16, load16, byteAt_append_skip skip,
    byteAt_append_skip (by omega)]
  congr 4
  congr 1
  omega

/-- So is a copy. -/
theorem copyOut_append_skip
    (skip : front.length ≤ offset) :
    copyOut (front ++ rest) offset length =
      copyOut rest (offset - front.length) length := by
  rw [copyOut, copyOut, List.drop_append,
    List.drop_eq_nil_of_le skip, List.nil_append]

/-- A copy of the front is the front. -/
theorem copyOut_append_front
    (covers : front.length = length) :
    copyOut (front ++ rest) 0 length = front := by
  rw [copyOut, List.drop_zero, ← covers, List.take_left]

/-- A number written in network order is loaded byte-swapped. -/
theorem byteSwap16_load16_be16 (value : UInt16) :
    byteSwap16 (load16 (be16 value ++ rest) 0) = value := by
  apply UInt16.toNat_inj.mp
  have bound := value.toNat_lt
  have high : value.toNat / 256 % 2 ^ 8 = value.toNat / 256 := by
    omega
  have loaded :
      (load16 (be16 value ++ rest) 0).toNat =
        value.toNat / 256 + 256 * (value.toNat % 256) := by
    simp only [load16, byteAt, be16, List.cons_append, Nat.zero_add,
      List.getD_cons_zero, List.getD_cons_succ, UInt8.toNat_ofNat',
      UInt16.toNat_ofNat', high]
    omega
  have swapLow :
      (value.toNat / 256 + 256 * (value.toNat % 256)) % 256 =
        value.toNat / 256 := by
    omega
  have swapHigh :
      (value.toNat / 256 + 256 * (value.toNat % 256)) / 256 =
        value.toNat % 256 := by
    omega
  rw [toNat_byteSwap16, loaded, swapLow, swapHigh]
  omega

end Concatenation

/-! ## Cutting a byte string -/

section Cutting

variable {bytes : Bytes}

/-- From an offset on, a byte string is a field and what follows it. -/
theorem drop_eq_copyOut_append
    (bytes : Bytes)
    (offset length : Nat) :
    bytes.drop offset =
      copyOut bytes offset length ++ bytes.drop (offset + length) := by
  rw [copyOut, ← List.drop_drop, List.take_append_drop]

/-- One byte is the byte at the offset. -/
theorem copyOut_one
    {offset : Nat}
    (fits : offset < bytes.length) :
    copyOut bytes offset 1 = [byteAt bytes offset] := by
  refine ext_byteAt (length_copyOut (by omega)) ?_
  intro index inRange
  rw [length_copyOut (by omega)] at inRange
  rw [byteAt_copyOut inRange]
  have first : index = 0 := by
    omega
  rw [first]
  rfl

/-- Two bytes are the network order of the byte-swapped load. -/
theorem copyOut_two
    {offset : Nat}
    (fits : offset + 2 ≤ bytes.length) :
    copyOut bytes offset 2 =
      be16 (byteSwap16 (load16 bytes offset)) := by
  have low := (byteAt bytes offset).toNat_lt
  have high := (byteAt bytes (offset + 1)).toNat_lt
  have loaded :
      (load16 bytes offset).toNat =
        (byteAt bytes offset).toNat +
          256 * (byteAt bytes (offset + 1)).toNat :=
    UInt16.toNat_ofNat_of_lt' (by rw [UInt16.size]; omega)
  have swapped :
      (byteSwap16 (load16 bytes offset)).toNat =
        (byteAt bytes offset).toNat * 256 +
          (byteAt bytes (offset + 1)).toNat := by
    rw [toNat_byteSwap16, loaded]
    omega
  refine ext_byteAt (length_copyOut fits) ?_
  intro index inRange
  rw [length_copyOut fits] at inRange
  rw [byteAt_copyOut inRange]
  apply UInt8.toNat_inj.mp
  interval_cases index
  · change (byteAt bytes offset).toNat =
      (UInt8.ofNat ((byteSwap16 (load16 bytes offset)).toNat / 256)).toNat
    have first :
        ((byteAt bytes offset).toNat * 256 +
            (byteAt bytes (offset + 1)).toNat) / 256 =
          (byteAt bytes offset).toNat := by
      omega
    rw [UInt8.toNat_ofNat', swapped, first]
    omega
  · change (byteAt bytes (offset + 1)).toNat =
      (UInt8.ofNat (byteSwap16 (load16 bytes offset)).toNat).toNat
    rw [UInt8.toNat_ofNat', swapped]
    omega

end Cutting

end WireBytes
