import Mathlib.Data.List.Basic
import Mathlib.Tactic.IntervalCases

namespace WireBytes

/-!
# Bytes on the wire

Byte strings with the accesses that packet code makes: copies of a few bytes
out of and into a buffer, and unaligned integer loads on a little-endian
machine with the byte swaps that turn them into network order.
-/

/-- Memory as the CPU addresses it. -/
abbrev Bytes :=
  List UInt8

/-- The byte at an offset; a byte past the end reads as zero. -/
def byteAt (bytes : Bytes) (offset : Nat) : UInt8 :=
  bytes.getD offset 0

/-- `memcpy(out, bytes + offset, length)`. -/
def copyOut (bytes : Bytes) (offset length : Nat) : Bytes :=
  (bytes.drop offset).take length

/-- `memcpy(bytes + offset, data, sizeof data)`. -/
def copyIn (bytes : Bytes) (offset : Nat) (data : Bytes) : Bytes :=
  bytes.take offset ++ data ++ bytes.drop (offset + data.length)

/-- A 16-bit load on a little-endian machine. -/
def load16 (bytes : Bytes) (offset : Nat) : UInt16 :=
  UInt16.ofNat
    ((byteAt bytes offset).toNat +
      256 * (byteAt bytes (offset + 1)).toNat)

/-- A 32-bit load on a little-endian machine. -/
def load32 (bytes : Bytes) (offset : Nat) : UInt32 :=
  UInt32.ofNat
    ((byteAt bytes offset).toNat +
      256 * (byteAt bytes (offset + 1)).toNat +
      65536 * (byteAt bytes (offset + 2)).toNat +
      16777216 * (byteAt bytes (offset + 3)).toNat)

/-- The bytes of a 32-bit integer in the memory of a little-endian machine. -/
def store32 (value : UInt32) : Bytes :=
  [UInt8.ofNat value.toNat, UInt8.ofNat (value.toNat / 256),
    UInt8.ofNat (value.toNat / 65536),
    UInt8.ofNat (value.toNat / 16777216)]

/-- `htons` and `ntohs` on a little-endian machine. -/
def byteSwap16 (value : UInt16) : UInt16 :=
  UInt16.ofNat (value.toNat % 256 * 256 + value.toNat / 256)

/-! ## Copies -/

section Copies

variable {bytes data : Bytes}
variable {offset start length : Nat}

/-- A copy that fits is as long as it is asked to be. -/
theorem length_copyOut
    (fits : offset + length ≤ bytes.length) :
    (copyOut bytes offset length).length = length := by
  rw [copyOut, List.length_take, List.length_drop]
  omega

/-- Writing over bytes keeps the length. -/
theorem length_copyIn
    (fits : offset + data.length ≤ bytes.length) :
    (copyIn bytes offset data).length = bytes.length := by
  simp only [copyIn, List.length_append, List.length_take,
    List.length_drop]
  omega

/-- A byte of a copy. -/
theorem byteAt_copyOut
    {index : Nat}
    (inRange : index < length) :
    byteAt (copyOut bytes offset length) index =
      byteAt bytes (offset + index) := by
  simp only [byteAt, copyOut, List.getD_eq_getElem?_getD,
    List.getElem?_take, inRange, ↓reduceIte, List.getElem?_drop]

/-- Bytes before and after the written ones are unchanged. -/
theorem byteAt_copyIn_outside
    {index : Nat}
    (fits : offset + data.length ≤ bytes.length)
    (outside : index < offset ∨ offset + data.length ≤ index) :
    byteAt (copyIn bytes offset data) index = byteAt bytes index := by
  have taken : (bytes.take offset).length = offset :=
    List.length_take_of_le (by omega)
  simp only [byteAt, copyIn, List.getD_eq_getElem?_getD,
    List.append_assoc]
  rcases outside with before | after
  · rw [List.getElem?_append_left (by omega),
      List.getElem?_take_of_lt before]
  · rw [List.getElem?_append_right (by omega),
      List.getElem?_append_right (by omega), List.getElem?_drop,
      taken]
    congr 2
    omega

/-- A byte that was written over. -/
theorem byteAt_copyIn_inside
    {index : Nat}
    (fits : offset + data.length ≤ bytes.length)
    (inRange : index < data.length) :
    byteAt (copyIn bytes offset data) (offset + index) =
      byteAt data index := by
  have taken : (bytes.take offset).length = offset :=
    List.length_take_of_le (by omega)
  simp only [byteAt, copyIn, List.getD_eq_getElem?_getD,
    List.append_assoc]
  rw [List.getElem?_append_right (by omega), taken,
    Nat.add_sub_cancel_left, List.getElem?_append_left inRange]

/-- Two byte strings of one length with the same bytes are the same. -/
theorem ext_byteAt
    {first second : Bytes}
    (lengths : first.length = second.length)
    (same :
      ∀ index,
        index < first.length →
        byteAt first index = byteAt second index) :
    first = second := by
  refine List.ext_getElem lengths ?_
  intro index inFirst inSecond
  have at' := same index inFirst
  simpa [byteAt, inFirst, inSecond] using at'

/-- What was written is read back. -/
theorem copyOut_copyIn
    (fits : offset + data.length ≤ bytes.length) :
    copyOut (copyIn bytes offset data) offset data.length = data := by
  have whole := length_copyIn fits
  refine ext_byteAt (length_copyOut (by omega)) ?_
  intro index inRange
  rw [length_copyOut (by omega)] at inRange
  rw [byteAt_copyOut inRange, byteAt_copyIn_inside fits inRange]

/-- A copy from elsewhere does not see the write. -/
theorem copyOut_copyIn_disjoint
    (fits : offset + data.length ≤ bytes.length)
    (within : start + length ≤ bytes.length)
    (disjoint :
      start + length ≤ offset ∨ offset + data.length ≤ start) :
    copyOut (copyIn bytes offset data) start length =
      copyOut bytes start length := by
  have whole := length_copyIn fits
  have lengths :
      (copyOut (copyIn bytes offset data) start length).length =
        (copyOut bytes start length).length := by
    rw [length_copyOut (by omega), length_copyOut within]
  refine ext_byteAt lengths ?_
  intro index inRange
  rw [length_copyOut (by omega)] at inRange
  rw [byteAt_copyOut inRange, byteAt_copyOut inRange,
    byteAt_copyIn_outside fits (by omega)]

end Copies

/-! ## Loads -/

/-- The two bytes exchange their weights. -/
theorem toNat_byteSwap16 (value : UInt16) :
    (byteSwap16 value).toNat =
      value.toNat % 256 * 256 + value.toNat / 256 := by
  have bound := value.toNat_lt
  exact UInt16.toNat_ofNat_of_lt' (by rw [UInt16.size]; omega)

/-- Swapping twice changes nothing. -/
theorem byteSwap16_byteSwap16 (value : UInt16) :
    byteSwap16 (byteSwap16 value) = value := by
  apply UInt16.toNat_inj.mp
  have bound := value.toNat_lt
  rw [toNat_byteSwap16, toNat_byteSwap16]
  omega

/-- Comparing raw is comparing in network order. -/
theorem load16_eq_byteSwap16
    (bytes : Bytes)
    (offset : Nat)
    (value : UInt16) :
    load16 bytes offset = byteSwap16 value ↔
      byteSwap16 (load16 bytes offset) = value := by
  constructor
  · intro same
    rw [same, byteSwap16_byteSwap16]
  · intro same
    rw [← same, byteSwap16_byteSwap16]

/-- A load depends on the two bytes it reads. -/
theorem load16_eq_of_copyOut_eq
    {first second : Bytes}
    {offset start : Nat}
    (same : copyOut first offset 2 = copyOut second start 2) :
    load16 first offset = load16 second start := by
  have at'
      (index : Nat)
      (inRange : index < 2) :
      byteAt first (offset + index) = byteAt second (start + index) := by
    rw [← byteAt_copyOut inRange, same, byteAt_copyOut inRange]
  have low := at' 0 (by decide)
  have high := at' 1 (by decide)
  rw [Nat.add_zero, Nat.add_zero] at low
  rw [load16, load16, low, high]

/-- Two raw 32-bit loads agree exactly if all four bytes do. -/
theorem load32_inj
    {first second : Bytes}
    {offset start : Nat} :
    load32 first offset = load32 second start ↔
      ∀ index,
        index < 4 →
        byteAt first (offset + index) =
          byteAt second (start + index) := by
  constructor
  · intro same
    have values := congrArg UInt32.toNat same
    have f0 := (byteAt first offset).toNat_lt
    have f1 := (byteAt first (offset + 1)).toNat_lt
    have f2 := (byteAt first (offset + 2)).toNat_lt
    have f3 := (byteAt first (offset + 3)).toNat_lt
    have s0 := (byteAt second start).toNat_lt
    have s1 := (byteAt second (start + 1)).toNat_lt
    have s2 := (byteAt second (start + 2)).toNat_lt
    have s3 := (byteAt second (start + 3)).toNat_lt
    simp only [load32, UInt32.toNat_ofNat'] at values
    intro index inRange
    apply UInt8.toNat_inj.mp
    interval_cases index
    · rw [Nat.add_zero, Nat.add_zero]
      omega
    · omega
    · omega
    · omega
  · intro same
    simp only [load32]
    have b0 := same 0 (by decide)
    have b1 := same 1 (by decide)
    have b2 := same 2 (by decide)
    have b3 := same 3 (by decide)
    simp only [Nat.add_zero] at b0
    rw [b0, b1, b2, b3]

/-- Four bytes are determined by their load. -/
theorem copyOut_eq_iff_load32
    {first second : Bytes}
    {offset start : Nat}
    (fits : offset + 4 ≤ first.length)
    (within : start + 4 ≤ second.length) :
    copyOut first offset 4 = copyOut second start 4 ↔
      load32 first offset = load32 second start := by
  rw [load32_inj]
  constructor
  · intro same index inRange
    have bytes := congrArg (byteAt · index) same
    simpa only [byteAt_copyOut inRange] using bytes
  · intro same
    refine ext_byteAt ?_ ?_
    · rw [length_copyOut fits, length_copyOut within]
    · intro index inRange
      rw [length_copyOut fits] at inRange
      rw [byteAt_copyOut inRange, byteAt_copyOut inRange]
      exact same index inRange

/-- Storing what was loaded gives the same bytes. -/
theorem store32_load32
    {bytes : Bytes}
    (quad : bytes.length = 4) :
    store32 (load32 bytes 0) = bytes := by
  obtain ⟨b0, b1, b2, b3, rfl⟩ := List.length_eq_four.mp quad
  have h0 := b0.toNat_lt
  have h1 := b1.toNat_lt
  have h2 := b2.toNat_lt
  have h3 := b3.toNat_lt
  have value :
      (load32 [b0, b1, b2, b3] 0).toNat =
        b0.toNat + 256 * b1.toNat + 65536 * b2.toNat +
          16777216 * b3.toNat :=
    UInt32.toNat_ofNat_of_lt' (by
      simp only [byteAt, List.getD_cons_zero, List.getD_cons_succ,
        UInt32.size]
      omega)
  simp only [store32, value, List.cons.injEq, and_true]
  refine ⟨?_, ?_, ?_, ?_⟩ <;>
    · apply UInt8.toNat_inj.mp
      rw [UInt8.toNat_ofNat']
      omega

/-! ## Little-endian words -/

/-- The value of bytes, the least significant first. -/
def littleEndian : Bytes → Nat
  | [] =>
      0
  | byte :: rest =>
      byte.toNat + 256 * littleEndian rest

/-- The `count` least significant bytes of a value. -/
def littleEndianBytes : Nat → Nat → Bytes
  | 0, _ =>
      []
  | count + 1, value =>
      UInt8.ofNat value :: littleEndianBytes count (value / 256)

/-- A 64-bit load on a little-endian machine. -/
def load64 (bytes : Bytes) (offset : Nat) : UInt64 :=
  UInt64.ofNat (littleEndian (copyOut bytes offset 8))

/-- The bytes of a 64-bit integer in the memory of a little-endian machine. -/
def store64 (value : UInt64) : Bytes :=
  littleEndianBytes 8 value.toNat

/-- As many bytes as were asked for. -/
theorem length_littleEndianBytes (count value : Nat) :
    (littleEndianBytes count value).length = count := by
  induction count generalizing value with
  | zero =>
      rfl
  | succ count inductionHypothesis =>
      exact congrArg (· + 1) (inductionHypothesis (value / 256))

/-- The bytes have the value, as far as they go. -/
theorem littleEndian_littleEndianBytes (count value : Nat) :
    littleEndian (littleEndianBytes count value) = value % 256 ^ count := by
  induction count generalizing value with
  | zero =>
      simp [littleEndianBytes, littleEndian, Nat.mod_one]
  | succ count inductionHypothesis =>
      have lowByte : (UInt8.ofNat value).toNat = value % 256 :=
        UInt8.toNat_ofNat'
      rw [littleEndianBytes, littleEndian, inductionHypothesis, lowByte,
        Nat.pow_succ', Nat.mod_mul]

/-- A word has eight bytes. -/
@[simp]
theorem length_store64 (value : UInt64) : (store64 value).length = 8 :=
  length_littleEndianBytes 8 _

/-- A word is read back where it was stored. -/
theorem load64_store64
    (front back : Bytes)
    (value : UInt64) :
    load64 (front ++ (store64 value ++ back)) front.length = value := by
  have found :
      copyOut (front ++ (store64 value ++ back)) front.length 8 =
        store64 value := by
    rw [copyOut, List.drop_left, ← length_store64 value, List.take_left]
  have bound := value.toNat_lt
  apply UInt64.toNat_inj.mp
  rw [load64, found, store64, littleEndian_littleEndianBytes,
    Nat.mod_eq_of_lt (by simpa using bound), UInt64.ofNat_toNat]

/-- Every word of a row of words is read back at its place. -/
theorem load64_flatMap_store64
    (words : List UInt64)
    (index : Nat) :
    load64 (words.flatMap store64) (8 * index) = words.getD index 0 := by
  induction index generalizing words with
  | zero =>
      cases words with
      | nil =>
          rfl
      | cons word words =>
          exact load64_store64 [] _ word
  | succ index inductionHypothesis =>
      cases words with
      | nil =>
          simp [load64, copyOut, littleEndian]
      | cons word words =>
          have skipped :
              copyOut (store64 word ++ words.flatMap store64)
                  (8 * (index + 1)) 8 =
                copyOut (words.flatMap store64) (8 * index) 8 := by
            have offset :
                8 * (index + 1) = (store64 word).length + 8 * index := by
              rw [length_store64]
              omega
            rw [copyOut, offset, List.drop_length_add_append]
            rfl
          rw [List.flatMap_cons, load64, skipped, List.getD_cons_succ]
          exact inductionHypothesis words

/-- Bytes are the bytes of their value. -/
theorem littleEndianBytes_littleEndian (bytes : Bytes) :
    littleEndianBytes bytes.length (littleEndian bytes) = bytes := by
  induction bytes with
  | nil =>
      rfl
  | cons first rest inductionHypothesis =>
      have small := first.toNat_lt
      have low : UInt8.ofNat (littleEndian (first :: rest)) = first := by
        apply UInt8.toNat_inj.mp
        rw [UInt8.toNat_ofNat', littleEndian]
        omega
      have high : littleEndian (first :: rest) / 256 = littleEndian rest := by
        rw [littleEndian]
        omega
      rw [List.length_cons, littleEndianBytes, low, high,
        inductionHypothesis]

/-- The value of some bytes is bounded by their number. -/
theorem littleEndian_lt (bytes : Bytes) :
    littleEndian bytes < 256 ^ bytes.length := by
  induction bytes with
  | nil =>
      exact Nat.one_pos
  | cons first rest inductionHypothesis =>
      have small := first.toNat_lt
      rw [littleEndian, List.length_cons, Nat.pow_succ]
      omega

/-- A word that is loaded and stored again gives the bytes it came from. -/
theorem store64_load64
    {bytes : Bytes}
    {offset : Nat}
    (inside : offset + 8 ≤ bytes.length) :
    store64 (load64 bytes offset) = copyOut bytes offset 8 := by
  have length : (copyOut bytes offset 8).length = 8 := by
    rw [copyOut, List.length_take, List.length_drop]
    omega
  have small : littleEndian (copyOut bytes offset 8) < UInt64.size := by
    have bound := littleEndian_lt (copyOut bytes offset 8)
    rw [length] at bound
    exact bound
  have stored := littleEndianBytes_littleEndian (copyOut bytes offset 8)
  rw [length] at stored
  rw [store64, load64, UInt64.toNat_ofNat_of_lt' small, stored]

/-- Storing the words of a row of bytes gives the row. -/
theorem flatMap_store64_load64
    {bytes : Bytes}
    {count : Nat}
    (inside : 8 * count ≤ bytes.length) :
    ((List.range count).map fun index =>
        load64 bytes (8 * index)).flatMap store64 =
      bytes.take (8 * count) := by
  induction count with
  | zero =>
      rfl
  | succ count inductionHypothesis =>
      have word : 8 * count + 8 ≤ bytes.length := by omega
      rw [List.range_succ, List.map_append, List.flatMap_append,
        inductionHypothesis (by omega), List.map_singleton,
        List.flatMap_singleton, store64_load64 word, copyOut,
        ← List.take_add]
      rfl

end WireBytes
