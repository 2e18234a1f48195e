import AfXdp.WireLayout
import Mathlib.Data.List.Perm.Basic
import Mathlib.Algebra.Group.Even

namespace OnesComplement

open WireBytes

/-!
# The one's-complement sum of bytes

Sixteen-bit addition with end-around carry, and the sum of a byte string read
as 16-bit words in network order. The sum does not depend on the order of the
words, which is all that a checksum can know about them.
-/

/-- Addition with end-around carry. -/
def add (first second : UInt16) : UInt16 :=
  UInt16.ofNat
    ((first.toNat + second.toNat) % 65536 +
      (first.toNat + second.toNat) / 65536)

/-- A sum either fits, or its carry comes around. -/
theorem add_cases (first second : UInt16) :
    (first.toNat + second.toNat < 65536 ∧
        (add first second).toNat = first.toNat + second.toNat) ∨
      (65536 ≤ first.toNat + second.toNat ∧
        (add first second).toNat + 65535 =
          first.toNat + second.toNat) := by
  have firstBound := first.toNat_lt
  have secondBound := second.toNat_lt
  have value :
      (add first second).toNat =
        (first.toNat + second.toNat) % 65536 +
          (first.toNat + second.toNat) / 65536 :=
    UInt16.toNat_ofNat_of_lt' (by rw [UInt16.size]; omega)
  omega

/-- The order of the summands is no matter. -/
theorem add_comm (first second : UInt16) :
    add first second = add second first := by
  rw [add, add, Nat.add_comm first.toNat]

/-- Nor is the order of the additions. -/
theorem add_assoc (first second third : UInt16) :
    add (add first second) third = add first (add second third) := by
  apply UInt16.toNat_inj.mp
  have left := add_cases first second
  have right := add_cases second third
  have leftSum := add_cases (add first second) third
  have rightSum := add_cases first (add second third)
  have firstBound := first.toNat_lt
  have thirdBound := third.toNat_lt
  omega

/-- Two addends may be taken in either order. -/
instance : RightCommutative add where
  right_comm sum first second := by
    rw [add_assoc, add_comm first second, ← add_assoc]

/-- Two bytes as a word in network order. -/
def word (high low : UInt8) : UInt16 :=
  UInt16.ofNat (256 * high.toNat + low.toNat)

/-- The words of a byte string; a last odd byte is padded with zero. -/
def words : Bytes → List UInt16
  | [] => []
  | [last] => [word last 0]
  | high :: low :: rest => word high low :: words rest

/-- The one's-complement sum of a byte string. -/
def sum (bytes : Bytes) : UInt16 :=
  (words bytes).foldl add 0

/-- A checksum verifies if the sum over its field too is all ones. -/
def Verifies (bytes : Bytes) : Prop :=
  sum bytes = 0xffff

instance (bytes : Bytes) : Decidable (Verifies bytes) :=
  inferInstanceAs (Decidable (sum bytes = 0xffff))

/-- A field of whole words keeps the words behind it aligned. -/
theorem words_append
    {front rest : Bytes}
    (aligned : Even front.length) :
    words (front ++ rest) = words front ++ words rest := by
  induction front using words.induct with
  | case1 => rfl
  | case2 last =>
      exact absurd aligned Nat.not_even_one
  | case3 high low behind inductionHypothesis =>
      have even : Even behind.length := by
        rw [List.length_cons, List.length_cons, Nat.even_add_one,
          Nat.even_add_one, not_not] at aligned
        exact aligned
      simp only [List.cons_append, words, inductionHypothesis even]

/-- The sum knows the words only up to their order. -/
theorem sum_eq_of_perm
    {first second : Bytes}
    (permuted : (words first).Perm (words second)) :
    sum first = sum second :=
  permuted.foldl_eq 0

/-- Exchanging two fields of whole words leaves the words a permutation. -/
theorem words_exchange_perm
    {first second front rest : Bytes}
    (frontAligned : Even front.length)
    (firstAligned : Even first.length)
    (secondAligned : Even second.length) :
    (words (front ++ (second ++ (first ++ rest)))).Perm
      (words (front ++ (first ++ (second ++ rest)))) := by
  rw [words_append frontAligned, words_append frontAligned,
    words_append firstAligned, words_append secondAligned,
    words_append secondAligned, words_append firstAligned]
  refine List.Perm.append_left (words front) ?_
  rw [← List.append_assoc, ← List.append_assoc]
  exact List.Perm.append_right (words rest) List.perm_append_comm

end OnesComplement
