import Mathlib.Algebra.Group.Nat.Defs
import QueryPlans.Number.Numeral

/-!
# Integers that can be written

* `Numeral.unwritable` — the least number that has too many digits to be written.

Principal results: `write?_eq_ok`, `write?_eq_error` — when an integer has a text; `isWritable_iff` — the
natural numbers that have one are those below `Numeral.unwritable`; `ofDigits_toDigits` — the text of a
natural number has its value.
-/

namespace QueryPlans

namespace Numeral

variable {n : Int}

theorem write?_eq_ok (h : IsWritable n) : write? n = .ok (text n) := by
  unfold write?
  rw [if_pos h]

theorem write?_eq_error (h : ¬ IsWritable n) : write? n = .error .tooLongToWrite := by
  unfold write?
  rw [if_neg h]

/-- The least number that has too many digits to be written: ten to the limit. -/
def unwritable : Int := Int.ofNat (Nat.pow 10 digitLimit)

theorem three_le_unwritable : 3 ≤ unwritable := by decide +kernel

theorem isWritable_iff (h : 0 ≤ n) : IsWritable n ↔ n < unwritable := by
  unfold IsWritable
  rw [← Int.ofNat_lt, Int.natAbs_of_nonneg h]
  rfl

theorem pow_le_pow {length limit : Nat} (h : length ≤ limit) : 10 ^ length ≤ Nat.pow 10 limit :=
  Nat.pow_le_pow_right (by decide) h

theorem isWritable_of_lt (h : n.natAbs < 10 ^ 19) : IsWritable n :=
  Nat.lt_of_lt_of_le h (pow_le_pow (show 19 ≤ digitLimit by decide))

/-- What can be written a thousand times over can be written. -/
theorem IsWritable.of_mul (h : IsWritable (n * 1000)) : IsWritable n := by
  unfold IsWritable at h ⊢
  rw [Int.natAbs_mul] at h
  exact Nat.lt_of_le_of_lt (Nat.le_mul_of_pos_right _ (by decide)) h

/-- The digits of a number have its value. -/
theorem ofDigits_toDigits (n : Nat) : ofDigits ((Nat.toDigits 10 n).map fun c => c.toNat - 0x30) = n := by
  unfold ofDigits
  rw [List.foldl_map]
  exact Nat.ofDigitChars_toDigits (by decide) (by decide)

end Numeral

end QueryPlans
