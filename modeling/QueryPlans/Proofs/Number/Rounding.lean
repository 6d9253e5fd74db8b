import Mathlib
import QueryPlans.Number.Double

/-!
# Quotients as doubles

The double nearest to a quotient is found in integer arithmetic.  Here that arithmetic is read in the
rationals.

* `Double.value` — the number that a mantissa and an exponent stand for.
* `Double.IsRepresentable` — the numbers of doubles.
* `Double.IsNearest` — no double is nearer to a number, and of two the one with an even mantissa is taken.
* `Double.Rounds` — a mantissa and an exponent stand for a number to within half a unit of the last
  place: that of 53 digits, but not below that of the subnormal numbers.

Principal results: `ofRatio_rounds` — this is what a quotient is rounded to; `Rounds.isNearest` — so it is
rounded to the nearest double; `ceiling?_finite` — the integer above a double; `Rounds.max_ceil` — rounding
a quotient of integers up to `2 ^ 53` crosses no positive integer.
-/

namespace QueryPlans.Double

/-- The number that a mantissa and an exponent stand for. -/
def value (mantissa : Nat) (exponent : Int) : ℚ := mantissa * 2 ^ exponent

theorem two_zpow_pos (e : Int) : (0 : ℚ) < 2 ^ e := zpow_pos (by norm_num) e

/-- The start of the binade in which an exponent leaves 53 digits. -/
theorem value_two_pow (e : Int) : value (2 ^ 52) e = 2 ^ (e + 52) := by
  unfold value
  rw [zpow_add₀ (by norm_num), mul_comm]
  norm_num

theorem value_eq_of_le (m : Nat) {e e' : Int} (h : e ≤ e') :
    value m e' = value (m * 2 ^ (e' - e).toNat) e := by
  have hexponent : e' = ((e' - e).toNat : Int) + e := by omega
  unfold value
  rw [hexponent, zpow_add₀ (by norm_num), zpow_natCast]
  simp only [Int.add_sub_cancel, Int.toNat_natCast]
  push_cast
  ring

/-! ## Steps of the rounding -/

theorem unscale_den_pos (num : Nat) {den : Nat} (hden : 0 < den) (e : Int) :
    0 < (unscale num den e).2 := by
  cases e with
  | ofNat k => exact Nat.mul_pos hden (Nat.pow_pos (by decide))
  | negSucc k => exact hden

theorem unscale_eq (num den : Nat) (e : Int) :
    ((unscale num den e).1 : ℚ) / (unscale num den e).2 = (num : ℚ) / den / 2 ^ e := by
  cases e with
  | ofNat k =>
    show (num : ℚ) / ((den * 2 ^ k : ℕ) : ℚ) = (num : ℚ) / den / 2 ^ (k : Int)
    push_cast
    rw [zpow_natCast, div_div]
  | negSucc k =>
    show ((num * 2 ^ (k + 1) : ℕ) : ℚ) / den = (num : ℚ) / den / 2 ^ (Int.negSucc k)
    push_cast
    rw [zpow_negSucc, div_inv_eq_mul, div_mul_eq_mul_div]

/-- A quotient is rounded to an integer that is at most half away, in units of the denominator. -/
theorem roundDiv_bounds (num : Nat) {den : Nat} (hden : 0 < den) :
    2 * num ≤ 2 * (den * roundDiv num den) + den ∧ 2 * (den * roundDiv num den) ≤ 2 * num + den := by
  have hsplit : den * (num / den) + num % den = num := Nat.div_add_mod num den
  have hrest : num % den < den := Nat.mod_lt num hden
  unfold roundDiv
  simp only [Bool.or_eq_true, decide_eq_true_eq, Bool.and_eq_true, beq_iff_eq]
  split
  · rw [Nat.mul_add_one]
    omega
  · omega

/-- Half-way between two integers the even one is taken. -/
theorem roundDiv_even {num den : Nat} (hden : 0 < den)
    (h : 2 * num = 2 * (den * roundDiv num den) + den ∨
      2 * (den * roundDiv num den) = 2 * num + den) : roundDiv num den % 2 = 0 := by
  have hsplit : den * (num / den) + num % den = num := Nat.div_add_mod num den
  have hrest : num % den < den := Nat.mod_lt num hden
  unfold roundDiv at h ⊢
  simp only [Bool.or_eq_true, decide_eq_true_eq, Bool.and_eq_true, beq_iff_eq] at h ⊢
  split
  · rename_i hup
    rw [if_pos hup, Nat.mul_add_one] at h
    omega
  · rename_i hdown
    rw [if_neg hdown] at h
    omega

theorem roundDiv_near (num : Nat) {den : Nat} (hden : 0 < den) :
    |(num : ℚ) / den - roundDiv num den| ≤ 1 / 2 ∧
      (|(num : ℚ) / den - roundDiv num den| = 1 / 2 → roundDiv num den % 2 = 0) := by
  have hpos : (0 : ℚ) < den := by exact_mod_cast hden
  have hscale : |(num : ℚ) / den - roundDiv num den| * (2 * den) =
      |2 * (num : ℚ) - 2 * (den * roundDiv num den)| := by
    rw [← abs_of_pos (show (0 : ℚ) < 2 * den by linarith), ← abs_mul]
    congr 1
    field_simp
  constructor
  · obtain ⟨habove, hbelow⟩ := roundDiv_bounds num hden
    have habove' : 2 * (num : ℚ) ≤ 2 * (den * roundDiv num den) + den := by exact_mod_cast habove
    have hbelow' : 2 * (den * roundDiv num den : ℚ) ≤ 2 * num + den := by exact_mod_cast hbelow
    have hdistance : |2 * (num : ℚ) - 2 * (den * roundDiv num den)| ≤ den := by
      rw [abs_le]
      constructor <;> linarith
    rw [← hscale] at hdistance
    nlinarith
  · intro hhalf
    apply roundDiv_even hden
    rw [hhalf] at hscale
    have hdistance : |2 * (num : ℚ) - 2 * (den * roundDiv num den)| = den := by linarith
    rcases (abs_eq hpos.le).1 hdistance with habove | hbelow
    · left
      have heq : 2 * (num : ℚ) = 2 * (den * roundDiv num den) + den := by linarith
      exact_mod_cast heq
    · right
      have heq : 2 * (den * roundDiv num den : ℚ) = 2 * num + den := by linarith
      exact_mod_cast heq

/-- A quotient is at least the power of two that its binade starts with. -/
theorem two_zpow_binade_le {num den : Nat} (hnum : 0 < num) (hden : 0 < den) :
    (2 : ℚ) ^ binade num den ≤ (num : ℚ) / den := by
  have hpos : (0 : ℚ) < den := by exact_mod_cast hden
  have hnumLog : (2 : ℚ) ^ (num.log2 : Int) ≤ num := by
    rw [zpow_natCast]
    exact_mod_cast Nat.log2_self_le hnum.ne'
  have hdenLog : (den : ℚ) ≤ 2 ^ ((den.log2 : Int) + 1) := by
    have hlt : den < 2 ^ (den.log2 + 1) := Nat.lt_log2_self
    rw [← Nat.cast_succ, zpow_natCast]
    exact_mod_cast hlt.le
  unfold binade
  simp only
  set e : Int := (num.log2 : Int) - den.log2 with he
  split
  · -- The logarithms alone are within one of the binade.
    rw [le_div_iff₀ hpos]
    calc (2 : ℚ) ^ (e - 1) * den ≤ 2 ^ (e - 1) * 2 ^ ((den.log2 : Int) + 1) :=
          mul_le_mul_of_nonneg_left hdenLog (two_zpow_pos _).le
      _ = 2 ^ (num.log2 : Int) := by
          rw [← zpow_add₀ (by norm_num)]
          congr 1
          omega
      _ ≤ num := hnumLog
  · rename_i hle
    have hscaled := unscale_eq num den e
    have hposScaled : (0 : ℚ) < (unscale num den e).2 := by exact_mod_cast unscale_den_pos num hden e
    have hone : (1 : ℚ) ≤ (unscale num den e).1 / (unscale num den e).2 := by
      rw [one_le_div hposScaled]
      exact_mod_cast not_lt.1 hle
    rw [hscaled, one_le_div (two_zpow_pos e)] at hone
    exact hone

/-- A quotient is below the power of two that the next binade starts with. -/
theorem lt_two_zpow_binade {num den : Nat} (hden : 0 < den) :
    (num : ℚ) / den < 2 ^ (binade num den + 1) := by
  have hpos : (0 : ℚ) < den := by exact_mod_cast hden
  have hnumLog : (num : ℚ) < 2 ^ ((num.log2 : Int) + 1) := by
    have hlt : num < 2 ^ (num.log2 + 1) := Nat.lt_log2_self
    rw [← Nat.cast_succ, zpow_natCast]
    exact_mod_cast hlt
  have hdenLog : (2 : ℚ) ^ (den.log2 : Int) ≤ den := by
    rw [zpow_natCast]
    exact_mod_cast Nat.log2_self_le hden.ne'
  unfold binade
  simp only
  set e : Int := (num.log2 : Int) - den.log2 with he
  split
  · rename_i hlt
    have hscaled := unscale_eq num den e
    have hposScaled : (0 : ℚ) < (unscale num den e).2 := by exact_mod_cast unscale_den_pos num hden e
    have hone : ((unscale num den e).1 : ℚ) / (unscale num den e).2 < 1 := by
      rw [div_lt_one hposScaled]
      exact_mod_cast hlt
    rw [hscaled, div_lt_one (two_zpow_pos e)] at hone
    rwa [Int.sub_add_cancel]
  · -- The logarithms alone are within one of the binade.
    rw [div_lt_iff₀ hpos]
    calc (num : ℚ) < 2 ^ ((num.log2 : Int) + 1) := hnumLog
      _ = 2 ^ (e + 1) * 2 ^ (den.log2 : Int) := by
          rw [← zpow_add₀ (by norm_num)]
          congr 1
          omega
      _ ≤ 2 ^ (e + 1) * den := mul_le_mul_of_nonneg_left hdenLog (two_zpow_pos _).le

/-! ## What a quotient is rounded to -/

/-- A mantissa and an exponent stand for a number to within half a unit of the last place, and for one
that is half-way between two multiples of this unit, the mantissa is even. The last place is that of 53
digits, but not below that of the subnormal numbers. -/
structure Rounds (q : ℚ) (mantissa : Nat) (exponent : Int) : Prop where
  near : |q - value mantissa exponent| ≤ 2 ^ exponent / 2
  even : |q - value mantissa exponent| = 2 ^ exponent / 2 → mantissa % 2 = 0
  least : leastExponent ≤ exponent
  normal : exponent = leastExponent ∨ 2 ^ (exponent + 52) ≤ q

/-- A quotient is rounded in its binade, and so to no more than 53 digits. -/
theorem ofRatio_rounds_below (negative : Bool) {num den : Nat} (hnum : 0 < num) (hden : 0 < den) :
    ∃ m e, ofRatio negative num den = ofRounded negative m e ∧ Rounds (num / den) m e ∧
      (num : ℚ) / den < 2 ^ (e + 53) := by
  set e := max (binade num den - 52) leastExponent with he
  set m := roundDiv (unscale num den e).1 (unscale num den e).2 with hm
  have hscale : |(num : ℚ) / den - value m e| = |(num : ℚ) / den / 2 ^ e - m| * 2 ^ e := by
    rw [← abs_of_pos (two_zpow_pos e), ← abs_mul, abs_of_pos (two_zpow_pos e), sub_mul,
      div_mul_cancel₀ _ (two_zpow_pos e).ne']
    rfl
  have hpos := two_zpow_pos e
  obtain ⟨hnear, heven⟩ := roundDiv_near (unscale num den e).1 (unscale_den_pos num hden e)
  rw [unscale_eq, ← hm] at hnear heven
  refine ⟨m, e, ?_, ⟨?_, fun hhalf => heven ?_, le_max_right _ _, ?_⟩, ?_⟩
  · unfold ofRatio
    rw [if_neg (by simp [hnum.ne', hden.ne'])]
  · rw [hscale]
    linarith [mul_le_mul_of_nonneg_right hnear hpos.le]
  · rw [hscale] at hhalf
    have hcancel : |(num : ℚ) / den / 2 ^ e - m| * 2 ^ e = 1 / 2 * 2 ^ e := by linarith
    exact mul_right_cancel₀ hpos.ne' hcancel
  · by_cases hclamped : binade num den - 52 ≤ leastExponent
    · exact .inl (max_eq_right hclamped)
    · right
      have heq : e = binade num den - 52 := max_eq_left (not_le.1 hclamped).le
      rw [heq, Int.sub_add_cancel]
      exact two_zpow_binade_le hnum hden
  · refine (lt_two_zpow_binade hden).trans_le (zpow_le_zpow_right₀ (by norm_num) ?_)
    omega

theorem ofRatio_rounds (negative : Bool) {num den : Nat} (hnum : 0 < num) (hden : 0 < den) :
    ∃ m e, ofRatio negative num den = ofRounded negative m e ∧ Rounds (num / den) m e := by
  obtain ⟨m, e, hrounded, hrounds, -⟩ := ofRatio_rounds_below negative hnum hden
  exact ⟨m, e, hrounded, hrounds⟩

/-- A carry into the next binade changes neither the number nor that the mantissa is even. -/
theorem ofRounded_eq_finite (negative : Bool) (m : Nat) {e : Int} (he : e < greatestExponent) :
    ∃ m' e', ofRounded negative m e = finite negative m' e' ∧ value m' e' = value m e ∧
      (m % 2 = 0 → m' % 2 = 0) := by
  unfold ofRounded
  split
  · rename_i hcarry
    rw [if_pos (by omega)]
    refine ⟨2 ^ 52, e + 1, rfl, ?_, fun _ => by decide⟩
    have hmantissa : m = 2 ^ 52 * 2 := hcarry
    rw [value_eq_of_le _ (show e ≤ e + 1 by omega), hmantissa, add_sub_cancel_left]
    rfl
  · rw [if_pos he.le]
    exact ⟨m, e, rfl, rfl, id⟩

/-! ## The nearest double -/

/-- The number is that of a double, apart from an upper bound on the exponent. -/
def IsRepresentable (w : ℚ) : Prop :=
  ∃ m e, m < mantissaBound ∧ leastExponent ≤ e ∧ w = value m e

/-- No double is nearer to a number, and if another is as near, the mantissa is even. -/
structure IsNearest (q : ℚ) (mantissa : Nat) (exponent : Int) : Prop where
  nearest {w : ℚ} (hw : IsRepresentable w) : |q - value mantissa exponent| ≤ |q - w|
  even {w : ℚ} (hw : IsRepresentable w) (hne : w ≠ value mantissa exponent)
    (hsame : |q - w| = |q - value mantissa exponent|) : mantissa % 2 = 0

theorem isRepresentable_two_zpow {e : Int} (he : leastExponent ≤ e) :
    IsRepresentable (2 ^ (e + 52)) :=
  ⟨2 ^ 52, e, by decide, he, (value_two_pow e).symm⟩

theorem isRepresentable_natCast {c : Nat} (hc : c ≤ mantissaBound) :
    IsRepresentable (c : ℚ) := by
  by_cases hlt : c < mantissaBound
  · exact ⟨c, 0, hlt, by decide, by simp [value]⟩
  · have hmax : c = 2 ^ 53 := le_antisymm hc (not_lt.1 hlt)
    refine ⟨2 ^ 52, 1, by decide, by decide, ?_⟩
    rw [hmax]
    norm_num [value]

namespace Rounds

variable {q : ℚ} {m : Nat} {e : Int}

/-- Another multiple of the unit is at least half a unit away, and no nearer. -/
theorem near_multiple (h : Rounds q m e) {k : Nat} (hk : k ≠ m) :
    |q - value m e| ≤ |q - value k e| ∧
      (|q - value k e| = |q - value m e| → |q - value m e| = 2 ^ e / 2) := by
  have hapart : (1 : ℚ) ≤ |(k : ℚ) - m| := by
    have hne : (k : Int) - m ≠ 0 := by omega
    exact_mod_cast Int.one_le_abs hne
  have hunit : 2 ^ e ≤ |value k e - value m e| := by
    unfold value
    rw [← sub_mul, abs_mul, abs_of_pos (two_zpow_pos e)]
    exact le_mul_of_one_le_left (two_zpow_pos e).le hapart
  have htriangle : |value k e - value m e| ≤ |q - value m e| + |q - value k e| := by
    rw [abs_sub_comm q (value k e), add_comm]
    exact abs_sub_le _ q _
  have hnear := h.near
  refine ⟨by linarith, fun hsame => le_antisymm hnear ?_⟩
  linarith

/-- A double is a multiple of the unit, or it lies below the binade of the number. -/
theorem multiple_or_below (h : Rounds q m e) {w : ℚ} (hw : IsRepresentable w) :
    (∃ k, w = value k e) ∨ w < value (2 ^ 52) e ∧ value (2 ^ 52) e ≤ q := by
  obtain ⟨m', e', hm', hleast, rfl⟩ := hw
  rcases le_or_gt e e' with hle | hlt
  · exact .inl ⟨_, value_eq_of_le m' hle⟩
  · right
    rw [value_two_pow]
    refine ⟨?_, h.normal.resolve_left (by omega)⟩
    have hbound : (m' : ℚ) < 2 ^ (53 : Int) := by
      have hlt' : m' < 2 ^ 53 := hm'
      exact_mod_cast hlt'
    calc value m' e' < 2 ^ (53 : Int) * 2 ^ e' := mul_lt_mul_of_pos_right hbound (two_zpow_pos e')
      _ = 2 ^ (53 + e') := (zpow_add₀ (by norm_num) _ _).symm
      _ ≤ 2 ^ (e + 52) := zpow_le_zpow_right₀ (by norm_num) (by omega)

/-- **Rounding is to the nearest double**, and half-way to the one with the even mantissa. -/
theorem isNearest (h : Rounds q m e) : IsNearest q m e := by
  have hmultiple (k : Nat) : |q - value m e| ≤ |q - value k e| := by
    by_cases hk : k = m
    · rw [hk]
    · exact (h.near_multiple hk).1
  constructor
  · intro w hw
    rcases h.multiple_or_below hw with ⟨k, rfl⟩ | ⟨hlt, hle⟩
    · exact hmultiple k
    · have hstart := hmultiple (2 ^ 52)
      rw [abs_of_nonneg (sub_nonneg.2 hle)] at hstart
      rw [abs_of_nonneg (show 0 ≤ q - w by linarith)]
      linarith
  · intro w hw hne hsame
    apply h.even
    rcases h.multiple_or_below hw with ⟨k, rfl⟩ | ⟨hlt, hle⟩
    · have hk : k ≠ m := by
        rintro rfl
        exact hne rfl
      exact (h.near_multiple hk).2 hsame
    · -- The start of the binade would be nearer still.
      have hstart := hmultiple (2 ^ 52)
      rw [abs_of_nonneg (sub_nonneg.2 hle)] at hstart
      rw [abs_of_nonneg (show 0 ≤ q - w by linarith)] at hsame
      linarith

/-- Rounding up crosses no double. -/
theorem value_le (h : Rounds q m e) {w : ℚ} (hw : IsRepresentable w) (hq : q ≤ w) :
    value m e ≤ w := by
  have hnearest := h.isNearest.nearest hw
  rw [abs_of_nonpos (show q - w ≤ 0 by linarith)] at hnearest
  have hup := neg_abs_le (q - value m e)
  linarith

/-- Rounding down crosses no double. -/
theorem le_value (h : Rounds q m e) {w : ℚ} (hw : IsRepresentable w) (hq : w ≤ q) :
    w ≤ value m e := by
  have hnearest := h.isNearest.nearest hw
  rw [abs_of_nonneg (show 0 ≤ q - w by linarith)] at hnearest
  have hdown := le_abs_self (q - value m e)
  linarith

/-! ## Quotients of integers -/

variable {a b : Nat}

/-- Near a quotient of integers up to `2 ^ 53`, a unit of the last place is less than twice the least
distance between such a quotient and an integer. -/
theorem unit_mul_lt {j : Nat} (h : Rounds ((a : ℚ) / b) m e) (hb : 0 < b) (ha : a ≤ mantissaBound)
    (hj : 1 ≤ j) (hlow : j * b < a) (hvalue : value m e ≤ j) : 2 ^ e * (b : ℚ) < 2 := by
  have hpos : (0 : ℚ) < b := by exact_mod_cast hb
  have hbound : (j : ℚ) * b < 2 ^ 53 := by
    have hlt : j * b < 2 ^ 53 := lt_of_lt_of_le hlow ha
    exact_mod_cast hlt
  rcases h.normal with hleast | hnormal
  · have hone : (1 : ℚ) ≤ j := by exact_mod_cast hj
    have hsmall : (b : ℚ) < 2 ^ 53 := lt_of_le_of_lt (le_mul_of_one_le_left hpos.le hone) hbound
    have htiny : (2 : ℚ) ^ e ≤ 2 ^ (-53 : Int) := by
      rw [hleast]
      exact zpow_le_zpow_right₀ (by norm_num) (by decide)
    calc (2 : ℚ) ^ e * b ≤ 2 ^ (-53 : Int) * b := mul_le_mul_of_nonneg_right htiny hpos.le
      _ < 2 ^ (-53 : Int) * 2 ^ 53 := mul_lt_mul_of_pos_left hsmall (two_zpow_pos _)
      _ < 2 := by norm_num
  · -- The binade starts at a double, so not above the integer that the quotient was rounded to.
    have hbinade : (2 : ℚ) ^ (e + 52) ≤ j :=
      (h.le_value (isRepresentable_two_zpow h.least) hnormal).trans hvalue
    have hscaled : (2 : ℚ) ^ (e + 52) * b ≤ j * b := mul_le_mul_of_nonneg_right hbinade hpos.le
    rw [zpow_add₀ (by norm_num)] at hscaled
    norm_num at hscaled hbound ⊢
    linarith

/-- A quotient of integers up to `2 ^ 53` that is above a positive integer is not rounded to it. -/
theorem natCast_lt {j : Nat} (h : Rounds ((a : ℚ) / b) m e) (hb : 0 < b) (ha : a ≤ mantissaBound)
    (hj : 1 ≤ j) (hlow : j * b < a) : (j : ℚ) < value m e := by
  by_contra hvalue
  have hpos : (0 : ℚ) < b := by exact_mod_cast hb
  have hunit := h.unit_mul_lt hb ha hj hlow (not_lt.1 hvalue)
  have hstep : (j : ℚ) * b + 1 ≤ a := by exact_mod_cast hlow
  have hquotient : (a : ℚ) / b * b = a := div_mul_cancel₀ _ hpos.ne'
  have hdistance : (a : ℚ) / b - value m e ≤ 2 ^ e / 2 := (le_abs_self _).trans h.near
  have hscaled : ((a : ℚ) / b - j) * b ≤ 2 ^ e / 2 * b :=
    mul_le_mul_of_nonneg_right (by linarith) hpos.le
  rw [sub_mul, hquotient] at hscaled
  linarith

/-- The integer above a positive quotient is that above its double, except that a tiny quotient may be
rounded to zero. -/
theorem max_ceil (h : Rounds ((a : ℚ) / b) m e) (hb : 0 < b) (ha : 0 < a) (hmax : a ≤ mantissaBound) :
    max 1 ⌈value m e⌉ = max 1 ⌈(a : ℚ) / b⌉ := by
  have hpos : (0 : ℚ) < b := by exact_mod_cast hb
  have hquotient : (0 : ℚ) < (a : ℚ) / b := div_pos (by exact_mod_cast ha) hpos
  obtain ⟨c, hc⟩ : ∃ c : Nat, ⌈(a : ℚ) / b⌉ = c + 1 :=
    ⟨(⌈(a : ℚ) / b⌉ - 1).toNat, by have := Int.ceil_pos.2 hquotient; omega⟩
  obtain ⟨hlow, hhigh⟩ := Int.ceil_eq_iff.1 hc
  push_cast at hlow hhigh
  rw [add_sub_cancel_right, lt_div_iff₀ hpos] at hlow
  have hlow' : c * b < a := by exact_mod_cast hlow
  have hbound : c + 1 ≤ mantissaBound := by
    have hle : c ≤ c * b := Nat.le_mul_of_pos_right c hb
    omega
  have hup : ⌈value m e⌉ ≤ c + 1 := by
    rw [Int.ceil_le]
    push_cast
    exact h.value_le (by exact_mod_cast isRepresentable_natCast hbound) hhigh
  rw [hc]
  rcases Nat.eq_zero_or_pos c with rfl | hcpos
  · omega
  · have hdown : (c : Int) < ⌈value m e⌉ := by
      rw [Int.lt_ceil]
      exact_mod_cast h.natCast_lt hb hmax hcpos hlow'
    omega

theorem exponent_lt (h : Rounds q m e) (hq : q ≤ mantissaBound) : e < greatestExponent := by
  rcases h.normal with hleast | hnormal
  · rw [hleast]
    decide
  · have hpow : (2 : ℚ) ^ (e + 52) ≤ 2 ^ (53 : Int) := by
      refine hnormal.trans (hq.trans_eq ?_)
      norm_num [mantissaBound]
    have hle := (zpow_le_zpow_iff_right₀ (by norm_num)).1 hpow
    unfold greatestExponent
    omega

end Rounds

/-! ## The integer above -/

theorem magnitude_den_pos (m : Nat) (e : Int) : 0 < (magnitude m e).2 := by
  cases e with
  | ofNat k => exact Nat.one_pos
  | negSucc k => exact Nat.pow_pos (by decide)

theorem magnitude_eq (m : Nat) (e : Int) :
    ((magnitude m e).1 : ℚ) / (magnitude m e).2 = value m e := by
  cases e with
  | ofNat k =>
    show ((m * 2 ^ k : ℕ) : ℚ) / ((1 : ℕ) : ℚ) = (m : ℚ) * 2 ^ (k : Int)
    push_cast
    rw [zpow_natCast, div_one]
  | negSucc k =>
    show (m : ℚ) / ((2 ^ (k + 1) : ℕ) : ℚ) = (m : ℚ) * 2 ^ (Int.negSucc k)
    push_cast
    rw [zpow_negSucc, div_eq_mul_inv]

theorem natCast_add_sub_one_div (n : Nat) {d : Nat} (hd : 0 < d) :
    (((n + d - 1) / d : ℕ) : Int) = ⌈(n : ℚ) / d⌉ := by
  have hpos : (0 : ℚ) < d := by exact_mod_cast hd
  have hlow : d * ((n + d - 1) / d) ≤ n + d - 1 := Nat.mul_div_le _ _
  have hhigh : n + d - 1 < d * ((n + d - 1) / d) + d := Nat.lt_mul_div_succ _ hd
  symm
  rw [Int.ceil_eq_iff]
  constructor
  · have hlow' : d * ((n + d - 1) / d) < n + d := by omega
    rw [lt_div_iff₀ hpos, sub_mul, sub_lt_iff_lt_add, mul_comm, one_mul]
    exact_mod_cast hlow'
  · have hhigh' : n ≤ d * ((n + d - 1) / d) := by omega
    rw [div_le_iff₀ hpos, mul_comm]
    exact_mod_cast hhigh'

theorem ceiling?_finite (m : Nat) (e : Int) :
    (finite false m e).ceiling? = some ⌈value m e⌉ := by
  rw [← magnitude_eq, ← natCast_add_sub_one_div _ (magnitude_den_pos m e)]
  rfl

/-! ## Quotients up to `2 ^ 53` -/

/-- Such a quotient has a nearest double, and both have the same integer above them, from one on. -/
theorem quotient?_eq_ok {a b : Int} (ha : 0 ≤ a) (hmax : a ≤ mantissaBound) (hb : 1 ≤ b) :
    ∃ m e, quotient? a b = .ok (finite false m e) ∧ IsNearest ((a : ℚ) / b) m e ∧
      max 1 ⌈value m e⌉ = max 1 ⌈(a : ℚ) / b⌉ := by
  obtain ⟨a, rfl⟩ := Int.eq_ofNat_of_zero_le ha
  obtain ⟨b, rfl⟩ := Int.eq_ofNat_of_zero_le (show 0 ≤ b by omega)
  have hb' : 0 < b := by omega
  have hratio {m : Nat} {e : Int} (h : ofRatio false a b = finite false m e) :
      quotient? a b = .ok (finite false m e) := by
    have hsign : (decide ((a : Int) < 0) != decide ((b : Int) < 0)) = false := by
      rw [decide_eq_false (show ¬ (a : Int) < 0 by omega),
        decide_eq_false (show ¬ (b : Int) < 0 by omega)]
      rfl
    unfold quotient?
    rw [if_neg (show (b : Int) ≠ 0 by omega), hsign, Int.natAbs_natCast, Int.natAbs_natCast, h]
  simp only [Int.cast_natCast]
  rcases Nat.eq_zero_or_pos a with rfl | hpos
  · refine ⟨0, leastExponent, hratio rfl, ⟨fun _ => ?_, fun _ _ _ => rfl⟩, ?_⟩
    · simp [value]
    · simp [value]
  · obtain ⟨m, e, hrounded, hrounds⟩ := ofRatio_rounds false hpos hb'
    have hquotient : (a : ℚ) / b ≤ mantissaBound := by
      have hone : (1 : ℚ) ≤ b := by exact_mod_cast hb'
      exact (div_le_self (Nat.cast_nonneg a) hone).trans (by exact_mod_cast hmax)
    obtain ⟨m', e', hfinite, hvalue, heven⟩ :=
      ofRounded_eq_finite false m (hrounds.exponent_lt hquotient)
    have hnearest := hrounds.isNearest
    refine ⟨m', e', ?_, ⟨?_, fun hw hne hsame => heven ?_⟩, ?_⟩
    · exact hratio (hrounded.trans hfinite)
    · rw [hvalue]
      exact hnearest.nearest
    · rw [hvalue] at hne hsame
      exact hnearest.even hw hne hsame
    · rw [hvalue]
      exact hrounds.max_ceil hb' hpos (by exact_mod_cast hmax)

end QueryPlans.Double
