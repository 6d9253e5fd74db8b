import QueryPlans.Proofs.Number.Constants
import QueryPlans.Proofs.Number.Rounding

/-!
# Numbers that are too large for a double

A number is rounded to an infinity if it is nearer to `2 ^ 1024` than to the greatest double, or as near.

* `Double.overflowBound` — the least number that is rounded to an infinity.

Principal results: `ofRatio_isFinite_iff`, `ofDecimal_isFinite_iff` — which quotients, and which decimals,
have a double that is a number.
-/

namespace QueryPlans.Double

variable {q : ℚ} {m : Nat} {e : Int}

/-- Half-way between the greatest double and the next power of two. -/
def overflowBound : ℚ := (2 ^ 54 - 1) * 2 ^ (970 : Int)

theorem ofRounded_isFinite_iff (negative : Bool) (m : Nat) (e : Int) :
    (ofRounded negative m e).IsFinite ↔
      e < greatestExponent ∨ e = greatestExponent ∧ m ≠ mantissaBound := by
  unfold ofRounded
  split
  · rename_i hcarry
    split
    · exact iff_of_true ⟨_, _, _, rfl⟩ (.inl (by omega))
    · exact iff_of_false (not_isFinite_infinity negative) (by omega)
  · rename_i hcarry
    split
    · rename_i hle
      refine iff_of_true ⟨_, _, _, rfl⟩ ?_
      rcases Int.lt_or_eq_of_le hle with hlt | heq
      · exact .inl hlt
      · exact .inr ⟨heq, hcarry⟩
    · exact iff_of_false (not_isFinite_infinity negative) (by omega)

/-- Powers of two in units of half the last place of the greatest double. -/
theorem two_zpow_units (k : Nat) : (2 : ℚ) ^ ((970 + k : Nat) : Int) = 2 ^ k * 2 ^ (970 : Int) := by
  rw [Nat.cast_add, zpow_add₀ (by norm_num), zpow_natCast, mul_comm]
  rfl

theorem overflowBound_bounds :
    (2 : ℚ) ^ (1023 : Int) ≤ overflowBound ∧ overflowBound < 2 ^ (1024 : Int) := by
  have hunit := two_zpow_pos 970
  have hlow := two_zpow_units 53
  have hhigh := two_zpow_units 54
  unfold overflowBound
  rw [show (1023 : Int) = ((970 + 53 : Nat) : Int) from rfl, hlow,
    show (1024 : Int) = ((970 + 54 : Nat) : Int) from rfl, hhigh]
  clear hlow hhigh
  generalize (2 : ℚ) ^ (970 : Int) = u at hunit ⊢
  constructor <;> linarith

/-- In the last binade the half-way mark is rounded up, as its lower neighbour is odd. Here `u` is half
the last place. -/
theorem lt_halfWay_iff {u : ℚ} (hu : 0 < u) (hlow : -u ≤ q - m * (2 * u)) (hhigh : q - m * (2 * u) ≤ u)
    (heven : |q - m * (2 * u)| = u → m % 2 = 0) (hq : q < 2 ^ 54 * u) :
    q < (2 ^ 54 - 1) * u ↔ m ≠ 2 ^ 53 := by
  have hdouble : 0 < 2 * u := by linarith
  constructor
  · rintro hlt rfl
    push_cast at hlow
    linarith
  · intro hne
    by_contra hge
    rw [not_lt] at hge
    have hmin : ((2 ^ 53 - 1 : ℕ) : ℚ) ≤ m := by
      refine le_of_mul_le_mul_right ?_ hdouble
      norm_num
      linarith
    have hmax : (m : ℚ) < ((2 ^ 53 + 1 : ℕ) : ℚ) := by
      refine lt_of_mul_lt_mul_right ?_ hdouble.le
      norm_num
      linarith
    have hmin' : 2 ^ 53 - 1 ≤ m := by exact_mod_cast hmin
    have hmax' : m < 2 ^ 53 + 1 := by exact_mod_cast hmax
    obtain rfl : m = 2 ^ 53 - 1 := by omega
    norm_num at hhigh heven hge
    have hmark : |q - 9007199254740991 * (2 * u)| = u := by
      rw [abs_of_nonneg (by linarith)]
      linarith
    exact heven hmark

/-- What is rounded to a number is below the bound, and nothing else is. -/
theorem Rounds.isFinite_iff (h : Rounds q m e) (hq : q < 2 ^ (e + 53)) (negative : Bool) :
    (ofRounded negative m e).IsFinite ↔ q < overflowBound := by
  have hunit := two_zpow_pos 970
  have hlast : (2 : ℚ) ^ (971 : Int) = 2 * 2 ^ (970 : Int) := by simpa using two_zpow_units 1
  have hnext : (2 : ℚ) ^ (1024 : Int) = 2 ^ 54 * 2 ^ (970 : Int) := two_zpow_units 54
  obtain ⟨hmin, hmax⟩ := overflowBound_bounds
  rw [ofRounded_isFinite_iff]
  rcases lt_trichotomy e greatestExponent with hlt | heq | hgt
  · refine iff_of_true (.inl hlt) (hq.trans_le (le_trans ?_ hmin))
    refine zpow_le_zpow_right₀ (by norm_num) ?_
    unfold greatestExponent at hlt
    omega
  · subst heq
    have hvalue : value m greatestExponent = m * (2 * 2 ^ (970 : Int)) := by
      rw [← hlast]
      rfl
    have hhalf : (2 : ℚ) ^ greatestExponent / 2 = 2 ^ (970 : Int) := by
      rw [show greatestExponent = 971 from rfl, hlast]
      ring
    have hnear := h.near
    have heven := h.even
    rw [hvalue, hhalf] at hnear heven
    rw [show greatestExponent + 53 = 1024 from rfl, hnext] at hq
    have hmark := lt_halfWay_iff hunit (abs_le.1 hnear).1 (abs_le.1 hnear).2 heven hq
    unfold overflowBound
    rw [hmark]
    simp [mantissaBound]
  · refine iff_of_false (by omega) (not_lt.2 (hmax.le.trans ?_))
    have hnormal : (2 : ℚ) ^ (e + 52) ≤ q := by
      refine h.normal.resolve_left ?_
      rintro rfl
      exact absurd hgt (by decide)
    refine le_trans (zpow_le_zpow_right₀ (by norm_num) ?_) hnormal
    unfold greatestExponent at hgt
    omega

/-! ## Quotients and decimals -/

theorem overflowBound_pos : 0 < overflowBound := (two_zpow_pos 1023).trans_le overflowBound_bounds.1

theorem ofRatio_isFinite_iff (negative : Bool) (num : Nat) {den : Nat} (hden : 0 < den) :
    (ofRatio negative num den).IsFinite ↔ (num : ℚ) / den < overflowBound := by
  rcases Nat.eq_zero_or_pos num with rfl | hnum
  · refine iff_of_true ⟨_, _, _, rfl⟩ ?_
    simpa using overflowBound_pos
  · obtain ⟨m, e, hrounded, hrounds, hbelow⟩ := ofRatio_rounds_below negative hnum hden
    rw [hrounded]
    exact hrounds.isFinite_iff hbelow negative

/-- A number is between the powers of ten that its digits allow. -/
theorem digitCount_bounds {digits : Nat} (h : 0 < digits) :
    10 ^ (digitCount digits - 1) ≤ digits ∧ digits < 10 ^ digitCount digits := by
  have hpos : 0 < digitCount digits := Nat.length_toDigits_pos
  refine ⟨?_, (Nat.length_toDigits_le_iff (by decide) hpos).1 le_rfl⟩
  rcases Nat.eq_zero_or_pos (digitCount digits - 1) with hone | hmore
  · rw [hone]
    exact h
  · rw [← not_lt]
    intro hlt
    have hshort : digitCount digits ≤ digitCount digits - 1 :=
      (Nat.length_toDigits_le_iff (by decide) hmore).2 hlt
    omega

theorem overflowBound_le_ten_zpow : overflowBound ≤ (10 : ℚ) ^ (310 : Int) := by
  have hpow : (2 ^ 1024 : ℕ) ≤ 10 ^ 310 := by decide +kernel
  have hcast : (2 : ℚ) ^ (1024 : ℕ) ≤ 10 ^ (310 : ℕ) := by exact_mod_cast hpow
  refine overflowBound_bounds.2.le.trans ?_
  rw [← zpow_natCast, ← zpow_natCast] at hcast
  exact hcast

/-- The size of a decimal: it is between the powers of ten below and at it. -/
theorem decimal_bounds {digits : Nat} (h : 0 < digits) (e : Int) :
    (10 : ℚ) ^ (e + digitCount digits - 1) ≤ digits * 10 ^ e ∧
      (digits : ℚ) * 10 ^ e < 10 ^ (e + digitCount digits) := by
  have hpos : 0 < digitCount digits := Nat.length_toDigits_pos
  have hscale : (0 : ℚ) < 10 ^ e := zpow_pos (by norm_num) e
  obtain ⟨hlow, hhigh⟩ := digitCount_bounds h
  constructor
  · have hexponent : e + digitCount digits - 1 = ((digitCount digits - 1 : ℕ) : Int) + e := by omega
    rw [hexponent, zpow_add₀ (by norm_num), zpow_natCast]
    exact mul_le_mul_of_nonneg_right (by exact_mod_cast hlow) hscale.le
  · rw [add_comm, zpow_add₀ (by norm_num), zpow_natCast]
    exact mul_lt_mul_of_pos_right (by exact_mod_cast hhigh) hscale

/-- A decimal has a double that is a number if it is below the bound. -/
theorem ofDecimal_isFinite_iff (negative : Bool) (digits : Nat) (e : Int) :
    (ofDecimal negative digits e).IsFinite ↔ (digits : ℚ) * 10 ^ e < overflowBound := by
  rcases Nat.eq_zero_or_pos digits with rfl | hdigits
  · refine iff_of_true ⟨_, _, _, rfl⟩ ?_
    simpa using overflowBound_pos
  obtain ⟨hlow, hhigh⟩ := decimal_bounds hdigits e
  unfold ofDecimal
  rw [if_neg hdigits.ne']
  simp only
  split
  · -- Too large for any double, by its size alone.
    rename_i hlarge
    refine iff_of_false (not_isFinite_infinity negative) (not_lt.2 ?_)
    refine overflowBound_le_ten_zpow.trans (le_trans ?_ hlow)
    exact zpow_le_zpow_right₀ (by norm_num) (by omega)
  · split
    · rename_i hsmall
      refine iff_of_true ⟨_, _, _, rfl⟩ (hhigh.trans_le ?_)
      have hone : (10 : ℚ) ^ (e + digitCount digits) ≤ 2 ^ (1023 : Int) :=
        (zpow_le_one_of_nonpos₀ (by norm_num) (by omega)).trans (one_le_zpow₀ (by norm_num) (by decide))
      exact hone.trans overflowBound_bounds.1
    · cases e with
      | ofNat k =>
        simp only
        rw [ofRatio_isFinite_iff negative _ Nat.one_pos]
        have hvalue : ((digits * Nat.pow 10 k : ℕ) : ℚ) / ((1 : ℕ) : ℚ) =
            digits * 10 ^ (Int.ofNat k) := by
          show ((digits * 10 ^ k : ℕ) : ℚ) / ((1 : ℕ) : ℚ) = digits * 10 ^ (k : Int)
          push_cast
          rw [zpow_natCast, div_one]
        rw [hvalue]
      | negSucc k =>
        have hden : 0 < Nat.pow 10 (k + 1) := Nat.pow_pos (by decide)
        simp only
        rw [ofRatio_isFinite_iff negative _ hden]
        have hvalue : (digits : ℚ) / ((Nat.pow 10 (k + 1) : ℕ) : ℚ) =
            digits * 10 ^ (Int.negSucc k) := by
          show (digits : ℚ) / ((10 ^ (k + 1) : ℕ) : ℚ) = digits * 10 ^ (Int.negSucc k)
          push_cast
          rw [zpow_negSucc, div_eq_mul_inv]
        rw [hvalue]

end QueryPlans.Double
