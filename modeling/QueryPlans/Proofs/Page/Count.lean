import QueryPlans.Page
import QueryPlans.Proofs.Number.Rounding

/-!
# How many pages a total fills

The number of pages is found by way of a double.  For totals up to `2 ^ 53`, rounding the quotient of
total and page size makes no difference, however large the page size is.

* `Page.countFor` — the number of pages in exact arithmetic.

Principal results: `pagesFor_eq_ok` — the number by way of the double is the exact one;
`le_countFor_mul` and `pred_countFor_mul_lt` — so many pages hold the total, and fewer do not;
`totalPages_exact` — the number of pages of a page with a total.
-/

namespace QueryPlans.Page

/-- The number of pages that a total fills, in exact arithmetic; at least one. -/
def countFor (total limit : Int) : Int := max 1 ⌈(total : ℚ) / limit⌉

variable {total limit : Int}

theorem one_le_countFor : 1 ≤ countFor total limit := le_max_left _ _

/-- A page other than the first counts if the pages before it do not hold the total. -/
theorem le_countFor_iff (hlimit : 1 ≤ limit) {number : Int} (hnumber : 1 < number) :
    number ≤ countFor total limit ↔ (number - 1) * limit < total := by
  have hpos : (0 : ℚ) < limit := by exact_mod_cast hlimit
  have hcount : number ≤ countFor total limit ↔ number - 1 < ⌈(total : ℚ) / limit⌉ := by
    unfold countFor
    rw [le_max_iff]
    omega
  rw [hcount, Int.lt_ceil, lt_div_iff₀ hpos]
  exact_mod_cast Iff.rfl

/-- The pages hold the total. -/
theorem le_countFor_mul (hlimit : 1 ≤ limit) : total ≤ countFor total limit * limit := by
  have hone : 1 ≤ countFor total limit := one_le_countFor
  have hnext : countFor total limit + 1 ≤ countFor total limit ↔
      (countFor total limit + 1 - 1) * limit < total := le_countFor_iff hlimit (by omega)
  rw [Int.add_sub_cancel] at hnext
  by_contra hlt
  have habove := hnext.2 (by omega)
  omega

/-- One page less does not hold the total. -/
theorem pred_countFor_mul_lt (hlimit : 1 ≤ limit) (htotal : 1 ≤ total) :
    (countFor total limit - 1) * limit < total := by
  rcases one_le_countFor.eq_or_lt with hone | hmore
  · rw [← hone]
    omega
  · exact (le_countFor_iff hlimit hmore).1 le_rfl

/-- The double of the quotient has the exact number of pages above it. -/
theorem pagesFor_eq_ok (h0 : 0 ≤ total) (hmax : total ≤ 2 ^ 53) (hlimit : 1 ≤ limit) :
    ∃ m e, Double.quotient? total limit = .ok (.finite false m e) ∧
      Double.IsNearest ((total : ℚ) / limit) m e ∧
      pagesFor total limit = .ok (max 1 ⌈Double.value m e⌉) ∧
      max 1 ⌈Double.value m e⌉ = countFor total limit := by
  obtain ⟨m, e, hquotient, hnearest, hceil⟩ := Double.quotient?_eq_ok h0 hmax hlimit
  refine ⟨m, e, hquotient, hnearest, ?_, hceil⟩
  unfold pagesFor
  rw [hquotient]
  show Except.ok (max 1 ((Double.ceiling? (.finite false m e)).getD 0)) = _
  rw [Double.ceiling?_finite]
  rfl

/-- **The number of pages is exact.** For a total up to `2 ^ 53` and any page size the quotient has a
nearest double, and the number of pages that is found by way of it is the exact one: so many pages hold
the total, and one page less does not. -/
theorem totalPages_exact (p : Page) (total : Int) (htotal : p.total = some total) (h0 : 0 ≤ total)
    (hmax : total ≤ 2 ^ 53) (hlimit : 1 ≤ p.limit) :
    ∃ m e n, Double.quotient? total p.limit = .ok (.finite false m e) ∧
      Double.IsNearest ((total : ℚ) / p.limit) m e ∧
      n = max 1 ⌈Double.value m e⌉ ∧ p.totalPages = .ok (some n) ∧
      n = max 1 ⌈(total : ℚ) / p.limit⌉ ∧
      total ≤ n * p.limit ∧ (1 ≤ total → (n - 1) * p.limit < total) := by
  obtain ⟨m, e, hquotient, hnearest, hpages, hcount⟩ := pagesFor_eq_ok h0 hmax hlimit
  refine ⟨m, e, countFor total p.limit, hquotient, hnearest, hcount.symm, ?_, rfl,
    le_countFor_mul hlimit, pred_countFor_mul_lt hlimit⟩
  unfold totalPages
  rw [htotal]
  show (pagesFor total p.limit).map some = _
  rw [hpages, hcount]
  rfl

/-- The largest odd total fills one page more than half of it, though it takes all digits of a double
to tell the quotient from the integer below. -/
theorem totalPages_exact_odd :
    ∃ m e n, Double.quotient? (2 ^ 53 - 1) 2 = .ok (.finite false m e) ∧
      Double.IsNearest (((2 ^ 53 - 1 : Int) : ℚ) / (2 : Int)) m e ∧
      n = max 1 ⌈Double.value m e⌉ ∧
      (Page.mk 1 2 2 (some (2 ^ 53 - 1))).totalPages = .ok (some n) ∧
      n = max 1 ⌈((2 ^ 53 - 1 : Int) : ℚ) / (2 : Int)⌉ ∧
      2 ^ 53 - 1 ≤ n * 2 ∧ ((1 : Int) ≤ 2 ^ 53 - 1 → (n - 1) * 2 < 2 ^ 53 - 1) :=
  totalPages_exact ⟨1, 2, 2, some (2 ^ 53 - 1)⟩ (2 ^ 53 - 1) rfl (by decide) (by decide) (by decide)

end QueryPlans.Page
