import QueryPlans.Proofs.Number.Written
import QueryPlans.Proofs.Page.Count
import QueryPlans.Proofs.Plan.Turns

/-!
# Which rows the pages show

A result that does not change is shown page by page.  Every page names the rows on it, and together the
pages name every row once.

* `Page.ofTotal` — the page with a number of a result with so many rows.
* `Page.rows` — the rows that a page names.
* `Page.Agrees` — what a page says agrees with the total and with the page after it.
* `Plan.SeesTotal` — the answers to a plan are those of a result of a length.

Principal results: `rowCount_ofTotal` — the rows of a page are those that the result has there;
`mem_rows_ofTotal` — which rows these are; `status_ofTotal` — the status line; `agrees_ofTotal` — every
page of a total up to `2 ^ 53` agrees with it; `execute_page` — a plan that is run ends with such a page;
`ranges_partition` — the rows of the pages are a partition.
-/

namespace QueryPlans

namespace Page

open Numeral (IsWritable)

/-- The page with a number of a result with `total` rows: as many rows as the limit, if so many are
left. -/
def ofTotal (total limit number : Int) : Page :=
  ⟨number, limit, min limit (max 0 (total - (number - 1) * limit)), some total⟩

/-- The rows that the page names, counted from one. -/
def rows (p : Page) : Set Int := {row | p.rowCount ≠ 0 ∧ p.firstRow ≤ row ∧ row ≤ p.lastRow}

/-- The first and the last row of a page, as they are written. -/
def rangeText (p : Page) : String :=
  "Rows " ++ Numeral.text p.firstRow ++ "–" ++ Numeral.text p.lastRow

/-- The status line with these numbers. -/
def statusLine (number pages : Int) (rows : String) (total : Int) : String :=
  "Page " ++ Numeral.text number ++ "/" ++ Numeral.text pages ++ "  |  " ++ rows ++ " of " ++
    Numeral.text total

/-! ## Rows of a page -/

section
variable {total limit number row : Int}

/-- As many rows are delivered as are taken when the rows before the page are dropped. -/
theorem rowCount_ofTotal {α : Type} (result : List α) (hlimit : 0 ≤ limit) (hnumber : 1 ≤ number) :
    (ofTotal result.length limit number).rowCount =
      ((result.drop ((number - 1) * limit).toNat).take limit.toNat).length := by
  have hoffset : 0 ≤ (number - 1) * limit := Int.mul_nonneg (by omega) hlimit
  rw [List.length_take, List.length_drop]
  show min limit (max 0 (_ - _)) = _
  omega

theorem mul_eq_offset_add : number * limit = (number - 1) * limit + limit := by
  rw [Int.sub_mul, Int.one_mul]
  omega

theorem rowCount_nonneg (hlimit : 1 ≤ limit) : 0 ≤ (ofTotal total limit number).rowCount := by
  show 0 ≤ min limit (max 0 (total - (number - 1) * limit))
  omega

theorem rowCount_pos_iff (hlimit : 1 ≤ limit) :
    0 < (ofTotal total limit number).rowCount ↔ (number - 1) * limit < total := by
  show 0 < min limit (max 0 (total - (number - 1) * limit)) ↔ _
  omega

theorem firstRow_ofTotal (h : 0 < (ofTotal total limit number).rowCount) :
    (ofTotal total limit number).firstRow = (number - 1) * limit + 1 := by
  unfold firstRow
  rw [if_neg h.ne']
  rfl

theorem lastRow_ofTotal (hlimit : 1 ≤ limit) (h : 0 < (ofTotal total limit number).rowCount) :
    (ofTotal total limit number).lastRow = min (number * limit) total := by
  rw [rowCount_pos_iff hlimit] at h
  have hend : number * limit = (number - 1) * limit + limit := mul_eq_offset_add
  show (number - 1) * limit + min limit (max 0 (total - (number - 1) * limit)) = _
  omega

theorem mem_rows_ofTotal (hlimit : 1 ≤ limit) :
    row ∈ (ofTotal total limit number).rows ↔
      (number - 1) * limit < row ∧ row ≤ number * limit ∧ row ≤ total := by
  constructor
  · rintro ⟨hcount, hfirst, hlast⟩
    have hpos := lt_of_le_of_ne (rowCount_nonneg hlimit) hcount.symm
    rw [firstRow_ofTotal hpos] at hfirst
    rw [lastRow_ofTotal hlimit hpos] at hlast
    omega
  · rintro ⟨hfirst, hlast, htotal⟩
    have hpos : 0 < (ofTotal total limit number).rowCount := by
      rw [rowCount_pos_iff hlimit]
      omega
    refine ⟨hpos.ne', ?_, ?_⟩
    · rw [firstRow_ofTotal hpos]
      omega
    · rw [lastRow_ofTotal hlimit hpos]
      omega

/-- The number of the page follows from the row. -/
theorem mem_rows_iff (hlimit : 1 ≤ limit) :
    row ∈ (ofTotal total limit number).rows ↔ number = (row - 1) / limit + 1 ∧ row ≤ total := by
  have hpage : (row - 1) / limit = number - 1 ↔
      (number - 1) * limit < row ∧ row ≤ number * limit := by
    rw [Int.ediv_eq_iff_of_pos (by omega), ← mul_eq_offset_add]
    omega
  rw [mem_rows_ofTotal hlimit, ← and_assoc, ← hpage]
  omega

/-- A page has rows if it is one of the pages that the total fills. -/
theorem rowCount_pos_iff_le (h0 : 0 ≤ total) (hlimit : 1 ≤ limit) (hnumber : 1 ≤ number) :
    0 < (ofTotal total limit number).rowCount ↔ 0 < total ∧ number ≤ countFor total limit := by
  rw [rowCount_pos_iff hlimit]
  rcases hnumber.eq_or_lt with rfl | hlater
  · have hone : 1 ≤ countFor total limit := one_le_countFor
    rw [Int.sub_self, Int.zero_mul]
    omega
  · rw [le_countFor_iff hlimit hlater]
    have hoffset : 0 ≤ (number - 1) * limit := Int.mul_nonneg (by omega) (by omega)
    omega

/-! ## The pages together -/

theorem rows_disjoint (hlimit : 1 ≤ limit) (pages : Set Int) :
    pages.PairwiseDisjoint fun number => (ofTotal total limit number).rows := by
  intro a _ b _ hne
  show Disjoint (ofTotal total limit a).rows (ofTotal total limit b).rows
  rw [Set.disjoint_left]
  intro row ha hb
  rw [mem_rows_iff hlimit] at ha hb
  exact hne (ha.1.trans hb.1.symm)

theorem iUnion_rows (h0 : 0 ≤ total) (hlimit : 1 ≤ limit) :
    ⋃ number ∈ Set.Icc 1 (countFor total limit), (ofTotal total limit number).rows =
      Set.Icc 1 total := by
  ext row
  simp only [Set.mem_iUnion, Set.mem_Icc, exists_prop]
  constructor
  · rintro ⟨number, ⟨hfirst, -⟩, hrow⟩
    rw [mem_rows_ofTotal hlimit] at hrow
    have hoffset : 0 ≤ (number - 1) * limit := Int.mul_nonneg (by omega) (by omega)
    omega
  · rintro ⟨hone, htotal⟩
    have hquotient : 0 ≤ (row - 1) / limit := Int.ediv_nonneg (by omega) (by omega)
    have hrow : row ∈ (ofTotal total limit ((row - 1) / limit + 1)).rows :=
      (mem_rows_iff hlimit).2 ⟨rfl, htotal⟩
    have hpos : 0 < (ofTotal total limit ((row - 1) / limit + 1)).rowCount :=
      lt_of_le_of_ne (rowCount_nonneg hlimit) hrow.1.symm
    have hlast := (rowCount_pos_iff_le h0 hlimit (by omega)).1 hpos
    exact ⟨_, ⟨by omega, hlast.2⟩, hrow⟩

end

/-! ## The status line -/

theorem digits_eq_ok {n : Int} (h : IsWritable n) : digits n = .ok (Numeral.text n) := by
  unfold digits
  rw [Numeral.write?_eq_ok h]
  rfl

theorem digits_eq_error {n : Int} (h : ¬ IsWritable n) :
    digits n = .error (.numeral .tooLongToWrite) := by
  unfold digits
  rw [Numeral.write?_eq_error h]
  rfl

theorem isWritable_of_le {n : Int} (h0 : 0 ≤ n) (hmax : n ≤ 2 ^ 53) : IsWritable n := by
  have hdigits : n.natAbs < 10 ^ 19 := by omega
  exact Numeral.isWritable_of_lt hdigits

section
variable {p : Page} {total pages : Int}

theorem position_eq (htotal : p.total = some total) (hpages : pagesFor total p.limit = .ok pages)
    (hnumber : IsWritable p.number) (hcount : IsWritable pages) :
    p.position = .ok ("Page " ++ Numeral.text p.number ++ "/" ++ Numeral.text pages) := by
  unfold position
  rw [digits_eq_ok hnumber, htotal]
  simp only [hpages, Except.mapError, bind, Except.bind, digits_eq_ok hcount]
  rfl

theorem rowRange_eq (htotal : p.total = some total) (hwritable : IsWritable total)
    (hpos : 0 < p.rowCount) (hfirst : IsWritable p.firstRow) (hlast : IsWritable p.lastRow) :
    p.rowRange = .ok (p.rangeText ++ " of " ++ Numeral.text total) := by
  unfold rowRange
  rw [if_neg hpos.ne', digits_eq_ok hfirst, digits_eq_ok hlast, htotal]
  simp only [digits_eq_ok hwritable]
  rfl

theorem rowRange_eq_none (htotal : p.total = some total) (hwritable : IsWritable total)
    (hzero : p.rowCount = 0) : p.rowRange = .ok ("No rows" ++ " of " ++ Numeral.text total) := by
  unfold rowRange
  rw [if_pos hzero, htotal]
  simp only [digits_eq_ok hwritable]
  rfl

theorem status_eq {position rows : String} (hposition : p.position = .ok position)
    (hrows : p.rowRange = .ok rows) : p.status = .ok (position ++ "  |  " ++ rows) := by
  unfold status
  rw [hposition, hrows]
  rfl

theorem status_unwritten (h : ¬ IsWritable p.number) :
    p.status = .error (.numeral .tooLongToWrite) := by
  unfold status position
  rw [digits_eq_error h]
  rfl

end

/-! ## Pages of a total -/

/-- What a page says agrees with the total and with the page after it. The status line has just these
numbers, and fails only if the number of the page cannot be written. -/
structure Agrees (p next : Page) (pages total : Int) : Prop where
  totalPages : p.totalPages = .ok (some pages)
  hasRows : 0 < p.rowCount ↔ 0 < total ∧ p.number ≤ pages
  bounds : 0 < p.rowCount → 1 ≤ p.firstRow ∧ p.firstRow ≤ p.lastRow ∧ p.lastRow ≤ total
  isLast : 0 < p.rowCount → (p.lastRow = total ↔ p.number = pages)
  follows : 0 < p.rowCount → 0 < next.rowCount → next.firstRow = p.lastRow + 1
  isWritable : p.number ≤ pages → IsWritable p.number
  status : 0 < p.rowCount → p.status = .ok (statusLine p.number pages p.rangeText total)
  statusEmpty : p.rowCount = 0 → IsWritable p.number →
    p.status = .ok (statusLine p.number pages "No rows" total)
  statusUnwritten : ¬ IsWritable p.number → p.status = .error (.numeral .tooLongToWrite)

section
variable {total limit number : Int}

theorem pagesFor_eq_countFor (h0 : 0 ≤ total) (hmax : total ≤ 2 ^ 53) (hlimit : 1 ≤ limit) :
    pagesFor total limit = .ok (countFor total limit) := by
  obtain ⟨m, e, -, -, hpages, hcount⟩ := pagesFor_eq_ok h0 hmax hlimit
  rw [hpages, hcount]

/-- The pages of a total are no more than its rows. -/
theorem countFor_le (h0 : 0 ≤ total) (hlimit : 1 ≤ limit) : countFor total limit ≤ max 1 total := by
  rcases h0.eq_or_lt with rfl | hpos
  · unfold countFor
    simp
  · have hlast := pred_countFor_mul_lt hlimit (show 1 ≤ total by omega)
    have hone : 1 ≤ countFor total limit := one_le_countFor
    have hscale : countFor total limit - 1 ≤ (countFor total limit - 1) * limit :=
      le_mul_of_one_le_right (by omega) hlimit
    omega

/-- The rows of a page lie in the result, and the last page ends with the last of them. -/
theorem range_ofTotal (h0 : 0 ≤ total) (hlimit : 1 ≤ limit) (hnumber : 1 ≤ number)
    (hpos : 0 < (ofTotal total limit number).rowCount) :
    1 ≤ (ofTotal total limit number).firstRow ∧
      (ofTotal total limit number).firstRow ≤ (ofTotal total limit number).lastRow ∧
      (ofTotal total limit number).lastRow ≤ total ∧
      ((ofTotal total limit number).lastRow = total ↔ number = countFor total limit) := by
  have hoffset : 0 ≤ (number - 1) * limit := Int.mul_nonneg (by omega) (by omega)
  have hbefore := (rowCount_pos_iff hlimit).1 hpos
  have hend : number * limit = (number - 1) * limit + limit := mul_eq_offset_add
  have hnext : number + 1 ≤ countFor total limit ↔ (number + 1 - 1) * limit < total :=
    le_countFor_iff hlimit (by omega)
  have hlast := ((rowCount_pos_iff_le h0 hlimit hnumber).1 hpos).2
  rw [add_sub_cancel_right] at hnext
  rw [firstRow_ofTotal hpos, lastRow_ofTotal hlimit hpos]
  refine ⟨by omega, by omega, by omega, ?_⟩
  constructor
  · intro hmin
    have hall : ¬ number * limit < total := by omega
    rw [← hnext] at hall
    omega
  · rintro hcount
    have hall : ¬ number * limit < total := by
      rw [← hnext]
      omega
    omega

theorem status_ofTotal (h0 : 0 ≤ total) (hmax : total ≤ 2 ^ 53) (hlimit : 1 ≤ limit)
    (hnumber : IsWritable number) {rows : String}
    (hrows : (ofTotal total limit number).rowRange = .ok (rows ++ " of " ++ Numeral.text total)) :
    (ofTotal total limit number).status =
      .ok (statusLine number (countFor total limit) rows total) := by
  have hone : 1 ≤ countFor total limit := one_le_countFor
  have hcount : countFor total limit ≤ 2 ^ 53 :=
    (countFor_le h0 hlimit).trans (max_le (by norm_num) hmax)
  have hposition : (ofTotal total limit number).position =
      .ok ("Page " ++ Numeral.text number ++ "/" ++ Numeral.text (countFor total limit)) :=
    position_eq rfl (pagesFor_eq_countFor h0 hmax hlimit) hnumber
      (isWritable_of_le (by omega) hcount)
  rw [status_eq hposition hrows]
  unfold statusLine
  simp only [String.append_assoc]

/-- **Every page agrees with the total.** -/
theorem agrees_ofTotal (h0 : 0 ≤ total) (hmax : total ≤ 2 ^ 53) (hlimit : 1 ≤ limit)
    (hnumber : 1 ≤ number) :
    (ofTotal total limit number).Agrees (ofTotal total limit (number + 1)) (countFor total limit)
      total := by
  have htotal : IsWritable total := isWritable_of_le h0 hmax
  have hcount : countFor total limit ≤ 2 ^ 53 :=
    (countFor_le h0 hlimit).trans (max_le (by norm_num) hmax)
  have hnamed (h : number ≤ countFor total limit) : IsWritable number :=
    isWritable_of_le (by omega) (by omega)
  have hhasRows := rowCount_pos_iff_le h0 hlimit hnumber
  constructor
  case totalPages =>
    show (pagesFor total limit).map some = _
    rw [pagesFor_eq_countFor h0 hmax hlimit]
    rfl
  case hasRows => exact hhasRows
  case bounds =>
    intro hpos
    obtain ⟨hfirst, hle, hlast, -⟩ := range_ofTotal h0 hlimit hnumber hpos
    exact ⟨hfirst, hle, hlast⟩
  case isLast =>
    intro hpos
    exact (range_ofTotal h0 hlimit hnumber hpos).2.2.2
  case follows =>
    intro hpos hnext
    have hbefore := (rowCount_pos_iff hlimit).1 hnext
    rw [firstRow_ofTotal hnext, lastRow_ofTotal hlimit hpos]
    rw [add_sub_cancel_right] at hbefore ⊢
    omega
  case isWritable => exact hnamed
  case status =>
    intro hpos
    obtain ⟨hfirst, hle, hlast, -⟩ := range_ofTotal h0 hlimit hnumber hpos
    apply status_ofTotal h0 hmax hlimit (hnamed (hhasRows.1 hpos).2)
    exact rowRange_eq rfl htotal hpos (isWritable_of_le (by omega) (by omega))
      (isWritable_of_le (by omega) (by omega))
  case statusEmpty =>
    intro hzero hwritable
    exact status_ofTotal h0 hmax hlimit hwritable (rowRange_eq_none rfl htotal hzero)
  case statusUnwritten =>
    intro hunwritten
    exact status_unwritten hunwritten

end

end Page

/-! ## Plans that are run -/

/-- The answers are those of a result of `total` rows: the statement of the plan delivers the rows of
its page, and the count is the total. -/
structure Plan.SeesTotal (p : Plan) (total : Int) (es : List (Event Database.interface)) : Prop where
  rows : ∀ sql (r : Rows), .answered (.execute sql) (.ok r) ∈ es →
    r.rowCount = (Page.ofTotal total p.limit p.page).rowCount
  count : ∀ sql reply, .answered (.fetchValue sql) reply ∈ es →
    Plan.countTotal reply = .ok (some total)

/-- The page of an outcome is that of the result. -/
theorem Plan.execute_page {p : Plan} {sql summary : String} {es : List (Event Database.interface)}
    {o : Outcome} {total : Int} (htables : p.tables ≠ []) (hsees : p.SeesTotal total es)
    (h : (p.execute sql summary).Trace es (.ok o)) :
    o.page? = some (Page.ofTotal total p.limit p.page) := by
  rcases Plan.execute_trace h with ⟨f, notes, -, -, hr⟩ |
    ⟨rows, counting, known, notes, rfl, hcount, -, hr⟩
  · cases hr
  · have hrows : rows.rowCount = _ := hsees.rows sql rows List.mem_cons_self
    have hknown : known = .ok (some total) := by
      rcases Plan.countAll_trace hcount with ⟨hnone, -, -⟩ | ⟨count, reply, notes', -, rfl, -, rfl⟩
      · obtain ⟨count, hsome⟩ := Plan.exists_countStatement htables
        rw [hnone] at hsome
        cases hsome
      · exact hsees.count count reply (by simp)
    rw [hknown] at hr
    cases hr
    show some (Page.mk p.page p.limit rows.rowCount (some total)) = _
    rw [hrows]
    rfl

namespace Page

/-- **The pages partition the rows.** For a total up to `2 ^ 53` every page agrees with the total, no two
pages name the same row, and the pages that the total fills name the rows from one to the total. A page
has the rows that are delivered from a result of that length, and a plan that is run against such a result
ends with such a page. -/
theorem ranges_partition (total limit : Int) (h0 : 0 ≤ total) (hmax : total ≤ 2 ^ 53)
    (hlimit : 1 ≤ limit) :
    (∃ pages,
      (∀ number, 1 ≤ number →
        (ofTotal total limit number).Agrees (ofTotal total limit (number + 1)) pages total) ∧
      (Set.Icc 1 pages).PairwiseDisjoint (fun number => (ofTotal total limit number).rows) ∧
      ⋃ number ∈ Set.Icc 1 pages, (ofTotal total limit number).rows = Set.Icc 1 total) ∧
    (∀ {α : Type} (result : List α), (result.length : Int) = total → ∀ number, 1 ≤ number →
      (ofTotal total limit number).rowCount =
        ((result.drop ((number - 1) * limit).toNat).take limit.toNat).length) ∧
    ∀ (p : Plan) sql summary es o, p.tables ≠ [] → p.limit = limit → p.SeesTotal total es →
      (p.execute sql summary).Trace es (.ok o) → o.page? = some (ofTotal total limit p.page) := by
  refine ⟨⟨countFor total limit, ?_, rows_disjoint hlimit _, iUnion_rows h0 hlimit⟩, ?_, ?_⟩
  · intro number hnumber
    exact agrees_ofTotal h0 hmax hlimit hnumber
  · rintro α result rfl number hnumber
    exact rowCount_ofTotal result (by omega) hnumber
  · rintro p sql summary es o htables rfl hsees h
    exact Plan.execute_page htables hsees h

/-- Five and twenty rows in pages of ten. -/
theorem ranges_partition_three :
    (∃ pages,
      (∀ number, 1 ≤ number →
        (ofTotal 25 10 number).Agrees (ofTotal 25 10 (number + 1)) pages 25) ∧
      (Set.Icc 1 pages).PairwiseDisjoint (fun number => (ofTotal 25 10 number).rows) ∧
      ⋃ number ∈ Set.Icc 1 pages, (ofTotal 25 10 number).rows = Set.Icc 1 25) ∧
    (∀ {α : Type} (result : List α), (result.length : Int) = 25 → ∀ number, 1 ≤ number →
      (ofTotal 25 10 number).rowCount =
        ((result.drop ((number - 1) * 10).toNat).take (Int.toNat 10)).length) ∧
    ∀ (p : Plan) sql summary es o, p.tables ≠ [] → p.limit = 10 → p.SeesTotal 25 es →
      (p.execute sql summary).Trace es (.ok o) → o.page? = some (ofTotal 25 10 p.page) :=
  ranges_partition 25 10 (by decide) (by decide) (by decide)

end Page

end QueryPlans
