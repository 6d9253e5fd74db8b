import QueryPlans.Proofs.Number.Written
import QueryPlans.Proofs.Plan.Turns

/-!
# Pages and their numbers

The statement of a plan holds its limit and the rows before its page; its summary and the log hold the
number of the page.  A page may be within reach of its statement while its own number has one digit too
many to be written.

* `Plan.WritableWindow` — the numbers of a plan's statement can be written.

Principal results: `exists_statement_iff` — which plans that only read have a statement;
`showPage_of_unwritable`, `showPage_sends` — when a page fails to be named before its statement is sent;
`writable_but_unnamed_iff` — the page that has a statement but no name.
-/

namespace QueryPlans

/-! ## Numbers in statements and summaries -/

namespace Plan

variable {p : Plan} {sql : String}

/-- The numbers of a plan's statement can be written. -/
structure WritableWindow (p : Plan) : Prop where
  limit : Numeral.IsWritable p.limit
  offset : 1 < p.page → Numeral.IsWritable p.offset

theorem exists_limitClause_iff : (∃ clause, p.limitClause = .ok clause) ↔ p.WritableWindow := by
  unfold limitClause digits
  by_cases hlimit : Numeral.IsWritable p.limit
  · rw [Numeral.write?_eq_ok hlimit]
    by_cases hpage : 1 < p.page
    · by_cases hoffset : Numeral.IsWritable p.offset
      · rw [Numeral.write?_eq_ok hoffset]
        exact ⟨fun _ => ⟨hlimit, fun _ => hoffset⟩, fun _ => ⟨_, if_pos hpage⟩⟩
      · rw [Numeral.write?_eq_error hoffset]
        constructor
        · rintro ⟨clause, h⟩
          change (if 1 < p.page then _ else _) = _ at h
          rw [if_pos hpage] at h
          cases h
        · intro h
          exact absurd (h.offset hpage) hoffset
    · exact ⟨fun _ => ⟨hlimit, fun h => absurd h hpage⟩, fun _ => ⟨_, if_neg hpage⟩⟩
  · rw [Numeral.write?_eq_error hlimit]
    constructor
    · rintro ⟨clause, h⟩
      cases h
    · intro h
      exact absurd h.limit hlimit

/-- A plan that only reads has a statement if it has a table and its numbers can be written. -/
theorem exists_statement_iff (hread : p.isReadOnly = true) :
    (∃ sql, p.statement = .ok sql) ↔ p.tables ≠ [] ∧ p.WritableWindow := by
  rw [statement_of_isReadOnly hread, ← exists_limitClause_iff]
  unfold selectStatement selectBody fromClause
  cases htables : p.tables with
  | nil =>
    constructor
    · rintro ⟨sql, h⟩
      cases h
    · rintro ⟨h, -⟩
      exact absurd rfl h
  | cons anchor others =>
    cases p.limitClause with
    | error e =>
      constructor
      · rintro ⟨sql, h⟩
        cases h
      · rintro ⟨-, clause, h⟩
        cases h
    | ok clause => exact ⟨fun _ => ⟨List.cons_ne_nil _ _, clause, rfl⟩, fun _ => ⟨_, rfl⟩⟩

theorem exists_summary (hlimit : Numeral.IsWritable p.limit) (hpage : Numeral.IsWritable p.page) :
    ∃ summary, p.summary = .ok summary := by
  unfold summary details
  rw [Numeral.write?_eq_ok hlimit, Numeral.write?_eq_ok hpage]
  split
  · exact ⟨_, rfl⟩
  split
  · exact ⟨_, rfl⟩
  by_cases hpositive : 0 < p.limit
  · simp only [hpositive, ↓reduceIte]
    exact ⟨_, rfl⟩
  · simp only [hpositive, ↓reduceIte]
    exact ⟨_, rfl⟩

theorem execute_asks {summary : String} {es : List (Event Database.interface)}
    {r : Except Failure Outcome} (h : (p.execute sql summary).Trace es r) :
    ∃ reply, .answered (.execute sql) reply ∈ es := by
  rcases execute_trace h with ⟨f, notes, rfl, -⟩ | ⟨rows, counting, total, notes, rfl, -⟩
  · exact ⟨_, List.mem_cons_self⟩
  · exact ⟨_, List.mem_cons_self⟩

/-- A plan with a statement has a word for its action. -/
theorem exists_actionInCapitals {compiled : String} (h : p.statement = .ok compiled) :
    ∃ action, p.actionInCapitals = .ok action := by
  unfold actionInCapitals
  unfold statement at h
  cases haction : p.action with
  | missing =>
    rw [haction] at h
    cases h
  | _ => exact ⟨_, rfl⟩

/-- A plan with a statement is named in the log, so that to hold it for review does not fail. -/
theorem holdForReview_ok {summary compiled : String} {es : List (Event Database.interface)}
    {r : Except Failure Outcome} (hsql : p.statement = .ok compiled)
    (h : (p.holdForReview sql summary).Trace es r) : r = .ok (.review p summary sql) := by
  obtain ⟨action, haction⟩ := exists_actionInCapitals hsql
  unfold holdForReview at h
  rw [haction] at h
  obtain ⟨_, -, hend⟩ := Program.trace_log_bind_iff.1 h
  exact (Program.trace_done_iff.1 hend).2

/-- A plan with a statement fails to be carried out only by sending it. -/
theorem carryOut_fails {summary : String} {es : List (Event Database.interface)} {f : Failure}
    (hsql : p.statement = .ok sql) (h : (p.carryOut sql summary).Trace es (.error f)) :
    ∃ reply, .answered (.execute sql) reply ∈ es := by
  unfold carryOut at h
  split at h
  · exact execute_asks h
  · cases holdForReview_ok hsql h

end Plan

/-! ## Pages whose number cannot be written -/

namespace Retained

variable {p current : Plan} {direction : Navigation} {sql : String}

theorem navigate_of_statement (hread : current.isReadOnly = true)
    (hsql : (current.step direction).statement = .ok sql) :
    navigate (some current) direction =
      (showPage (current.step direction) sql >>= fun r =>
        .done (r, some (current.step direction))) := by
  unfold navigate
  simp only [hread, ↓reduceIte, hsql]
  rfl

theorem showPage_of_unwritable (h : ¬ Numeral.IsWritable p.page) :
    showPage p sql = .done (.error (.ofNumeral .tooLongToWrite)) := by
  unfold showPage
  rw [Numeral.write?_eq_error h]
  rfl

/-- A page with a number that can be written is shown by sending its statement. -/
theorem showPage_sends {es : List (Event Database.interface)} {r : Except Failure Outcome}
    (hlimit : Numeral.IsWritable p.limit) (hpage : Numeral.IsWritable p.page)
    (h : (showPage p sql).Trace es r) : ∃ reply, .answered (.execute sql) reply ∈ es := by
  obtain ⟨summary, hsummary⟩ := Plan.exists_summary hlimit hpage
  unfold showPage at h
  rw [Numeral.write?_eq_ok hpage] at h
  obtain ⟨tail, rfl, hnext⟩ := Program.trace_log_bind_iff.1 h
  rw [hsummary] at hnext
  obtain ⟨reply, hmem⟩ := Plan.execute_asks hnext
  exact ⟨reply, List.mem_cons_of_mem _ hmem⟩

/-- The plan is retained at a page that fails to be named. -/
theorem navigate_of_unwritable (hread : current.isReadOnly = true)
    (hsql : (current.step direction).statement = .ok sql)
    (hpage : ¬ Numeral.IsWritable (current.step direction).page) :
    navigate (some current) direction =
      .done (.error (.ofNumeral .tooLongToWrite), some (current.step direction)) := by
  rw [navigate_of_statement hread hsql, showPage_of_unwritable hpage]
  rfl

end Retained

namespace Plan

variable {p : Plan} {direction : Navigation}

theorem writableWindow_of_limit (hone : p.limit = 1) (h : p.page ≤ Numeral.unwritable) :
    p.WritableWindow := by
  have hbound := Numeral.three_le_unwritable
  have hrows : p.offset = p.page - 1 := by rw [offset, hone, Int.mul_one]
  refine ⟨?_, fun _ => ?_⟩
  · rw [Numeral.isWritable_iff (by omega)]
    omega
  · rw [Numeral.isWritable_iff (by omega)]
    omega

/-- A statement holds the rows before its page, and there are at least as many as there are pages
before it. So only pages of one row can have a statement, but a number that cannot be written. -/
theorem writable_but_unnamed_iff (hpage : 1 ≤ p.page) (hlimit : 1 ≤ p.limit) :
    p.WritableWindow ∧ ¬ Numeral.IsWritable p.page ↔
      p.limit = 1 ∧ p.page = Numeral.unwritable := by
  have hbound := Numeral.three_le_unwritable
  have hoffset : 0 ≤ p.offset := Int.mul_nonneg (by omega) (by omega)
  rw [Numeral.isWritable_iff (by omega : 0 ≤ p.page)]
  constructor
  · rintro ⟨h, hunnamed⟩
    have hlt := h.offset (by omega)
    rw [Numeral.isWritable_iff hoffset] at hlt
    have hone : p.limit = 1 := by
      refine Int.le_antisymm (Int.not_lt.1 fun hmore => ?_) hlimit
      have htwo : (p.page - 1) * 2 ≤ p.offset :=
        Int.mul_le_mul_of_nonneg_left hmore (by omega)
      omega
    have hrows : p.offset = p.page - 1 := by rw [offset, hone, Int.mul_one]
    exact ⟨hone, by omega⟩
  · rintro ⟨hone, hlast⟩
    exact ⟨writableWindow_of_limit hone (Int.le_of_eq hlast), by omega⟩

/-- A step to a page that cannot be named leads away from the page that it starts from. -/
theorem step_ne_self (h : ¬ Numeral.IsWritable (p.step direction).page) : p.step direction ≠ p := by
  intro heq
  have hpage : Navigation.target p.page direction = p.page := by
    rw [← step_page, heq]
  rw [heq] at h
  cases direction with
  | next =>
    change p.page + 1 = p.page at hpage
    omega
  | previous =>
    change max 1 (p.page - 1) = p.page at hpage
    have hfirst : p.page = 1 := by omega
    rw [hfirst] at h
    exact h (by decide +kernel)

end Plan

end QueryPlans
