import QueryPlans.Proofs.Json.Integers
import QueryPlans.Proofs.Plan.Naming
import QueryPlans.Proofs.Plan.Reasons
import QueryPlans.Proofs.Plan.RoundTrip

/-!
# Plans that have no statement

A plan has no statement if it breaks a rule of its action.  There is one more case: the rows before the page
of a query are too many to be written in its OFFSET.  A page and a page size that were read have at most 4300
digits each, but their product may have more.

* `Plan.BreaksRules` — the action is none, or something that it needs is missing.
* `Plan.OutOfReach` — the rows before the page of a query cannot be written.
* `Plan.Stated` — what becomes of the statement of a plan.

Principal results: `stated` — a plan has a statement, or breaks a rule, or is out of reach;
`statement_fails_iff` — for the plans in replies, exactly when; `farPage_has_no_statement` — a page that
breaks no rule and has no statement.
-/

namespace QueryPlans.Plan

open Numeral (IsWritable)

variable {p : Plan}

/-- The plan breaks a rule: its action is none, or it has no table; an update has no values, or an insertion
no columns or no rows. -/
inductive BreaksRules (p : Plan) : Prop
  | action (h : p.action ∉ [.select, .update, .delete, .insert])
  | tables (h : p.tables = [])
  | values (h : p.action = .update) (hset : p.updateSet = [])
  | columns (h : p.action = .insert) (hcolumns : p.insertColumns = [])
  | rows (h : p.action = .insert) (hrows : p.insertValues = [])

/-- The plan is a query for a page with too many rows before it to be written. -/
structure OutOfReach (p : Plan) : Prop where
  query : p.action = .select
  later : 1 < p.page
  unwritable : ¬ IsWritable p.offset

/-- What becomes of the statement of a plan. -/
inductive Stated (p : Plan) : Except StatementError String → Prop
  | broken (v : Violation) (h : p.BreaksRules) : Stated p (.error (.violation v))
  | outOfReach (h : ¬ p.BreaksRules) (hfar : p.OutOfReach) :
      Stated p (.error (.numeral .tooLongToWrite))
  | text (sql : String) (h : ¬ p.BreaksRules) (hnear : ¬ p.OutOfReach) : Stated p (.ok sql)

/-- A plan that has what its action needs breaks no rule. -/
theorem not_breaksRules (haction : p.action ∈ [.select, .update, .delete, .insert])
    (htables : p.tables ≠ []) (hset : p.action = .update → p.updateSet ≠ [])
    (hinsert : p.action = .insert → p.insertColumns ≠ [] ∧ p.insertValues ≠ []) :
    ¬ p.BreaksRules := by
  rintro (h | h | ⟨h, hnone⟩ | ⟨h, hnone⟩ | ⟨h, hnone⟩)
  · exact h haction
  · exact htables h
  · exact hset h hnone
  · exact (hinsert h).1 hnone
  · exact (hinsert h).2 hnone

/-- A plan that is no query is never out of reach. -/
theorem not_outOfReach (haction : p.action ≠ .select) : ¬ p.OutOfReach := fun hfar => haction hfar.query

/-! ## Statements by action -/

theorem selectStatement_stated (haction : p.action = .select) (hlimit : IsWritable p.limit) :
    p.Stated p.selectStatement := by
  unfold selectStatement selectBody fromClause
  cases htables : p.tables with
  | nil => exact .broken _ (.tables htables)
  | cons anchor others =>
    have hkept : ¬ p.BreaksRules := by
      apply not_breaksRules <;> simp [haction, htables]
    unfold limitClause digits
    rw [Numeral.write?_eq_ok hlimit]
    by_cases hpage : 1 < p.page
    · by_cases hoffset : IsWritable p.offset
      · have hnear : ¬ p.OutOfReach := fun hfar => hfar.unwritable hoffset
        rw [Numeral.write?_eq_ok hoffset]
        simp only [hpage, ↓reduceIte]
        exact .text _ hkept hnear
      · rw [Numeral.write?_eq_error hoffset]
        simp only [hpage, ↓reduceIte]
        exact .outOfReach hkept ⟨haction, hpage, hoffset⟩
    · have hnear : ¬ p.OutOfReach := fun hfar => hpage hfar.later
      simp only [hpage, ↓reduceIte]
      exact .text _ hkept hnear

theorem updateStatement_stated (haction : p.action = .update) :
    p.Stated (p.updateStatement.mapError .violation) := by
  unfold updateStatement
  cases htables : p.tables with
  | nil => exact .broken _ (.tables htables)
  | cons anchor others =>
    cases hset : p.updateSet with
    | nil => exact .broken _ (.values haction hset)
    | cons pair pairs =>
      have hkept : ¬ p.BreaksRules := by
        apply not_breaksRules <;> simp [haction, htables, hset]
      exact .text _ hkept (not_outOfReach (by simp [haction]))

theorem deleteStatement_stated (haction : p.action = .delete) :
    p.Stated (p.deleteStatement.mapError .violation) := by
  unfold deleteStatement
  cases htables : p.tables with
  | nil => exact .broken _ (.tables htables)
  | cons anchor others =>
    have hkept : ¬ p.BreaksRules := by
      apply not_breaksRules <;> simp [haction, htables]
    exact .text _ hkept (not_outOfReach (by simp [haction]))

theorem insertStatement_stated (haction : p.action = .insert) :
    p.Stated (p.insertStatement.mapError .violation) := by
  unfold insertStatement
  cases htables : p.tables with
  | nil => exact .broken _ (.tables htables)
  | cons anchor others =>
    cases hcolumns : p.insertColumns with
    | nil => exact .broken _ (.columns haction hcolumns)
    | cons column columns =>
      cases hrows : p.insertValues with
      | nil => exact .broken _ (.rows haction hrows)
      | cons row rows =>
        have hkept : ¬ p.BreaksRules := by
          apply not_breaksRules <;> simp [haction, htables, hcolumns, hrows]
        exact .text _ hkept (not_outOfReach (by simp [haction]))

/-- A plan has a statement, or it breaks a rule, or it is out of reach. -/
theorem stated (hset : p.action ≠ .unset) (hlimit : IsWritable p.limit) : p.Stated p.statement := by
  unfold statement
  cases haction : p.action with
  | select => exact selectStatement_stated haction hlimit
  | unset => exact absurd haction hset
  | update => exact updateStatement_stated haction
  | delete => exact deleteStatement_stated haction
  | insert => exact insertStatement_stated haction
  | other name => exact .broken _ (.action (by simp [haction]))
  | missing => exact .broken _ (.action (by simp [haction]))

/-! ## Plans in replies -/

theorem read_action_ne_unset {reply : String} {host : Host} (h : read reply host = .ok p) :
    p.action ≠ .unset := by
  obtain ⟨fields, -, hread⟩ := exists_fields_of_read h
  exact hread.action_ne_unset

/-- A page that is far away breaks no rule. -/
theorem farPage_not_breaksRules (k : Nat) : ¬ (farPage k).BreaksRules := by
  refine not_breaksRules List.mem_cons_self (List.cons_ne_nil _ _) ?_ ?_
  · exact fun h => nomatch h
  · exact fun h => nomatch h

/-- There is a count of all rows exactly if there is a table. -/
theorem countStatement?_empty_iff : p.countStatement?.getD "" = "" ↔ p.tables = [] := by
  unfold countStatement? fromClause
  cases htables : p.tables with
  | nil => simp [Except.toOption]
  | cons anchor others =>
    refine iff_of_false (fun hempty => ?_) (List.cons_ne_nil anchor others)
    have hlength := congrArg (fun s => s.toList.length) hempty
    simp [Except.toOption] at hlength

/-- **Plans without a statement.** A plan in a reply has none because it breaks a rule of its action, or
because it is a query for a page with too many rows before it to be written; every other plan has one. Its
count has a text exactly if the plan has a table. -/
theorem statement_fails_iff {reply : String} {host : Host} (h : read reply host = .ok p) :
    ((∃ v, p.statement = .error (.violation v)) ↔ p.BreaksRules) ∧
    ((∃ e, p.statement = .error (.numeral e)) ↔ ¬ p.BreaksRules ∧ p.OutOfReach) ∧
    ((∃ sql, p.statement = .ok sql) ↔ ¬ p.BreaksRules ∧ ¬ p.OutOfReach) ∧
    (p.countStatement?.getD "" = "" ↔ p.tables = []) := by
  have hstated := stated (read_action_ne_unset h) (read_writable h).2
  generalize p.statement = r at hstated
  cases hstated with
  | broken v hbroken => simp [hbroken, countStatement?_empty_iff]
  | outOfReach hkept hfar => simp [hkept, hfar, countStatement?_empty_iff]
  | text sql hkept hnear => simp [hkept, hnear, countStatement?_empty_iff]

/-- A page with a number of 4299 digits still has a statement: the rows before it can be written. -/
theorem nearPage_has_statement :
    read (longPage 4298) = .ok (farPage 4298) ∧ ∃ sql, (farPage 4298).statement = .ok sql := by
  have hread : read (longPage 4298) = .ok (farPage 4298) := read_longPage (by decide) (by decide)
  have hnear : ¬ (farPage 4298).OutOfReach := by
    intro hfar
    exact hfar.unwritable (by decide +kernel)
  obtain ⟨-, -, htext, -⟩ := statement_fails_iff hread
  exact ⟨hread, htext.2 ⟨farPage_not_breaksRules 4298, hnear⟩⟩

/-- **A plan without a statement.** With one digit more the number of the page can still be read, and the
plan breaks no rule; but the rows before the page cannot be written. -/
theorem farPage_has_no_statement :
    read (longPage 4299) = .ok (farPage 4299) ∧ ¬ (farPage 4299).BreaksRules ∧
      (farPage 4299).statement = .error (.numeral .tooLongToWrite) := by
  have hread : read (longPage 4299) = .ok (farPage 4299) := read_longPage (by decide) (by decide)
  have hkept := farPage_not_breaksRules 4299
  have hfar : (farPage 4299).OutOfReach := by
    refine ⟨rfl, ?_, ?_⟩
    · decide +kernel
    · decide +kernel
  refine ⟨hread, hkept, ?_⟩
  have hstated := stated (read_action_ne_unset hread) (read_writable hread).2
  generalize (farPage 4299).statement = r at hstated
  cases hstated with
  | broken v hbroken => exact absurd hbroken hkept
  | outOfReach => rfl
  | text sql _ hnear => exact absurd hfar hnear

end QueryPlans.Plan
