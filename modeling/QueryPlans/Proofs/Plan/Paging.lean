import QueryPlans.Navigation
import QueryPlans.Plan.Statement

/-!
# Plans at other pages

* `Plan.IsPageOf` — a plan, or that plan at another page.

To move a plan to another page changes its page and nothing else that counts; a plan that only reads
has the statement of its page.
-/

namespace QueryPlans.Plan

variable {p q : Plan} {direction : Navigation} {sql : String}

@[simp] theorem atPage_limit (p : Plan) (page : Int) : (p.atPage page).limit = p.limit := rfl

@[simp] theorem atPage_needOtherTables (p : Plan) (page : Int) :
    (p.atPage page).needOtherTables = p.needOtherTables := rfl

@[simp] theorem atPage_isReadOnly (p : Plan) (page : Int) :
    (p.atPage page).isReadOnly = p.isReadOnly := rfl

theorem addTo_addTo (f : Field) (given : List Field) : f.addTo (f.addTo given) = f.addTo given := by
  unfold Field.addTo
  split
  · simp [*]
  · simp

@[simp] theorem atPage_atPage (p : Plan) (a b : Int) : (p.atPage a).atPage b = p.atPage b := by
  simp [atPage, addTo_addTo]

/-- A step leads to the page before or after, and not before the first. -/
theorem step_eq_atPage (p : Plan) (direction : Navigation) :
    ∃ page, p.step direction = p.atPage page ∧ (1 ≤ p.page → 1 ≤ page) := by
  cases direction with
  | next => exact ⟨p.page + 1, rfl, by omega⟩
  | previous => exact ⟨max 1 (p.page - 1), rfl, by omega⟩

/-- The plan is the other one, perhaps at another page. -/
def IsPageOf (p q : Plan) : Prop := p = q ∨ ∃ page, p = q.atPage page

theorem IsPageOf.refl (p : Plan) : p.IsPageOf p := .inl rfl

theorem IsPageOf.step (h : p.IsPageOf q) (direction : Navigation) :
    (p.step direction).IsPageOf q := by
  obtain ⟨page, hpage, -⟩ := p.step_eq_atPage direction
  rcases h with rfl | ⟨_, rfl⟩
  · exact .inr ⟨page, hpage⟩
  · exact .inr ⟨page, by rw [hpage, atPage_atPage]⟩

@[simp] theorem step_needOtherTables (p : Plan) (direction : Navigation) :
    (p.step direction).needOtherTables = p.needOtherTables := by
  obtain ⟨page, hpage, -⟩ := p.step_eq_atPage direction
  rw [hpage, atPage_needOtherTables]

@[simp] theorem step_isReadOnly (p : Plan) (direction : Navigation) :
    (p.step direction).isReadOnly = p.isReadOnly := by
  obtain ⟨page, hpage, -⟩ := p.step_eq_atPage direction
  rw [hpage, atPage_isReadOnly]

@[simp] theorem step_limit (p : Plan) (direction : Navigation) :
    (p.step direction).limit = p.limit := by
  obtain ⟨page, hpage, -⟩ := p.step_eq_atPage direction
  rw [hpage, atPage_limit]

/-! ## Statements of plans that only read -/

/-- The statement of a plan that only reads fetches its page. -/
theorem statement_of_isReadOnly (h : p.isReadOnly = true) : p.statement = p.selectStatement := by
  unfold statement
  rcases Action.isReadOnly_iff.1 h with ha | ha <;> rw [ha]

/-- A statement that fetches a page starts with its keyword. -/
theorem selectStatement_starts (h : p.selectStatement = .ok sql) : ∃ rest, sql = "SELECT " ++ rest := by
  unfold selectStatement selectBody at h
  cases hfrom : p.fromClause with
  | error v => rw [hfrom] at h; cases h
  | ok tables =>
    rw [hfrom] at h
    cases hlimit : p.limitClause with
    | error e => rw [hlimit] at h; cases h
    | ok limit =>
      rw [hlimit] at h
      cases h
      exact ⟨p.columnList ++ "\nFROM " ++ tables ++ p.whereClause ++ p.orderClause ++ limit,
        by simp only [String.append_assoc]⟩

/-- A plan with a statement has a table. -/
theorem tables_ne_nil_of_statement (h : p.statement = .ok sql) : p.tables ≠ [] := by
  intro hnil
  unfold statement selectStatement selectBody fromClause updateStatement deleteStatement
    insertStatement at h
  rw [hnil] at h
  split at h <;> cases h

end QueryPlans.Plan
