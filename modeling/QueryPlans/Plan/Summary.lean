import QueryPlans.Plan.Statement

/-!
# Plans in words

* `Plan.summary` — one line about a plan: its description, or what its fields say.
-/

namespace QueryPlans.Plan

/-- What is said of a plan that needs other tables. -/
def needOtherTablesMessage : String :=
  "Cannot satisfy this query with the current table and its related tables."

/-- The word of the action in a summary. -/
def actionWord (p : Plan) : String :=
  match p.action.name? with
  | none => "SELECT"
  | some "" => "SELECT"
  | some name => Text.upper name

/-- The conditions, the ordering and the page of a plan in words. -/
def details (p : Plan) : Except Numeral.Error String := do
  let conditions := if p.filters = [] then "" else " where " ++ Text.joined " and " p.filters
  let ordering := match p.sort with
    | some s => " order by " ++ s.column ++ " " ++ s.order
    | none => ""
  if 0 < p.limit then
    let limit ← Numeral.write? p.limit
    let page ← Numeral.write? p.page
    return conditions ++ ordering ++ " (limit " ++ limit ++ ", page " ++ page ++ ")"
  else
    return conditions ++ ordering

/-- One line about a plan. -/
def summary (p : Plan) : Except Numeral.Error String :=
  if p.needOtherTables then .ok needOtherTablesMessage
  else if p.description ≠ "" then .ok p.description
  else p.details.map fun details =>
    p.actionWord ++ " on " ++ Text.joined ", " p.tables ++ details

end QueryPlans.Plan
