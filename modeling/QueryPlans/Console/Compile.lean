import QueryPlans.Console.Report
import QueryPlans.Plan.Read

/-!
# Plans compiled without a database

* `Console.compile` — what is shown of the plan in a text: its summary and statement, with the
  statement that counts its rows or the advice to review it.
-/

namespace QueryPlans.Console

/-- The advice about a plan that changes data. -/
def advice (action : String) : Display :=
  .line (Markup.styled "yellow" (action ++ " plan: review before running."))

/-- What goes with the statement of a plan. -/
def companion (p : Plan) : Shown :=
  if p.isReadOnly then ⟨[.statement (p.countStatement?.getD "") "Count SQL"], none⟩
  else match p.actionInCapitals with
    | .ok action => ⟨[advice action], none⟩
    | .error f => ⟨[], some (.fault f)⟩

/-- The statement of a plan and what goes with it. -/
def compiled (p : Plan) : Shown :=
  match p.statement with
  | .error e => ⟨[], some (.ofStatement e)⟩
  | .ok sql => ⟨[.statement sql], none⟩ ++ companion p

/-- What is shown of a plan. -/
def compilePlan (p : Plan) : Shown :=
  match p.summary with
  | .error e => ⟨[], some (.ofNumeral e)⟩
  | .ok summary =>
    ⟨[.styledLine "bold green" summary], none⟩ ++
      if p.needOtherTables then ⟨[], none⟩ else compiled p

/-- What is shown of the plan in a text. -/
def compile (text : String) (host : Host := {}) : Shown :=
  match Plan.read text host with
  | .error e => ⟨[], some (.unreadable e)⟩
  | .ok p => compilePlan p

end QueryPlans.Console
