import QueryPlans.Navigation
import QueryPlans.Plan.Outcome
import QueryPlans.Plan.Summary

/-!
# Plans accepted and paged through

A plan that only reads is run at once; a plan that changes data is never run, but handed back with
its statement.  The last accepted plan is retained, so that a later request can ask for another of
its pages.

* `Plan.execute` — run the statement of a plan, then count its rows; a count that fails leaves the
  total unknown.
* `Retained.accept` — do with a plan what is to be done with it, and retain it.
* `Retained.navigate` — run the retained plan at another page.
* `Retained.viewState` — the position in the data, for the model.
-/

namespace QueryPlans

open Database (call)

/-- The plan that was accepted last. -/
abbrev Retained := Option Plan

/-- Where entries of the log come from. -/
def Retained.logSource : String := "querypilot.planner.coordinator"

namespace Plan

/-- Write an entry to the log. -/
def log (level : LogLevel) (message : String) : DatabaseProgram Unit :=
  Program.log level Retained.logSource message

/-- The number of rows that a statement counts. A fault of the connector leaves it unknown. -/
def countRows (sql : String) : DatabaseProgram (Except Fault (Option Int)) := do
  match ← call (.fetchValue sql) with
  | .ok value => return Database.totalOf? value
  | .error f =>
    if f.isConnector then
      log .warning ("Count query failed, total unavailable: " ++ f.message)
      return .ok none
    else return .error f

/-- The number of all rows of a plan; unknown for a plan without tables. -/
def countAll (p : Plan) : DatabaseProgram (Except Fault (Option Int)) :=
  match p.countStatement? with
  | none => return .ok none
  | some sql => countRows sql

/-- The failure of a statement. -/
def executionFailure (sql : String) (f : Fault) : Failure :=
  if f.isConnector then .plan (.execution f.message sql) else .fault f

/-- Run the statement of a plan, then count its rows. -/
def execute (p : Plan) (sql summary : String) : DatabaseProgram (Except Failure Outcome) := do
  match ← call (.execute sql) with
  | .error f =>
    if f.isConnector then log .error ("Plan execution failed: " ++ f.message)
    return .error (executionFailure sql f)
  | .ok rows =>
    match ← p.countAll with
    | .error f => return .error (.fault f)
    | .ok total =>
      log .info "Executed read-only plan"
      return .ok (.executed p summary sql p.countStatement? rows
        ⟨p.page, p.limit, rows.rowCount, total⟩)

/-- The statement to use: one that is given, or that of the plan. -/
def statementOr (p : Plan) (given : Option String) : Except StatementError String :=
  match given.filter (· != "") with
  | some sql => .ok sql
  | none => p.statement

/-- The fault of a plan whose action has no word. -/
def missingAction : Fault := .raised .noAttribute "'NoneType' object has no attribute 'upper'"

/-- The word of the action in capitals. -/
def actionInCapitals (p : Plan) : Except Fault String :=
  match p.action.name? with
  | some name => .ok (Text.upper name)
  | none => .error missingAction

/-- Hand back a plan that changes data. -/
def holdForReview (p : Plan) (sql summary : String) : DatabaseProgram (Except Failure Outcome) := do
  match p.actionInCapitals with
  | .error f => return .error (.fault f)
  | .ok action =>
    log .info (action ++ " plan held for review")
    return .ok (.review p summary sql)

/-- Run a plan that only reads; hand back any other. -/
def carryOut (p : Plan) (sql summary : String) : DatabaseProgram (Except Failure Outcome) :=
  if p.isReadOnly then p.execute sql summary else p.holdForReview sql summary

end Plan

namespace Retained

/-- Do with a plan what is to be done with it. It is retained as soon as it has a statement. -/
def accept (retained : Retained) (p : Plan) (sql? : Option String := none) :
    DatabaseProgram (Except Failure Outcome × Retained) := do
  match p.summary with
  | .error e => return (.error (.ofNumeral e), retained)
  | .ok summary =>
    if p.needOtherTables then
      Plan.log .info "Plan requires other tables; nothing to execute"
      return (.ok (.needOtherTables p summary), retained)
    else match p.statementOr sql? with
      | .error e => return (.error (.ofStatement e), retained)
      | .ok sql => return (← p.carryOut sql summary, some p)

/-- Run a plan that was moved to another page. -/
def showPage (p : Plan) (sql : String) : DatabaseProgram (Except Failure Outcome) := do
  match Numeral.write? p.page with
  | .error e => return .error (.ofNumeral e)
  | .ok page =>
    Plan.log .info ("Paginating to page " ++ page)
    match p.summary with
    | .error e => return .error (.ofNumeral e)
    | .ok summary => p.execute sql summary

/-- Run the retained plan at another page. The plan at that page is retained as soon as it has a
statement. -/
def navigate (retained : Retained) (direction : Navigation) :
    DatabaseProgram (Except Failure Outcome × Retained) := do
  match retained with
  | none => return (.error (.plan (.noActivePlan PlanError.noActivePlanMessage)), none)
  | some current =>
    if current.isReadOnly then
      let p := current.step direction
      match p.statement with
      | .error e => return (.error (.ofStatement e), retained)
      | .ok sql => return (← showPage p sql, some p)
    else
      return (.error (.plan (Plan.Violation.notPaginable current.action).toPlanError), retained)

/-- The position in the data without a plan: the start of a table. -/
def startState (table : Option String) (defaultLimit : Int) : Except Numeral.Error String := do
  let limit ← Numeral.write? defaultLimit
  let table := (table.filter (· != "")).getD "(none)"
  return "Current table: " ++ table ++ ", Page: 1, Limit: " ++ limit

/-- The position in the data. -/
def viewState (retained : Retained) (table : Option String) (defaultLimit : Int) :
    Except Numeral.Error String :=
  match retained.bind fun p => p.anchor?.map fun anchor => (p, anchor) with
  | none => startState table defaultLimit
  | some (p, anchor) => do
    let page ← Numeral.write? p.page
    let limit ← Numeral.write? p.limit
    let ordering := match p.sort with
      | some s => if s.column = "" then "" else ", Sort: " ++ s.column ++ " " ++ s.order
      | none => ""
    return "Current table: " ++ anchor ++ ", Page: " ++ page ++ ", Limit: " ++ limit ++ ordering

end Retained

end QueryPlans
