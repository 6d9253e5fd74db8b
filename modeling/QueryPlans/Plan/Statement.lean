import QueryPlans.Number.Numeral
import QueryPlans.Plan.Basic
import QueryPlans.Plan.Error
import QueryPlans.Text.Search

/-!
# Statements of a plan

A plan becomes one PostgreSQL statement.  The statement that fetches a page and the one that counts
all rows share their FROM and WHERE clauses.  Conditions and values stand in the statement as they
stand in the plan.

* `Plan.fromClause`, `Plan.whereClause` — the shared clauses.
* `Plan.selectStatement`, `Plan.updateStatement`, `Plan.deleteStatement`, `Plan.insertStatement`.
* `Plan.countStatement?` — the count of all rows; none without a table.
* `Plan.statement` — the statement of the plan's action.
* `Plan.Violation` — a plan that has no statement.
-/

namespace QueryPlans.Plan

/-- Why a plan has no statement. -/
inductive Violation where
  | noTables (action : Action)
  | updateWithoutTables
  | updateWithoutValues
  | deleteWithoutTables
  | insertWithoutTables
  | insertWithoutRows
  | unsupported (action : Action)
  | notPaginable (action : Action)
  deriving DecidableEq, Repr

def Violation.message : Violation → String
  | noTables _ => "query plan has no tables"
  | updateWithoutTables => "update plan has no tables"
  | updateWithoutValues => "update plan has no SET values"
  | deleteWithoutTables => "delete plan has no tables"
  | insertWithoutTables => "insert plan has no tables"
  | insertWithoutRows => "insert plan has no columns or values"
  | unsupported action => "unsupported action: " ++ action.label
  | notPaginable action => "cannot paginate a " ++ action.label ++ " plan"

/-- The action of the plan that has no statement. -/
def Violation.action : Violation → Action
  | noTables action => action
  | updateWithoutTables => .update
  | updateWithoutValues => .update
  | deleteWithoutTables => .delete
  | insertWithoutTables => .insert
  | insertWithoutRows => .insert
  | unsupported action => action
  | notPaginable action => action

/-- The error of the plan. -/
def Violation.toPlanError (v : Violation) : PlanError :=
  .validation v.message v.action.name?

/-- Why there is no statement: the plan breaks a rule, or a number in it cannot be written out. -/
inductive StatementError where
  | violation (v : Violation)
  | numeral (e : Numeral.Error)
  deriving DecidableEq, Repr

def StatementError.message : StatementError → String
  | violation v => v.message
  | numeral e => e.message

/-- The digits of a number in a statement. -/
def digits (n : Int) : Except StatementError String :=
  (Numeral.write? n).mapError .numeral

/-! ## Clauses -/

/-- The condition mentions the table: its name stands there with a point after it. -/
def mentions (condition table : String) : Bool :=
  Text.occursIn (table.toList ++ ['.']) condition.toList

/-- The first of the conditions that mentions a table. -/
def joinCondition? (joins : List String) (table : String) : Option String :=
  joins.find? (mentions · table)

/-- The line that joins a table after the anchor. It is joined on the first condition that mentions
it, and with every row if there is none or it is empty: it is never left out. -/
def joinLine (joins : List String) (table : String) : String :=
  let condition := (joinCondition? joins table).getD ""
  if condition = "" then "CROSS JOIN " ++ table
  else "JOIN " ++ table ++ " ON " ++ condition

/-- The tables of a FROM clause, the anchor first and each other table on a line of its own. -/
def fromLines (joins : List String) (anchor : String) (others : List String) : String :=
  others.foldl (fun clause table => clause ++ "\n" ++ joinLine joins table) anchor

/-- The FROM clause without its keyword. -/
def fromClause (p : Plan) : Except Violation String :=
  match p.tables with
  | [] => .error (.noTables p.action)
  | anchor :: others => .ok (fromLines p.joins anchor others)

/-- The WHERE clause with the line break before it; empty without filters. -/
def whereClause (p : Plan) : String :=
  match p.filters with
  | [] => ""
  | filters => "\nWHERE " ++ Text.joined "\n  AND " filters

/-- The ORDER BY clause with the line break before it; empty without a column. -/
def orderClause (p : Plan) : String :=
  match p.sort with
  | some s => if s.column = "" then "" else "\nORDER BY " ++ s.column ++ " " ++ s.direction
  | none => ""

/-- The columns to show. -/
def columnList (p : Plan) : String :=
  match p.select with
  | [] => "*"
  | columns => Text.joined ", " columns

/-- The LIMIT clause with the line break before it, and the OFFSET after the first page. -/
def limitClause (p : Plan) : Except StatementError String := do
  let limit ← digits p.limit
  if 1 < p.page then
    let offset ← digits p.offset
    return "\nLIMIT " ++ limit ++ " OFFSET " ++ offset
  else
    return "\nLIMIT " ++ limit

/-! ## Statements -/

/-- The statement that fetches the plan's page, without its LIMIT clause. -/
def selectBody (p : Plan) : Except Violation String :=
  p.fromClause.map fun tables =>
    "SELECT " ++ p.columnList ++ "\nFROM " ++ tables ++ p.whereClause ++ p.orderClause

/-- The statement that fetches the plan's page. -/
def selectStatement (p : Plan) : Except StatementError String := do
  let body ← p.selectBody.mapError .violation
  let limit ← p.limitClause
  return body ++ limit

/-- The statement that counts the rows of all pages; none without a table. -/
def countStatement? (p : Plan) : Option String :=
  p.fromClause.toOption.map fun tables => "SELECT count(*) FROM " ++ tables ++ p.whereClause

/-- The statement that updates the anchor table. -/
def updateStatement (p : Plan) : Except Violation String :=
  match p.tables, p.updateSet with
  | [], _ => .error .updateWithoutTables
  | _, [] => .error .updateWithoutValues
  | anchor :: _, pairs =>
    .ok ("UPDATE " ++ anchor ++ "\nSET " ++
      Text.joined ", " (pairs.map fun (column, value) => column ++ " = " ++ value) ++
      p.whereClause)

/-- The statement that deletes from the anchor table. -/
def deleteStatement (p : Plan) : Except Violation String :=
  match p.tables with
  | [] => .error .deleteWithoutTables
  | anchor :: _ => .ok ("DELETE FROM " ++ anchor ++ p.whereClause)

def rowText (row : List String) : String := "(" ++ Text.joined ", " row ++ ")"

/-- The statement that inserts into the anchor table. -/
def insertStatement (p : Plan) : Except Violation String :=
  match p.tables, p.insertColumns, p.insertValues with
  | [], _, _ => .error .insertWithoutTables
  | _, [], _ => .error .insertWithoutRows
  | _, _, [] => .error .insertWithoutRows
  | anchor :: _, columns, rows =>
    .ok ("INSERT INTO " ++ anchor ++ " (" ++ Text.joined ", " columns ++ ")\nVALUES " ++
      Text.joined ",\n       " (rows.map rowText))

/-- The statement of the plan's action. -/
def statement (p : Plan) : Except StatementError String :=
  match p.action with
  | .select => p.selectStatement
  | .unset => p.selectStatement
  | .update => p.updateStatement.mapError .violation
  | .delete => p.deleteStatement.mapError .violation
  | .insert => p.insertStatement.mapError .violation
  | action => .error (.violation (.unsupported action))

end QueryPlans.Plan
