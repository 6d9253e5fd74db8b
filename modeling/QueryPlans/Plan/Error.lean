import QueryPlans.Json.Basic
import QueryPlans.Text.Search

/-!
# What goes wrong with a plan

* `PlanError` — the errors a request about plans can end in; each has a message and a context of
  named values.
-/

namespace QueryPlans

/-- An error of a request about plans. -/
inductive PlanError where
  /-- An error of no particular kind. -/
  | general (message : String) (context : Json.Fields)
  /-- A reply without a usable plan. -/
  | parse (reason raw : String) (detail : Option String)
  /-- A plan that breaks the rules of its action. -/
  | validation (message : String) (action : Option String)
  /-- A table that cannot be described. -/
  | schema (table message : String)
  /-- A statement that the database did not run. -/
  | execution (message sql : String)
  /-- A page was asked for before there was a plan. -/
  | noActivePlan (message : String)
  deriving Repr

namespace PlanError

/-- What is reported when there is no plan yet. -/
def noActivePlanMessage : String := "No query plan to paginate; ask a question first"

/-- Characters of a reply that are kept in a context. -/
def rawLimit : Nat := 500

def message : PlanError → String
  | general message _ => message
  | parse reason _ detail =>
    match detail with
    | none => reason ++ " in AI response"
    | some d => if d = "" then reason ++ " in AI response" else reason ++ " in AI response: " ++ d
  | validation message _ => message
  | schema _ message => message
  | execution message _ => message
  | noActivePlan message => message

/-- The values that explain an error. -/
def context : PlanError → Json.Fields
  | general _ context => context
  | parse reason raw _ => [("reason", .str reason), ("raw", .str (Text.take rawLimit raw))]
  | validation _ action => [("action", action.elim .null .str)]
  | schema table _ => [("table", .str table)]
  | execution _ sql => [("sql", .str sql)]
  | noActivePlan _ => []

/-- The name of the kind of error. -/
def kind : PlanError → String
  | general .. => "QueryPlanError"
  | parse .. => "PlanParseError"
  | validation .. => "PlanValidationError"
  | schema .. => "SchemaResolutionError"
  | execution .. => "PlanExecutionError"
  | noActivePlan .. => "NoActivePlanError"

/-- The values that belong to the kind of error itself. -/
def attributes : PlanError → Json.Fields
  | general .. => []
  | parse reason raw _ => [("reason", .str reason), ("raw", .str raw)]
  | validation _ action => [("action", action.elim .null .str)]
  | schema table _ => [("table", .str table)]
  | execution _ sql => [("sql", .str sql)]
  | noActivePlan _ => []

/-- An error as an object for a log. -/
def toObject (e : PlanError) : Json :=
  .obj [("error_type", .str e.kind), ("message", .str e.message), ("context", .obj e.context)]

end PlanError

end QueryPlans
