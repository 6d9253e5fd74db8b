import QueryPlans.Plan.Basic
import QueryPlans.Settings.Source
import QueryPlans.Validation.Reader

/-!
# Settings of the planner

* `PlannerSettings` — page sizes, and what the model is told and asked for.
* `PlannerSettings.read` — the settings of a source; the greatest page size is not below the
  default.
* `PlannerSettings.applyTo` — a plan with the page size that the settings ask for.
-/

namespace QueryPlans

/-- How plans are shaped before they reach the database. -/
structure PlannerSettings where
  /-- Rows per page for a plan that does not say. -/
  defaultLimit : Int := 20
  /-- The greatest number of rows per page, if there is one. -/
  maxLimit : Option Int := none
  /-- Describe related tables to the model. -/
  includeRelatedSchemas : Bool := true
  /-- Ask the model for a bare JSON object. -/
  jsonOutput : Bool := true
  deriving DecidableEq, Repr, Inhabited

namespace PlannerSettings

/-- The settings hold together: the greatest page size is not below the default. -/
def checkLimits (s : PlannerSettings) : Checked PlannerSettings :=
  match s.maxLimit with
  | none => .valid s
  | some most =>
    if most < s.defaultLimit then
      .issue (.refused ("max_limit (" ++ Numeral.text most ++ ") must be >= default_limit (" ++
        Numeral.text s.defaultLimit ++ ")"))
    else .valid s

def names : List String := ["default_limit", "max_limit", "include_related_schemas", "json_output"]

def ofFields (fields : Json.Fields) : Checked PlannerSettings :=
  let default : PlannerSettings := {}
  Checked.andThen (PlannerSettings.mk
    <$> Reader.optional fields "default_limit" default.defaultLimit
      (Reader.above 0 (Reader.atMost 10000 Reader.integer))
    <*> Reader.optional fields "max_limit" none (Reader.nullable (Reader.above 0 Reader.integer))
    <*> Reader.optional fields "include_related_schemas" default.includeRelatedSchemas
      Reader.boolean
    <*> Reader.optional fields "json_output" default.jsonOutput Reader.boolean) checkLimits

/-- The settings of a source, behind the given ones. -/
def read (s : Source) (given : Json.Fields) : Checked PlannerSettings :=
  ofFields (s.fields given "planner_" names)

/-- The page size for a plan: its own, or the default if none was given, but at most the greatest. -/
def limitFor (s : PlannerSettings) (p : Plan) : Int :=
  let limit := if p.isGiven .limit then p.limit else s.defaultLimit
  match s.maxLimit with
  | none => limit
  | some most => if most < limit then most else limit

/-- A plan with the page size that the settings ask for. -/
def applyTo (s : PlannerSettings) (p : Plan) : Plan :=
  if s.limitFor p = p.limit then p else p.withLimit (s.limitFor p)

end PlannerSettings

end QueryPlans
