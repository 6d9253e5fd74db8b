import QueryPlans.Host
import QueryPlans.Plan.Error
import QueryPlans.Plan.Extract
import QueryPlans.Plan.Validate

/-!
# Plans from replies

* `Plan.read` — the plan in a reply, or why there is none; `Plan.readReply` — of a reply that may be
  missing.
* `Plan.ReadError` — there is no object in the reply, its text is not JSON, it is no object, its
  fields do not fit, or it exceeds a limit: an integer is too long to be read, or values are nested too
  deep to be read, or to be written in an issue.
* `Plan.ReadError.toPlanError?` — all but the last are errors of the plan.
-/

namespace QueryPlans.Plan

/-- Why a reply has no plan. -/
inductive ReadError where
  | noObject (reply : String)
  | undecodable (text : String) (reason : Json.Reason) (position : Json.Position)
  | notAnObject (text : String) (found : String)
  /-- The fields do not fit; the report is that of the library which checked them. -/
  | invalid (text : String) (issues : List Issue) (report : String)
  | exceeded (l : Json.Limit)
  deriving Repr

/-- The kind of a JSON value, as it is named in a message. -/
def kindName : Json → String
  | .null => "NoneType"
  | .bool _ => "bool"
  | .int _ => "int"
  | .float _ => "float"
  | .str _ => "str"
  | .arr _ => "list"
  | .obj _ => "dict"

/-- The model that the fields of a plan have to fit. -/
def modelName : String := "QueryPlan"

/-- The plan of a JSON text. A value in it that the issues write out may be nested too deep for that. -/
def ofText (text : String) (host : Host := {}) : Except ReadError Plan :=
  match Json.decode text host.depths.read with
  | .error (.malformed reason position) => .error (.undecodable text reason position)
  | .error (.exceeded l) => .error (.exceeded l)
  | .ok (.obj fields) =>
    if (refusedValues fields).any fun v => host.depths.write < v.depth then .error (.exceeded .written)
    else
      match ofFields fields with
      | .valid p => .ok p
      | .invalid issues => .error (.invalid text issues (host.reports.text modelName (.obj fields) issues))
  | .ok v => .error (.notAnObject text (kindName v))

def read (reply : String) (host : Host := {}) : Except ReadError Plan :=
  let text := objectText reply
  if text = "" then .error (.noObject reply) else ofText text host

/-- The plan in a reply that may be missing: a missing reply reads as an empty one. -/
def readReply (reply : Option String) (host : Host := {}) : Except ReadError Plan :=
  read (reply.getD "") host

/-- The reason of a reply without an object. -/
def noObjectReason : String := "no JSON found"

/-- The reason of a reply whose object is not a plan. -/
def malformedReason : String := "malformed JSON"

/-- The error of the plan, unless the reply exceeds a limit. -/
def ReadError.toPlanError? : ReadError → Option PlanError
  | noObject reply => some (.parse noObjectReason reply none)
  | undecodable text reason position =>
    some (.parse malformedReason text (Json.DecodeError.malformed reason position).message)
  | notAnObject text found =>
    some (.parse malformedReason text ("expected an object, got " ++ found))
  | invalid text _ report => some (.parse malformedReason text report)
  | exceeded _ => none

def ReadError.message : ReadError → String
  | exceeded l => l.message
  | e => e.toPlanError?.elim "" PlanError.message

end QueryPlans.Plan
