import QueryPlans.Json.Basic
import QueryPlans.Settings.Dotenv
import QueryPlans.Text.Case

/-!
# Where settings come from

* `Source` — the variables of the environment, and those of a file that count when the environment
  has none.
* `Source.find?` — a variable by its name, in any case.
* `Source.fields` — the fields of a group of settings: given ones come before the environment, the
  environment before the file.
* `Source.withFile` — an environment in which the variables of a file come first.
-/

namespace QueryPlans

/-- Variables, from the environment and from a file. -/
structure Source where
  environment : List (String × String) := []
  file : List (String × Option String) := []
  deriving Repr, Inhabited

namespace Source

/-- The value of the last variable with a name, in any case. -/
def lastNamed? {α : Type} (name : String) (named : List (String × α)) : Option α :=
  (named.reverse.find? fun v => Text.lower v.1 == name).map (·.2)

/-- A variable by its name in lower case. -/
def find? (s : Source) (name : String) : Option String :=
  match lastNamed? name s.environment with
  | some value => some value
  | none => (lastNamed? name s.file).join

/-- The value of a field: a given one, or the variable with its name behind a common start. -/
def value? (s : Source) (given : Json.Fields) (start field : String) : Option Json :=
  match Json.Fields.get? given field with
  | some v => some v
  | none => (s.find? (start ++ field)).map .str

/-- The fields of a group of settings. -/
def fields (s : Source) (given : Json.Fields) (start : String) (names : List String) :
    Json.Fields :=
  names.filterMap fun name => (s.value? given start name).map fun v => (name, v)

/-- Set a variable: in its place if it is there, else at the end. -/
def setVariable (name value : String) : List (String × String) → List (String × String)
  | [] => [(name, value)]
  | v :: rest => if v.1 = name then (name, value) :: rest else v :: setVariable name value rest

/-- The environment with the variables of a file in place of its own. -/
def withFile (environment : List (String × String)) (file : List (String × Option String)) :
    List (String × String) :=
  file.foldl (fun env v => v.2.elim env fun value => setVariable v.1 value env) environment

end Source

end QueryPlans
