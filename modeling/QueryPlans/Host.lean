import QueryPlans.Json.Decode
import QueryPlans.Validation.Issue

/-!
# The process and its libraries

What a request ends in also depends on things that the program does not decide.

* `Reports` — how the library that checks values reports one that does not fit.
* `Host` — these texts, and how deep values may be nested.
-/

namespace QueryPlans

/-- How values that do not fit are reported. The layout of these texts, and what they tell of the value
itself, belong to the library that checks values, and differ between its versions. -/
structure Reports where
  /-- The text for a value that does not fit the model of a name. -/
  text : (model : String) → (value : Json) → List Issue → String

namespace Reports

/-- Nothing is said of the issues. -/
instance : Inhabited Reports := ⟨⟨fun _ _ _ => ""⟩⟩

instance : Repr Reports := ⟨fun _ _ => "reports"⟩

/-- The steps to an issue, with points between them. -/
def place (path : List Place) : String :=
  Text.joined "." (path.map fun
    | .field name => name
    | .index i => Nat.repr i)

/-- The number of issues, and for each where it is and what is wrong. -/
def listed : Reports where
  text model _ issues :=
    Issue.countOf issues.length "validation error" ++ " for " ++ model ++
      String.join (issues.map fun i =>
        "\n" ++ place i.path ++ "\n  " ++ i.kind.message ++ " [type=" ++ i.kind.code ++ "]")

end Reports

/-- What the process and its libraries decide. -/
structure Host where
  depths : Json.Depths := {}
  reports : Reports := default
  deriving Repr, Inhabited

end QueryPlans
