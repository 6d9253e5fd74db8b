import QueryPlans.Text.Search

/-!
# Issues of a value that does not fit

* `Place` — a step on the way into a value: a field or a position of a list.
* `Issue.Kind` — what is wrong, with `code` and `message`.
* `Issue` — what is wrong and where.
-/

namespace QueryPlans

/-- A step on the way into a value. -/
inductive Place where
  | field (name : String)
  | index (i : Nat)
  deriving DecidableEq, Repr

namespace Issue

/-- What is wrong with a value. -/
inductive Kind where
  | missing
  | textExpected
  | textTooShort (least : Nat)
  | listExpected
  | listTooShort (least actual : Nat)
  | objectExpected
  | modelExpected (model : String)
  | integerExpected
  | integerUnreadable
  | integerTooLarge
  | integerFractional
  | finiteExpected
  | booleanExpected
  | booleanUnreadable
  | numberExpected
  | numberUnreadable
  | notGreaterThan (bound : Nat)
  | lessThan (bound : Nat)
  | greaterThan (bound : Nat)
  | notListed (options : List String)
  | urlExpected
  | urlUnreadable (why : String)
  | pathExpected
  | refused (reason : String)
  deriving DecidableEq, Repr

/-- Options between single quotes, the last one after "or". -/
def listOptions : List String → String
  | [] => ""
  | [s] => "'" ++ s ++ "'"
  | [s, t] => "'" ++ s ++ "' or '" ++ t ++ "'"
  | s :: rest => "'" ++ s ++ "', " ++ listOptions rest

/-- A number of things, in the singular for one. -/
def countOf (n : Nat) (thing : String) : String :=
  Nat.repr n ++ " " ++ thing ++ (if n = 1 then "" else "s")

/-- The short name of a kind of issue. -/
def Kind.code : Kind → String
  | missing => "missing"
  | textExpected => "string_type"
  | textTooShort _ => "string_too_short"
  | listExpected => "list_type"
  | listTooShort _ _ => "too_short"
  | objectExpected => "dict_type"
  | modelExpected _ => "model_type"
  | integerExpected => "int_type"
  | integerUnreadable => "int_parsing"
  | integerTooLarge => "int_parsing_size"
  | integerFractional => "int_from_float"
  | finiteExpected => "finite_number"
  | booleanExpected => "bool_type"
  | booleanUnreadable => "bool_parsing"
  | numberExpected => "float_type"
  | numberUnreadable => "float_parsing"
  | notGreaterThan _ => "greater_than"
  | lessThan _ => "greater_than_equal"
  | greaterThan _ => "less_than_equal"
  | notListed _ => "literal_error"
  | urlExpected => "url_type"
  | urlUnreadable _ => "url_parsing"
  | pathExpected => "path_type"
  | refused _ => "value_error"

/-- What is reported for a kind of issue. -/
def Kind.message : Kind → String
  | missing => "Field required"
  | textExpected => "Input should be a valid string"
  | textTooShort least => "String should have at least " ++ countOf least "character"
  | listExpected => "Input should be a valid list"
  | listTooShort least actual =>
    "List should have at least " ++ countOf least "item" ++ " after validation, not " ++
      Nat.repr actual
  | objectExpected => "Input should be a valid dictionary"
  | modelExpected model => "Input should be a valid dictionary or instance of " ++ model
  | integerExpected => "Input should be a valid integer"
  | integerUnreadable => "Input should be a valid integer, unable to parse string as an integer"
  | integerTooLarge => "Unable to parse input string as an integer, exceeded maximum size"
  | integerFractional =>
    "Input should be a valid integer, got a number with a fractional part"
  | finiteExpected => "Input should be a finite number"
  | booleanExpected => "Input should be a valid boolean"
  | booleanUnreadable => "Input should be a valid boolean, unable to interpret input"
  | numberExpected => "Input should be a valid number"
  | numberUnreadable => "Input should be a valid number, unable to parse string as a number"
  | notGreaterThan bound => "Input should be greater than " ++ Nat.repr bound
  | lessThan bound => "Input should be greater than or equal to " ++ Nat.repr bound
  | greaterThan bound => "Input should be less than or equal to " ++ Nat.repr bound
  | notListed options => "Input should be " ++ listOptions options
  | urlExpected => "URL input should be a string or URL"
  | urlUnreadable why => "Input should be a valid URL, " ++ why
  | pathExpected => "Input is not a valid path"
  | refused reason => "Value error, " ++ reason

end Issue

/-- What is wrong with a value, and where in it. -/
structure Issue where
  path : List Place
  kind : Issue.Kind
  deriving DecidableEq, Repr

end QueryPlans
