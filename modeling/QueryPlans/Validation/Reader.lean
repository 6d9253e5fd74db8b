import QueryPlans.Json.Basic
import QueryPlans.Number.Numeral
import QueryPlans.Validation.Checked

/-!
# Reading values of a type from JSON

A reader accepts the values of a type and some that stand for them: a text of digits for an
integer, a word for a truth value.

* `Reader.text`, `Reader.integer`, `Reader.boolean`, `Reader.number`, `Reader.listOf`,
  `Reader.oneOf` — readers for one value.
* `Reader.required`, `Reader.optional` — a field of an object.
-/

namespace QueryPlans

/-- A check that turns a JSON value into a value of a type. -/
abbrev Reader (α : Type) := Json → Checked α

namespace Reader

variable {α : Type}

def text : Reader String
  | .str s => .valid s
  | _ => .issue .textExpected

/-- A text of at least so many characters. -/
def textOfAtLeast (least : Nat) : Reader String := fun v =>
  (text v).andThen fun s => if s.length < least then .issue (.textTooShort least) else .valid s

/-- A value that may be left open with null. -/
def nullable (read : Reader α) : Reader (Option α)
  | .null => .valid none
  | v => (read v).map some

def listOf (read : Reader α) : Reader (List α)
  | .arr items => Checked.all read items
  | _ => .issue .listExpected

def oneOf (options : List (String × α)) : Reader α := fun v =>
  match v.str?.bind fun s => options.lookup s with
  | some a => .valid a
  | none => .issue (.notListed (options.map (·.1)))

/-- Doubles from this one on are not read as integers: `2 ^ 63`. -/
def integerBound : Nat := Nat.pow 2 63

/-- An integer; also a truth value, a double without a fraction, or a text. -/
def integer : Reader Int
  | .int n => .valid n
  | .bool b => .valid (if b then 1 else 0)
  | .float x =>
    match x.truncate? with
    | none => .issue .finiteExpected
    | some n =>
      if !x.isIntegral then .issue .integerFractional
      else if integerBound ≤ n.natAbs then .issue .integerTooLarge
      else .valid n
  | .str s =>
    match Numeral.readLenient? s with
    | .ok n => .valid n
    | .error .tooLong => .issue .integerTooLarge
    | .error .notAnInteger => .issue .integerUnreadable
  | _ => .issue .integerExpected

def falseWords : List String := ["0", "off", "f", "false", "n", "no"]

def trueWords : List String := ["1", "on", "t", "true", "y", "yes"]

/-- A truth value; also `0` or `1`, or a word. -/
def boolean : Reader Bool
  | .bool b => .valid b
  | .int n =>
    if n = 0 then .valid false
    else if n = 1 then .valid true
    else if -(integerBound : Int) ≤ n ∧ n < integerBound then .issue .booleanUnreadable
    else .issue .booleanExpected
  | .float x =>
    match x.isIntegral, x.truncate? with
    | true, some 0 => .valid false
    | true, some 1 => .valid true
    | _, _ => .issue .booleanExpected
  | .str s =>
    let word := s.toLower
    if falseWords.contains word then .valid false
    else if trueWords.contains word then .valid true
    else .issue .booleanUnreadable
  | _ => .issue .booleanExpected

/-- A number; also a truth value or a text. -/
def number : Reader Double
  | .float x => .valid x
  | .int n => .valid (Double.ofInt n)
  | .bool b => .valid (Double.ofInt (if b then 1 else 0))
  | .str s =>
    match Numeral.readDouble? s with
    | some x => .valid x
    | none => .issue .numberUnreadable
  | _ => .issue .numberExpected

/-- An integer above a bound. -/
def above (bound : Nat) (read : Reader Int) : Reader Int := fun v =>
  (read v).andThen fun n => if n ≤ bound then .issue (.notGreaterThan bound) else .valid n

/-- An integer that is not below a bound. -/
def atLeast (bound : Nat) (read : Reader Int) : Reader Int := fun v =>
  (read v).andThen fun n => if n < bound then .issue (.lessThan bound) else .valid n

/-- An integer that is not above a bound. -/
def atMost (bound : Nat) (read : Reader Int) : Reader Int := fun v =>
  (read v).andThen fun n => if n ≤ bound then .valid n else .issue (.greaterThan bound)

/-- A model: an object, read by its fields. -/
def model (name : String) (read : Json.Fields → Checked α) : Reader α
  | .obj fields => read fields
  | _ => .issue (.modelExpected name)

/-- A field that must be there. -/
def required (fields : Json.Fields) (name : String) (read : Reader α) : Checked α :=
  match Json.Fields.get? fields name with
  | some v => (read v).under (.field name)
  | none => (Checked.issue .missing).under (.field name)

/-- A field with a value for its absence. -/
def optional (fields : Json.Fields) (name : String) (default : α) (read : Reader α) : Checked α :=
  match Json.Fields.get? fields name with
  | some v => (read v).under (.field name)
  | none => .valid default

end Reader

end QueryPlans
