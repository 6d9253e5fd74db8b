import QueryPlans.Fault
import QueryPlans.Program.Basic
import QueryPlans.Schema.Basic

/-!
# Calls on a database

* `Rows` — what a statement gives: columns, and rows as fields by column.
* `Database.Call` — the calls that a database answers; `Database.interface` with their answers.
* `Database.totalOf?` — the number of rows in the answer to a count.
-/

namespace QueryPlans

/-- What a statement gives. -/
structure Rows where
  columns : List String
  rows : List Json.Fields
  rowCount : Int
  deriving Repr, Inhabited

namespace Database

/-- A call on a database. -/
inductive Call where
  | connect
  | close
  | execute (sql : String)
  | fetchValue (sql : String)
  | describeColumns (table : String)
  | describeForeignKeys (table : String)
  | tableExists (name : String)
  deriving DecidableEq, Repr

/-- The type of the value that a call gives. -/
abbrev Call.Value : Call → Type
  | connect => Unit
  | close => Unit
  | execute _ => Rows
  | fetchValue _ => Json
  | describeColumns _ => List Column
  | describeForeignKeys _ => List ForeignKey
  | tableExists _ => Bool

/-- Every call is answered with its value or with a fault. -/
def interface : Interface := ⟨Call, fun c => Except Fault c.Value⟩

def call (c : Call) : Program interface (Except Fault c.Value) := Program.ask c .done

/-- The fault of a value that is no number. -/
def notANumber (kind : String) : Fault :=
  .raised .badType
    ("int() argument must be a string, a bytes-like object or a real number, not '" ++ kind ++ "'")

/-- The number of rows in the answer to a count; null for an unknown number. A double loses the
digits after its point, a text is read. -/
def totalOf? : Json → Except Fault (Option Int)
  | .null => .ok none
  | .int n => .ok (some n)
  | .bool b => .ok (some (if b then 1 else 0))
  | .float (.infinity _) => .error (.raised .overflow "cannot convert float infinity to integer")
  | .float x =>
    match x.truncate? with
    | some n => .ok (some n)
    | none => .error (.raised .badValue "cannot convert float NaN to integer")
  | .str s => (Numeral.read s).mapError Fault.ofNumeral |>.map some
  | v => .error (notANumber (Plan.kindName v))

end Database

/-- A program that calls on a database. -/
abbrev DatabaseProgram := Program Database.interface

end QueryPlans
