import QueryPlans.Plan.Basic
import QueryPlans.Plan.Literal
import QueryPlans.Validation.Reader

/-!
# Plans from JSON objects

Each field is first normalised, then read.  Null stands for the default, a text for a list of one,
a scalar for its SQL literal, a flat list for one row; a page or a page size that is not positive
is replaced by the default.

* `Plan.normalise…` — the normal forms of the fields.
* `Plan.refusedValues` — the values without a literal that are written in the issues.
* `Plan.ofFields` — a plan from the fields of an object, or everything that is wrong with them.
-/

namespace QueryPlans.Plan

/-- Null for the empty list, a text for a list of one, a blank text for the empty list. -/
def normaliseTexts : Json → Json
  | .null => .arr []
  | .str s => if Text.strip s = "" then .arr [] else .arr [.str s]
  | v => v

/-- Null, the empty list and the empty text for all columns; a text for a list of one. -/
def normaliseSelect : Json → Json
  | .null => .arr [.str "*"]
  | .arr [] => .arr [.str "*"]
  | .str s => if s = "" then .arr [.str "*"] else .arr [.str s]
  | v => v

/-- Null for a default. -/
def nullTo (default : Json) : Json → Json
  | .null => default
  | v => v

/-- A number that is not positive for a default. -/
def positiveOr (default n : Int) : Int := if 0 < n then n else default

/-- Null and a blank word for fetching; a word in lower case and without blanks around it. -/
def normaliseAction : Json → Json
  | .null => .str "select"
  | .str s =>
    let word := Text.lower (Text.strip s)
    .str (if word = "" then "select" else word)
  | v => v

/-- The fields of an object with each value as an SQL literal. -/
def literalFields : Json.Fields → Except LiteralError Json.Fields
  | [] => .ok []
  | (name, v) :: rest => do
    let s ← sqlLiteral? v
    let fields ← literalFields rest
    return (name, .str s) :: fields

/-- Null for no values; each value of an object as an SQL literal. -/
def normaliseUpdate : Json → Except LiteralError Json
  | .null => .ok (.obj [])
  | .obj fields => (literalFields fields).map .obj
  | v => .ok v

/-- The values of a row as SQL literals; anything but a list stays as it is. -/
def literalRow : Json → Except LiteralError Json
  | .arr values => (sqlLiterals? values).map fun ss => .arr (ss.map .str)
  | v => .ok v

/-- Rows with their values as SQL literals. -/
def literalRows : List Json → Except LiteralError (List Json)
  | [] => .ok []
  | v :: rest => do
    let row ← literalRow v
    let rows ← literalRows rest
    return row :: rows

/-- A flat list as one row. -/
def asRows (items : List Json) : List Json :=
  if !items.isEmpty && !items.any Json.isArr then [.arr items] else items

/-- Null for no rows; a flat list as one row; each value as an SQL literal. -/
def normaliseRows : Json → Except LiteralError Json
  | .null => .ok (.arr [])
  | .arr items => (literalRows (asRows items)).map .arr
  | v => .ok v

/-- The value for which there is no normal form. -/
def refused? : Except LiteralError Json → Option Json
  | .ok _ => none
  | .error (.notScalar v) => some v

/-- The values that the issues with the new values and with the rows write out: of each the first without
a literal. -/
def refusedValues (fields : Json.Fields) : List Json :=
  [(Field.updateSet, normaliseUpdate), (Field.insertValues, normaliseRows)].filterMap fun (f, normal) =>
    (Json.Fields.get? fields f.name).bind fun v => refused? (normal v)

/-- Read what a normal form gives; its failure is an issue with the value. -/
def refusing {α : Type} (normal : Except LiteralError Json) (read : Reader α) : Checked α :=
  match normal with
  | .ok v => read v
  | .error e => .issue (.refused e.message)

/-- A list of texts in any of its written forms. -/
def readTexts : Reader (List String) := fun v => Reader.listOf Reader.text (normaliseTexts v)

/-- The columns to show. -/
def readSelect : Reader (List String) := fun v => Reader.listOf Reader.text (normaliseSelect v)

/-- A number that is positive or else the default. -/
def readPositive (default : Int) : Reader Int := fun v =>
  (Reader.integer (nullTo (.int default) v)).map (positiveOr default)

/-- An ordering from the fields of an object. -/
def sortOfFields (fields : Json.Fields) : Checked SortKey :=
  let text (name default : String) :=
    Reader.optional fields name default fun v => Reader.text (nullTo (.str default) v)
  SortKey.mk <$> text "column" "" <*> text "order" "asc"

/-- An ordering, or null for none. -/
def readSort : Reader (Option SortKey) := Reader.nullable (Reader.model "PlanSort" sortOfFields)

def readAction : Reader Action := fun v =>
  (Reader.text (normaliseAction v)).map Action.ofName

/-- The pairs of an object whose values are texts. -/
def readPairs : Reader (List (String × String))
  | .obj fields => pairsFrom fields
  | _ => .issue .objectExpected
where
  /-- The pairs of a list of fields. -/
  pairsFrom : Json.Fields → Checked (List (String × String))
    | [] => .valid []
    | (name, v) :: rest =>
      Checked.seq (((Reader.text v).under (.field name)).map fun s pairs => (name, s) :: pairs)
        (pairsFrom rest)

/-- The new values of an update. -/
def readUpdate : Reader (List (String × String)) := fun v => refusing (normaliseUpdate v) readPairs

def readRows : Reader (List (List String)) := fun v =>
  refusing (normaliseRows v) (Reader.listOf (Reader.listOf Reader.text))

/-- A text, or null for the empty text. -/
def readDescription : Reader String := fun v => Reader.text (nullTo (.str "") v)

/-- The fields of a plan that an object has. -/
def givenIn (fields : Json.Fields) : List Field :=
  Field.all.filter fun f => (Json.Fields.get? fields f.name).isSome

/-- A plan from the fields of an object. -/
def ofFields (fields : Json.Fields) : Checked Plan :=
  let read {α : Type} (f : Field) (default : α) (reader : Reader α) : Checked α :=
    Reader.optional fields f.name default reader
  Plan.mk
    <$> read .tables [] readTexts
    <*> read .joins [] readTexts
    <*> read .filters [] readTexts
    <*> read .select ["*"] readSelect
    <*> read .limit defaultLimit (readPositive defaultLimit)
    <*> read .page defaultPage (readPositive defaultPage)
    <*> read .sort none readSort
    <*> read .action .select readAction
    <*> read .updateSet [] readUpdate
    <*> read .insertColumns [] readTexts
    <*> read .insertValues [] readRows
    <*> read .needOtherTables false Reader.boolean
    <*> read .description "" readDescription
    <*> pure (givenIn fields)

end QueryPlans.Plan
