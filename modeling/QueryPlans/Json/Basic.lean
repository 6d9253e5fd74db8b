import QueryPlans.Number.Double

/-!
# JSON values

* `Json` — values; an integer and a double are different numbers, and an object keeps its fields
  in order.
* `Json.Fields` — the fields of an object: `get?`, `put` (a field that is there keeps its
  position), `names`.
* `Json.depth` — how many lists and objects are around each other in a value.
* `Json.isTruthy` — whether a value counts as present: not null, false, zero, or empty.
-/

namespace QueryPlans

/-- A JSON value. -/
inductive Json where
  | null
  | bool (b : Bool)
  | int (n : Int)
  | float (x : Double)
  | str (s : String)
  | arr (items : List Json)
  | obj (fields : List (String × Json))
  deriving Inhabited, Repr

namespace Json

/-- The fields of an object in order. -/
abbrev Fields := List (String × Json)

/-- The value of a field: that of its first mention. -/
def Fields.get? (fields : Fields) (name : String) : Option Json :=
  match fields with
  | [] => none
  | f :: rest => if f.1 = name then some f.2 else Fields.get? rest name

/-- Set a field: in its place if it is there, else at the end. -/
def Fields.put (name : String) (value : Json) : Fields → Fields
  | [] => [(name, value)]
  | f :: rest => if f.1 = name then (name, value) :: rest else f :: Fields.put name value rest

def Fields.names (fields : Fields) : List String := fields.map (·.1)

/-- A field that was put is found. -/
theorem Fields.get?_put_self (name : String) (value : Json) (fields : Fields) :
    Fields.get? (Fields.put name value fields) name = some value := by
  induction fields with
  | nil => simp [Fields.put, Fields.get?]
  | cons f rest ih =>
    by_cases h : f.1 = name
    · simp [Fields.put, Fields.get?, h]
    · simp [Fields.put, Fields.get?, h, ih]

/-- The other fields stay as they are. -/
theorem Fields.get?_put_of_ne {name other : String} (value : Json) (fields : Fields)
    (hne : other ≠ name) :
    Fields.get? (Fields.put name value fields) other = Fields.get? fields other := by
  induction fields with
  | nil => simp [Fields.put, Fields.get?, hne.symm]
  | cons f rest ih =>
    by_cases h : f.1 = name
    · simp [Fields.put, Fields.get?, h, hne.symm]
    · simp [Fields.put, Fields.get?, h, ih]

/-- The value of a field of an object; other values have none. -/
def field? (v : Json) (name : String) : Option Json :=
  match v with
  | obj fields => Fields.get? fields name
  | _ => none

/-- The text of a string value. -/
def str? : Json → Option String
  | str s => some s
  | _ => none

/-- Whether a value counts as present: not null, false, zero or empty. -/
def isTruthy : Json → Bool
  | null => false
  | bool b => b
  | int n => n != 0
  | float x => !x.isZero
  | str s => s != ""
  | arr items => !items.isEmpty
  | obj fields => !fields.isEmpty

mutual

/-- How many lists and objects are around each other in a value. -/
def depth : Json → Nat
  | arr items => depthOfItems items + 1
  | obj fields => depthOfFields fields + 1
  | _ => 0

/-- The greatest depth of the items of a list. -/
def depthOfItems : List Json → Nat
  | [] => 0
  | v :: rest => max (depth v) (depthOfItems rest)

/-- The greatest depth of the values of an object. -/
def depthOfFields : Fields → Nat
  | [] => 0
  | (_, v) :: rest => max (depth v) (depthOfFields rest)

end

/-- Whether a value is a list. -/
def isArr : Json → Bool
  | arr _ => true
  | _ => false

end Json

end QueryPlans
