import QueryPlans.Json.Encode

/-!
# Values as cells of a table

* `Json.written` — a value inside a list or an object: texts are quoted, and the words for null and
  truth values are capitalised.
* `Json.cell` — a value in a cell: a text stands as it is, and null leaves the cell empty.
-/

namespace QueryPlans.Json

mutual

def written : Json → String
  | null => "None"
  | bool b => if b then "True" else "False"
  | int n => Numeral.text n
  | float x => x.write Double.shortStyle
  | str s => Text.quote s
  | arr items => "[" ++ Text.joined ", " (writtenItems items) ++ "]"
  | obj fields => "\x7b" ++ Text.joined ", " (writtenFields fields) ++ "\x7d"

def writtenItems : List Json → List String
  | [] => []
  | v :: rest => written v :: writtenItems rest

def writtenFields : Fields → List String
  | [] => []
  | (name, v) :: rest => (Text.quote name ++ ": " ++ written v) :: writtenFields rest

end

def cell : Json → String
  | null => ""
  | str s => s
  | v => written v

end QueryPlans.Json
