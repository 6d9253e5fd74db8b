import QueryPlans.Json.Encode

/-!
# SQL literals

* `sqlLiteral?` — the SQL text of a scalar value. A text stands for itself: who writes the plan
  quotes it. A list or an object has no literal.
-/

namespace QueryPlans

/-- Why a value has no SQL literal. -/
inductive LiteralError where
  | notScalar (value : Json)
  deriving Repr

def LiteralError.message : LiteralError → String
  | notScalar value => "expected a scalar SQL value, got " ++ value.encode

/-- The SQL text of a scalar value. -/
def sqlLiteral? : Json → Except LiteralError String
  | .null => .ok "NULL"
  | .bool b => .ok (if b then "TRUE" else "FALSE")
  | .int n => .ok (Numeral.text n)
  | .float x => .ok (x.write Double.shortStyle)
  | .str s => .ok s
  | v => .error (.notScalar v)

/-- The SQL texts of several values, up to the first that has none. -/
def sqlLiterals? : List Json → Except LiteralError (List String)
  | [] => .ok []
  | v :: rest => do
    let s ← sqlLiteral? v
    let ss ← sqlLiterals? rest
    return s :: ss

end QueryPlans
