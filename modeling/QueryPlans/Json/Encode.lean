import QueryPlans.Json.Basic
import QueryPlans.Number.Numeral
import QueryPlans.Number.Shortest
import QueryPlans.Text.Digit
import QueryPlans.Text.Half
import QueryPlans.Text.Quoted
import QueryPlans.Text.Search

/-!
# Writing JSON text

* `Json.encode` — one line of ASCII: `", "` between items, `": "` after a name, and escapes for
  quotes, backslashes, controls and everything beyond ASCII (in UTF-16 units).
-/

namespace QueryPlans.Json

/-- A code unit as an escape with four hexadecimal digits. -/
def escapeUnit (u : Nat) : List Char := '\\' :: 'u' :: Text.hexDigits 4 u

/-- A character inside the quotes of a string. -/
def escapeChar (c : Char) : List Char :=
  let n := c.toNat
  if c = '"' then ['\\', '"']
  else if c = '\\' then ['\\', '\\']
  else if c = '\n' then ['\\', 'n']
  else if c = '\r' then ['\\', 'r']
  else if c = '\t' then ['\\', 't']
  else if n = 0x08 then ['\\', 'b']
  else if n = 0x0C then ['\\', 'f']
  else if 0x20 ≤ n && n < 0x7F then [c]
  else if n < 0x10000 then escapeUnit n
  else match Text.half? c with
    | some u => escapeUnit u
    | none =>
      let m := n - 0x10000
      escapeUnit (0xD800 + m / 0x400) ++ escapeUnit (0xDC00 + m % 0x400)

def encodeString (s : String) : String :=
  "\"" ++ String.ofList (s.toList.flatMap escapeChar) ++ "\""

mutual

def encode : Json → String
  | null => "null"
  | bool b => if b then "true" else "false"
  | int n => Numeral.text n
  | float x => x.write Double.longStyle
  | str s => encodeString s
  | arr items => "[" ++ Text.joined ", " (encodeItems items) ++ "]"
  | obj fields => "\x7b" ++ Text.joined ", " (encodeFields fields) ++ "\x7d"

/-- The texts of the items of a list. -/
def encodeItems : List Json → List String
  | [] => []
  | v :: rest => encode v :: encodeItems rest

/-- The texts of the fields of an object. -/
def encodeFields : Fields → List String
  | [] => []
  | (name, v) :: rest => (encodeString name ++ ": " ++ encode v) :: encodeFields rest

end

end QueryPlans.Json
