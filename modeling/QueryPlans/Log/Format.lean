import QueryPlans.Program.Basic
import QueryPlans.Text.Search

/-!
# The form of log entries

A form is a text with fields such as `%(message)s`.

* `LogFormat.hasField` — a form without any field is refused.
* `LogFormat.render` — an entry in a form.
-/

namespace QueryPlans.LogFormat

/-- A character of the name of a field. -/
def isNameChar (c : Char) : Bool := c.isAlphanum || c == '_'

/-- A letter that ends a field. -/
def isConversion (c : Char) : Bool := "diouxefgcrsa%".toList.contains c

/-- A width: a star, or digits. -/
def skipWidth (cs : List Char) : List Char :=
  match cs with
  | '*' :: rest => rest
  | _ => cs.dropWhile Char.isDigit

/-- A precision: a point and a width, if one follows. -/
def skipPrecision (cs : List Char) : List Char :=
  match cs with
  | '.' :: rest =>
    match rest with
    | '*' :: after => after
    | c :: _ => if c.isDigit then rest.dropWhile Char.isDigit else cs
    | [] => cs
  | _ => cs

/-- The name of the field after a percent sign, and the rest after its conversion. -/
def takeField? (cs : List Char) : Option (String × List Char) :=
  match cs with
  | '(' :: rest =>
    let (name, tail) := Text.spanUntil (!isNameChar ·) rest
    match tail with
    | ')' :: after =>
      let plain := after.dropWhile fun c => "#0+ -".toList.contains c
      match skipPrecision (skipWidth plain) with
      | c :: rest => if isConversion c && !name.isEmpty then some (String.ofList name, rest) else none
      | [] => none
    | _ => none
  | _ => none

/-- Whether a field stands in a list of characters. -/
def hasFieldIn : List Char → Bool
  | [] => false
  | '%' :: rest => (takeField? rest).isSome || hasFieldIn rest
  | _ :: rest => hasFieldIn rest

/-- Whether a form has a field. -/
def hasField (format : String) : Bool := hasFieldIn format.toList

/-- The text of a field of an entry. -/
def fieldText? (date : String) (e : LogEntry) (name : String) : Option String :=
  match name with
  | "levelname" => some e.level.name
  | "name" => some e.source
  | "message" => some e.message
  | "asctime" => some date
  | "levelno" => some (Nat.repr e.level.rank)
  | _ => none

/-- An entry in a form; `skip` counts characters of a field that were taken already. -/
def renderFrom (date : String) (e : LogEntry) : (skip : Nat) → List Char → List Char
  | _, [] => []
  | skip + 1, _ :: rest => renderFrom date e skip rest
  | 0, '%' :: '%' :: rest => '%' :: renderFrom date e 0 rest
  | 0, '%' :: rest =>
    match takeField? rest with
    | some (name, after) =>
      match fieldText? date e name with
      | some s => s.toList ++ renderFrom date e (rest.length - after.length) rest
      | none => '%' :: renderFrom date e 0 rest
    | none => '%' :: renderFrom date e 0 rest
  | 0, c :: rest => c :: renderFrom date e 0 rest

/-- A date form without directives, as it is shown. -/
def dateText (dateFormat : String) : String :=
  String.ofList (Text.replaceAll ['%', '%'] ['%'] dateFormat.toList)

def render (format dateFormat : String) (e : LogEntry) : String :=
  String.ofList (renderFrom (dateText dateFormat) e 0 format.toList)

end QueryPlans.LogFormat
