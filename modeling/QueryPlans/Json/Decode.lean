import QueryPlans.Json.Basic
import QueryPlans.Number.Numeral
import QueryPlans.Text.Digit
import QueryPlans.Text.Half

/-!
# Reading JSON text

A scanner takes the rest of the text and gives a value and what is left; a failure is located by
how many characters stood between it and the end.  Blanks are space, tab, line feed and carriage
return; `NaN`, `Infinity` and `-Infinity` are numbers; of a repeated field the last value counts,
at the place of the first.  An integer may have at most 4300 digits, and only so many lists and objects
may be open at once as there is room for: each takes a frame of the stack.

* `Json.Limit` — what a text may exceed; `Json.Depths` — how deep values may be nested.
* `Json.scanString`, `Json.scanNumber`, `Json.scanValue` — the scanners.
* `Json.decode` — the value of a whole text.
* `Json.DecodeError.message` — the reason and the position: line, column and offset.
-/

namespace QueryPlans.Json

/-- Why a text is not JSON. -/
inductive Reason where
  | expectingValue
  | expectingName
  | expectingColon
  | expectingComma
  | unterminatedString
  | invalidControl
  | invalidEscape
  | invalidUnicodeEscape
  | extraData
  | byteOrderMark
  deriving DecidableEq, Repr

def Reason.message : Reason → String
  | expectingValue => "Expecting value"
  | expectingName => "Expecting property name enclosed in double quotes"
  | expectingColon => "Expecting ':' delimiter"
  | expectingComma => "Expecting ',' delimiter"
  | unterminatedString => "Unterminated string starting at"
  | invalidControl => "Invalid control character at"
  | invalidEscape => "Invalid \\escape"
  | invalidUnicodeEscape => "Invalid \\uXXXX escape"
  | extraData => "Extra data"
  | byteOrderMark => "Unexpected UTF-8 BOM (decode using utf-8-sig)"

/-- What a value or its text may exceed. -/
inductive Limit where
  /-- An integer has so many digits, too many to be read. -/
  | digits (n : Nat)
  /-- A list or an object is opened with too many around it. -/
  | list
  | object
  /-- A value is nested too deep to be written. -/
  | written
  deriving DecidableEq, Repr

def Limit.message : Limit → String
  | digits n => (Numeral.Error.tooLongToRead n).message
  | list => "maximum recursion depth exceeded while decoding a JSON array from a unicode string"
  | object => "maximum recursion depth exceeded while decoding a JSON object from a unicode string"
  | written => "maximum recursion depth exceeded while encoding a JSON object"

/-- How deep values may be nested: how many lists and objects may be open at once. It depends on what is
on the stack already, so it is a parameter of whatever reads and writes. -/
structure Depths where
  read : Nat := 960
  write : Nat := 955
  deriving DecidableEq, Repr, Inhabited

/-- A failure of a scanner: a reason and the number of characters from there to the end, or a limit that
the text exceeds. -/
inductive ScanError where
  | malformed (reason : Reason) (remaining : Nat)
  | exceeded (l : Limit)
  deriving DecidableEq, Repr

/-- A place in a text: line and column from one, offset from zero, all in characters. -/
structure Position where
  line : Nat
  column : Nat
  offset : Nat
  deriving DecidableEq, Repr

/-- The place after the first `offset` characters of a text. -/
def Position.of (text : List Char) (offset : Nat) : Position :=
  let before := text.take offset
  { line := before.count '\n' + 1
    column := (before.reverse.takeWhile (· != '\n')).length + 1
    offset }

/-- Why a text has no value. -/
inductive DecodeError where
  | malformed (reason : Reason) (position : Position)
  | exceeded (l : Limit)
  deriving DecidableEq, Repr

def DecodeError.message : DecodeError → String
  | malformed reason p =>
    reason.message ++ ": line " ++ Nat.repr p.line ++ " column " ++ Nat.repr p.column ++
      " (char " ++ Nat.repr p.offset ++ ")"
  | exceeded l => l.message

/-- A scanner's answer: a value and the rest of the text. -/
abbrev Scan (α : Type) := Except ScanError (α × List Char)

/-- Fail for a reason at the start of `rest`. -/
def fail {α : Type} (reason : Reason) (rest : List Char) : Scan α :=
  .error (.malformed reason rest.length)

def isBlank (c : Char) : Bool := c == ' ' || c == '\t' || c == '\n' || c == '\r'

/-- The text from its first character that is not blank. -/
def skipBlanks (cs : List Char) : List Char := cs.dropWhile isBlank

/-! ## Strings -/

/-- The character that a letter after a backslash stands for. -/
def simpleEscape? : Char → Option Char
  | '"' => some '"'
  | '\\' => some '\\'
  | '/' => some '/'
  | 'b' => some '\x08'
  | 'f' => some '\x0c'
  | 'n' => some '\n'
  | 'r' => some '\r'
  | 't' => some '\t'
  | _ => none

/-- The number of four hexadecimal digits. -/
def hexQuad? (a b c d : Char) : Option Nat :=
  match Text.hexDigitValue? a, Text.hexDigitValue? b, Text.hexDigitValue? c,
      Text.hexDigitValue? d with
  | some a, some b, some c, some d => some (((a * 16 + b) * 16 + c) * 16 + d)
  | _, _, _, _ => none

/-- The character of a code unit. -/
def ofUnit (u : Nat) : Char := if Text.isHalf u then Text.ofHalf u else Char.ofNat u

/-- Join the two halves of a surrogate pair; a half that stands alone is kept. -/
def joinSurrogates : List Nat → List Char
  | [] => []
  | [u] => [ofUnit u]
  | u :: v :: rest =>
    if 0xD800 ≤ u && u < 0xDC00 && 0xDC00 ≤ v && v < 0xE000 then
      Char.ofNat (0x10000 + (u - 0xD800) * 0x400 + (v - 0xDC00)) :: joinSurrogates rest
    else ofUnit u :: joinSurrogates (v :: rest)

example : joinSurrogates [0xD83D, 0xDE00, 0xDE00, 0xD83D] =
    ['😀', Text.ofHalf 0xDE00, Text.ofHalf 0xD83D] := by decide

/-- Scan from inside a string to its closing quote. `opening` is the number of characters from
the opening quote to the end of the text; `units` the code units so far, last first. -/
def scanUnits (opening : Nat) (units : List Nat) : List Char → Scan (List Nat)
  | [] => .error (.malformed .unterminatedString opening)
  | '"' :: rest => .ok (units.reverse, rest)
  | ['\\'] => .error (.malformed .unterminatedString opening)
  | '\\' :: 'u' :: a :: b :: c :: d :: next :: rest =>
    match hexQuad? a b c d with
    | some u => scanUnits opening (u :: units) (next :: rest)
    | none => fail .invalidUnicodeEscape ('u' :: a :: b :: c :: d :: next :: rest)
  | '\\' :: e :: rest =>
    if e = 'u' then fail .invalidUnicodeEscape ('u' :: rest)
    else match simpleEscape? e with
      | some c => scanUnits opening (c.toNat :: units) rest
      | none => fail .invalidEscape ('\\' :: e :: rest)
  | c :: rest =>
    if c.toNat < 0x20 then fail .invalidControl (c :: rest)
    else scanUnits opening (c.toNat :: units) rest

/-- Scan a string from after its opening quote. -/
def scanString (rest : List Char) : Scan String :=
  (scanUnits (rest.length + 1) [] rest).map fun (units, after) =>
    (String.ofList (joinSurrogates units), after)

/-! ## Numbers -/

/-- The digits `0` … `9` at the start of a text, and what follows them. -/
def spanDigits (cs : List Char) : List Char × List Char :=
  (cs.takeWhile Char.isDigit, cs.dropWhile Char.isDigit)

/-- The number of a list of digits. -/
def digitsValue (ds : List Char) : Nat :=
  Numeral.ofDigits (ds.map fun c => c.toNat - 0x30)

/-- The digits of the integer part: a zero alone, or digits that do not start with zero. -/
def scanWhole? : List Char → Option (List Char × List Char)
  | '0' :: rest => some (['0'], rest)
  | c :: rest => if c.isDigit then some (spanDigits (c :: rest)) else none
  | [] => none

/-- The digits after a point, if a point and a digit follow. -/
def scanFraction (cs : List Char) : List Char × List Char :=
  match cs with
  | '.' :: rest =>
    match spanDigits rest with
    | ([], _) => ([], cs)
    | split => split
  | _ => ([], cs)

/-- The exponent, if a mark, perhaps a sign, and a digit follow. -/
def scanExponent (cs : List Char) : Option Int × List Char :=
  match cs with
  | c :: rest =>
    if c = 'e' || c = 'E' then
      let (negative, tail) := Numeral.cutSign rest
      match spanDigits tail with
      | ([], _) => (none, cs)
      | (ds, after) => (some (Double.signed negative (digitsValue ds)), after)
    else (none, cs)
  | [] => (none, cs)

/-- A number from its parts: an integer if it has neither fraction nor exponent. -/
def numberOfParts (negative : Bool) (whole fraction : List Char) (exponent : Option Int) :
    Except ScanError Json :=
  if fraction = [] ∧ exponent = none then
    if Numeral.digitLimit < whole.length then .error (.exceeded (.digits whole.length))
    else .ok (.int (Double.signed negative (digitsValue whole)))
  else
    .ok (.float (Double.ofDecimal negative (digitsValue (whole ++ fraction))
      (exponent.getD 0 - fraction.length)))

def scanNumber (cs : List Char) : Scan Json :=
  let (negative, body) := match cs with
    | '-' :: rest => (true, rest)
    | _ => (false, cs)
  match scanWhole? body with
  | none => fail .expectingValue cs
  | some (whole, afterWhole) =>
    let (fraction, afterFraction) := scanFraction afterWhole
    let (exponent, rest) := scanExponent afterFraction
    (numberOfParts negative whole fraction exponent).map fun v => (v, rest)

/-! ## Values -/

/-- The words that are values, and the values. -/
def words : List (List Char × Json) :=
  [("null".toList, .null), ("true".toList, .bool true), ("false".toList, .bool false),
    ("NaN".toList, .float .nan), ("Infinity".toList, .float (.infinity false)),
    ("-Infinity".toList, .float (.infinity true))]

/-- The word at the start of a text, and what follows it. -/
def scanWord? (cs : List Char) : Option (Json × List Char) :=
  words.findSome? fun (word, v) =>
    if word.isPrefixOf cs then some (v, cs.drop word.length) else none

mutual

/-- Scan a value. `depth` is how many lists and objects may still be opened around each other. -/
def scanValue (depth : Nat) : (fuel : Nat) → List Char → Scan Json
  | 0, cs => fail .expectingValue cs
  | fuel + 1, cs =>
    match cs with
    | '"' :: rest => (scanString rest).map fun (s, after) => (.str s, after)
    | '{' :: rest =>
      match depth with
      | 0 => .error (.exceeded .object)
      | depth + 1 =>
        match skipBlanks rest with
        | '}' :: after => .ok (.obj [], after)
        | inner => scanFields depth fuel [] inner
    | '[' :: rest =>
      match depth with
      | 0 => .error (.exceeded .list)
      | depth + 1 =>
        match skipBlanks rest with
        | ']' :: after => .ok (.arr [], after)
        | inner => scanItems depth fuel [] inner
    | _ =>
      match scanWord? cs with
      | some r => .ok r
      | none => scanNumber cs

/-- Scan the items of a list up to its closing bracket; `items` are those before, last first. -/
def scanItems (depth : Nat) : (fuel : Nat) → (items : List Json) → List Char → Scan Json
  | 0, _, cs => fail .expectingValue cs
  | fuel + 1, items, cs =>
    match scanValue depth fuel cs with
    | .error e => .error e
    | .ok (v, rest) =>
      match skipBlanks rest with
      | ']' :: after => .ok (.arr (v :: items).reverse, after)
      | ',' :: after => scanItems depth fuel (v :: items) (skipBlanks after)
      | other => fail .expectingComma other

/-- Scan the fields of an object up to its closing brace; `fields` are those before. -/
def scanFields (depth : Nat) : (fuel : Nat) → (fields : Fields) → List Char → Scan Json
  | 0, _, cs => fail .expectingName cs
  | fuel + 1, fields, cs =>
    match cs with
    | '"' :: rest =>
      match scanString rest with
      | .error e => .error e
      | .ok (name, afterName) =>
        match skipBlanks afterName with
        | ':' :: afterColon =>
          match scanValue depth fuel (skipBlanks afterColon) with
          | .error e => .error e
          | .ok (v, rest) =>
            let fields := fields.put name v
            match skipBlanks rest with
            | '}' :: after => .ok (.obj fields, after)
            | ',' :: after => scanFields depth fuel fields (skipBlanks after)
            | other => fail .expectingComma other
        | other => fail .expectingColon other
    | _ => fail .expectingName cs

end

/-- Scan a text that is one value between blanks. A step of the scanner takes a character, or is
followed by one that does, so twice the length is enough fuel. -/
def scanText (cs : List Char) (depth : Nat) : Except ScanError Json :=
  if cs.head? = some '\uFEFF' then .error (.malformed .byteOrderMark cs.length)
  else
    let body := skipBlanks cs
    match scanValue depth (2 * body.length + 2) body with
    | .error e => .error e
    | .ok (v, rest) =>
      match skipBlanks rest with
      | [] => .ok v
      | extra => .error (.malformed .extraData extra.length)

/-- The value of a text, with so many lists and objects open at once at most. -/
def decode (text : String) (depth : Nat := ({} : Depths).read) : Except DecodeError Json :=
  let cs := text.toList
  match scanText cs depth with
  | .ok v => .ok v
  | .error (.malformed reason remaining) =>
    .error (.malformed reason (Position.of cs (cs.length - remaining)))
  | .error (.exceeded l) => .error (.exceeded l)

end QueryPlans.Json
