import QueryPlans.Text.Digit

/-!
# Percent escapes

* `utf8Bytes` — the bytes of a character, as numbers.
* `decodeUtf8` — bytes as text; each maximal part of a sequence that is cut short, and each byte
  that starts none, becomes the replacement character.
* `unescape` — a text with its percent escapes read as bytes; a percent sign without two
  hexadecimal digits stays.
* `escape` — a text with a percent escape for each byte outside a set of characters.
-/

namespace QueryPlans.Url

def utf8Bytes (c : Char) : List Nat :=
  let n := c.toNat
  if n < 0x80 then [n]
  else if n < 0x800 then [0xC0 + n / 0x40, 0x80 + n % 0x40]
  else if n < 0x10000 then [0xE0 + n / 0x1000, 0x80 + n / 0x40 % 0x40, 0x80 + n % 0x40]
  else [0xF0 + n / 0x40000, 0x80 + n / 0x1000 % 0x40, 0x80 + n / 0x40 % 0x40, 0x80 + n % 0x40]

/-- The character that stands for bytes without a meaning. -/
def replacement : Char := '\uFFFD'

/-- What a sequence of bytes still needs: `more` bytes after the next one, which lies between
`low` and `high`; `value` holds the bits so far. -/
structure Pending where
  more : Nat
  low : Nat
  high : Nat
  value : Nat
  deriving DecidableEq, Repr

/-- Take a byte at the start of a sequence: a character, or what the sequence needs. -/
def startByte (b : Nat) : List Char × Option Pending :=
  if b < 0x80 then ([Char.ofNat b], none)
  else if 0xC2 ≤ b ∧ b ≤ 0xDF then ([], some ⟨0, 0x80, 0xBF, b - 0xC0⟩)
  else if b = 0xE0 then ([], some ⟨1, 0xA0, 0xBF, 0⟩)
  else if b = 0xED then ([], some ⟨1, 0x80, 0x9F, 0xD⟩)
  else if 0xE1 ≤ b ∧ b ≤ 0xEF then ([], some ⟨1, 0x80, 0xBF, b - 0xE0⟩)
  else if b = 0xF0 then ([], some ⟨2, 0x90, 0xBF, 0⟩)
  else if b = 0xF4 then ([], some ⟨2, 0x80, 0x8F, 4⟩)
  else if 0xF1 ≤ b ∧ b ≤ 0xF3 then ([], some ⟨2, 0x80, 0xBF, b - 0xF0⟩)
  else ([replacement], none)

/-- Take one more byte. A byte that does not go on with the sequence starts another. -/
def takeByte (state : Option Pending) (b : Nat) : List Char × Option Pending :=
  match state with
  | none => startByte b
  | some p =>
    if p.low ≤ b ∧ b ≤ p.high then
      let value := p.value * 0x40 + b % 0x40
      match p.more with
      | 0 => ([Char.ofNat value], none)
      | more + 1 => ([], some ⟨more, 0x80, 0xBF, value⟩)
    else
      let (cs, state) := startByte b
      (replacement :: cs, state)

/-- The text of bytes that come after an unfinished sequence. -/
def decodeFrom : Option Pending → List Nat → List Char
  | none, [] => []
  | some _, [] => [replacement]
  | state, b :: rest =>
    let (cs, state) := takeByte state b
    cs ++ decodeFrom state rest

def decodeUtf8 (bytes : List Nat) : List Char := decodeFrom none bytes

/-- The bytes that a text with percent escapes stands for. -/
def unescapedBytes : List Char → List Nat
  | [] => []
  | '%' :: a :: b :: rest =>
    match Text.hexDigitValue? a, Text.hexDigitValue? b with
    | some x, some y => (16 * x + y) :: unescapedBytes rest
    | _, _ => '%'.toNat :: unescapedBytes (a :: b :: rest)
  | c :: rest => utf8Bytes c ++ unescapedBytes rest

/-- A text with its percent escapes read. -/
def unescape (s : String) : String := String.ofList (decodeUtf8 (unescapedBytes s.toList))

/-- The percent escape of a byte. -/
def escapeByte (b : Nat) : List Char :=
  ['%', (Text.hexDigit (b / 16)).toUpper, (Text.hexDigit (b % 16)).toUpper]

/-- A character, or the percent escapes of its bytes. -/
def escapeChar (keep : Char → Bool) (c : Char) : List Char :=
  if keep c then [c] else (utf8Bytes c).flatMap escapeByte

/-- A text with percent escapes for the characters that are not kept. -/
def escape (keep : Char → Bool) (s : String) : String :=
  String.ofList (s.toList.flatMap (escapeChar keep))

/-- Letters, digits and the four marks that need no escape anywhere in a URL. -/
def isUnreserved (c : Char) : Bool :=
  c.isAlphanum || c == '_' || c == '.' || c == '-' || c == '~'

/-- An ASCII character that is no control. -/
def isPlain (c : Char) : Bool := 0x20 ≤ c.toNat && c.toNat < 0x7F

end QueryPlans.Url
