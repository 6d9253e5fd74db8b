import QueryPlans.Number.Double
import QueryPlans.Text.Blank
import QueryPlans.Text.Digit
import QueryPlans.Text.Quoted

/-!
# Integers as text

Integers are unbounded, but neither read nor written when they have more than 4300 digits.

* `Numeral.write?` — the digits of an integer.
* `Numeral.readDigits?` — digits with single underscores between them.
* `Numeral.read` — a text as an integer: white space around it, a sign, digits of any script.
* `Numeral.readLenient?` — a text as an integer, with ASCII digits and a fraction of zeros.
* `Numeral.readDouble?` — a text as a double.
-/

namespace QueryPlans.Numeral

/-- Integers with more digits than this are neither read nor written. -/
def digitLimit : Nat := 4300

/-- Why an integer has no text, or a text no integer. -/
inductive Error where
  | tooLongToWrite
  | tooLongToRead (digits : Nat)
  | notANumeral (text : String)
  deriving DecidableEq, Repr

/-- How a report of too many digits starts. -/
def overLimit : String := "Exceeds the limit (4300 digits) for integer string conversion"

/-- How a report of too many digits ends. -/
def advice : String := "; use sys.set_int_max_str_digits() to increase the limit"

def Error.message : Error → String
  | .tooLongToWrite => overLimit ++ advice
  | .tooLongToRead digits => overLimit ++ ": value has " ++ Nat.repr digits ++ " digits" ++ advice
  | .notANumeral text =>
    "invalid literal for int() with base 10: " ++
      String.ofList ((Text.quote text).toList.take 200)

/-- The integer can be written out. -/
def IsWritable (n : Int) : Prop := n.natAbs < Nat.pow 10 digitLimit

instance (n : Int) : Decidable (IsWritable n) := inferInstanceAs (Decidable (_ < _))

/-- The digits of an integer, after a minus sign if it is negative. -/
def text (n : Int) : String := (if n < 0 then "-" else "") ++ Nat.repr n.natAbs

/-- The digits of an integer that can be written out. -/
def write? (n : Int) : Except Error String :=
  if IsWritable n then .ok (text n) else .error .tooLongToWrite

/-- The number that a list of digits, first digit first, stands for. -/
def ofDigits (ds : List Nat) : Nat := ds.foldl (fun n d => 10 * n + d) 0

/-- Digits with single underscores between them; at least one digit. -/
def readDigits? (value : Char → Option Nat) : List Char → Option (List Nat)
  | [] => none
  | [c] => (value c).map fun d => [d]
  | c :: '_' :: rest => (value c).bind fun d => (readDigits? value rest).map (d :: ·)
  | c :: next :: rest => (value c).bind fun d => (readDigits? value (next :: rest)).map (d :: ·)

/-- A sign, if there is one, and the rest. -/
def cutSign : List Char → Bool × List Char
  | '-' :: cs => (true, cs)
  | '+' :: cs => (false, cs)
  | cs => (false, cs)

/-- Read an integer: white space around it, one sign, digits of any script. -/
def read (s : String) : Except Error Int :=
  let (negative, cs) := cutSign (Text.trim Text.isWhiteSpace s.toList)
  match readDigits? Text.digitValue? cs with
  | none => .error (.notANumeral s)
  | some ds =>
    if digitLimit < ds.length then .error (.tooLongToRead ds.length)
    else .ok (Double.signed negative (ofDigits ds))

/-- How a lenient reading of an integer can end without one. -/
inductive LenientError where
  | notAnInteger
  | tooLong
  deriving DecidableEq, Repr

/-- Read an integer leniently: white space around it, one sign, ASCII digits, and after a point
nothing but zeros. -/
def readLenient? (s : String) : Except LenientError Int :=
  let (negative, cs) := cutSign (Text.trim Text.isWhiteSpace s.toList)
  let whole := cs.takeWhile (· != '.')
  let zeros := cs.dropWhile (· != '.')
  let fractionIsZero := match zeros with
    | [] => true
    | _ :: ds => !ds.isEmpty && ds.all (· == '0')
  match readDigits? Text.asciiDigitValue? whole with
  | none => .error .notAnInteger
  | some ds =>
    if !fractionIsZero then .error .notAnInteger
    else if digitLimit < (ds.dropWhile (· == 0)).length then .error .tooLong
    else .ok (Double.signed negative (ofDigits ds))

/-- The decimal part of a number: digits, a point and digits, not both empty. -/
def readDecimal? (cs : List Char) : Option (List Nat × Nat) :=
  let whole := cs.takeWhile (· != '.')
  let fraction := (cs.dropWhile (· != '.')).drop 1
  let read (part : List Char) : Option (List Nat) :=
    if part.isEmpty then some [] else readDigits? Text.asciiDigitValue? part
  match read whole, read fraction with
  | some ws, some fs => if ws.isEmpty && fs.isEmpty then none else some (ws ++ fs, fs.length)
  | _, _ => none

/-- Read a double: white space around it, a sign, then `nan`, `inf`, `infinity` in any case or a
decimal with an optional exponent. Single underscores may stand between digits. -/
def readDouble? (s : String) : Option Double :=
  let (negative, cs) := cutSign (Text.trim Text.isWhiteSpace s.toList)
  let word := cs.map Char.toLower
  if word = "nan".toList then some .nan
  else if word = "inf".toList || word = "infinity".toList then some (.infinity negative)
  else
    let mantissa := cs.takeWhile fun c => c != 'e' && c != 'E'
    let tail := cs.dropWhile fun c => c != 'e' && c != 'E'
    let exponent? : Option Int := match tail with
      | [] => some 0
      | _ :: rest =>
        let (down, ds) := cutSign rest
        (readDigits? Text.asciiDigitValue? ds).map fun ds => Double.signed down (ofDigits ds)
    match readDecimal? mantissa, exponent? with
    | some (ds, places), some e => some (Double.ofDecimal negative (ofDigits ds) (e - places))
    | _, _ => none

end QueryPlans.Numeral
