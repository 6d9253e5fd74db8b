import QueryPlans.Text.Digit
import QueryPlans.Text.Half
import QueryPlans.Text.Printable

/-!
# Quoted texts

* `quote` — a text between single quotes, or between double quotes when it holds a single quote
  and no double one.  The quote in use, backslashes and characters that are not printable are
  written as escapes.
* `unencodable?` — what is said of a text that has no encoding.
-/

namespace QueryPlans.Text

/-- A number in hexadecimal digits, with zeros in front up to the width. -/
def hexDigits (width n : Nat) : List Char :=
  (List.range width).reverse.map fun i => hexDigit (n / Nat.pow 16 i % 16)

/-- A character as it stands between the quotes. -/
def escapeChar (mark : Char) (c : Char) : List Char :=
  let n := c.toNat
  if c = mark ∨ c = '\\' then ['\\', c]
  else if c = '\t' then ['\\', 't']
  else if c = '\n' then ['\\', 'n']
  else if c = '\r' then ['\\', 'r']
  else if isPrintable c then [c]
  else if n < 0x100 then '\\' :: 'x' :: hexDigits 2 n
  else if n < 0x10000 then '\\' :: 'u' :: hexDigits 4 n
  else match half? c with
    | some u => '\\' :: 'u' :: hexDigits 4 u
    | none => '\\' :: 'U' :: hexDigits 8 n

def quote (s : String) : String :=
  let cs := s.toList
  let mark : Char := if cs.contains '\'' && !cs.contains '"' then '"' else '\''
  String.ofList (mark :: cs.flatMap (escapeChar mark) ++ [mark])

/-- The text has no encoding, because of the first halves of surrogate pairs in it. -/
def unencodable? (s : String) : Option String :=
  let cs := s.toList
  let start := (cs.takeWhile (half? · |>.isNone)).length
  match (cs.drop start).takeWhile (half? · |>.isSome) with
  | [] => none
  | c :: rest =>
    let which :=
      if rest = [] then "character " ++ quote (String.singleton c) ++ " in position " ++ Nat.repr start
      else "characters in position " ++ Nat.repr start ++ "-" ++ Nat.repr (start + rest.length)
    some ("'utf-8' codec can't encode " ++ which ++ ": surrogates not allowed")

end QueryPlans.Text
