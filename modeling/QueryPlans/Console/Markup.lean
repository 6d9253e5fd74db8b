import QueryPlans.Text.Search

/-!
# Text with markup

A tag stands in square brackets and starts with a small letter, `#`, `/` or `@`.  A backslash before
a tag makes it ordinary text.

* `Markup.escape` — a text in which nothing is taken for a tag.
* `Markup.plain` — a text without its tags.
* `Markup.styled` — a text between the tags of a style.
-/

namespace QueryPlans.Markup

/-- A character that a tag may start with. -/
def startsTag (c : Char) : Bool :=
  ('a' ≤ c && c ≤ 'z') || c == '#' || c == '/' || c == '@'

/-- The inside of the tag at the start of a text behind its opening bracket, and what follows the
closing one. No other bracket opens inside. -/
def tagInside? : List Char → Option (List Char × List Char)
  | [] => none
  | c :: rest =>
    if startsTag c then
      match Text.spanUntil (fun d => d == '[' || d == ']') rest with
      | (inside, ']' :: after) => some (c :: inside, after)
      | _ => none
    else none

/-- A tag goes on here, behind an opening bracket. -/
def opensTag (rest : List Char) : Bool := (tagInside? rest).isSome

/-- Escape the tags of a text, so many backslashes being right before it: those are doubled before a
tag, and one more is put there. -/
def escapeFrom : (backslashes : Nat) → List Char → List Char
  | _, [] => []
  | n, c :: rest =>
    if c = '\\' then c :: escapeFrom (n + 1) rest
    else if c = '[' ∧ opensTag rest then List.replicate (n + 1) '\\' ++ c :: escapeFrom 0 rest
    else c :: escapeFrom 0 rest

/-- A single backslash at the end is doubled, as a tag may follow. -/
def closeBackslash (cs : List Char) : List Char :=
  match cs.reverse with
  | '\\' :: '\\' :: _ => cs
  | '\\' :: _ => cs ++ ['\\']
  | _ => cs

/-- A text in which nothing is taken for a tag. -/
def escape (s : String) : String := String.ofList (closeBackslash (escapeFrom 0 s.toList))

/-- A text without its tags, so many backslashes being held back, and so many characters still to be
passed. Before a tag every second backslash is dropped; an odd one makes the tag ordinary text. -/
def plainFrom : (backslashes skip : Nat) → List Char → List Char
  | n, _, [] => List.replicate n '\\'
  | n, skip + 1, _ :: rest => plainFrom n skip rest
  | n, 0, c :: rest =>
    if c = '\\' then plainFrom (n + 1) 0 rest
    else match tagInside? rest, c with
      | some (inside, _), '[' =>
        if n % 2 = 1 then List.replicate (n / 2) '\\' ++ c :: plainFrom 0 0 rest
        else List.replicate (n / 2) '\\' ++ plainFrom 0 (inside.length + 1) rest
      | _, _ => List.replicate n '\\' ++ c :: plainFrom 0 0 rest

def plain (s : String) : String := String.ofList (plainFrom 0 0 s.toList)

/-- A text between the tags of a style. -/
def styled (style markup : String) : String :=
  "[" ++ style ++ "]" ++ markup ++ "[/" ++ style ++ "]"

end QueryPlans.Markup
