import QueryPlans.Text.CaseTable

/-!
# Upper and lower case

The full Unicode case mappings of a text.

* `lower` — the lower-case text.  A capital sigma becomes `ς` at the end of a word: a cased letter
  stands before it and none after it, where characters that are passed over do not count.
* `upper` — the upper-case text; some characters become two or three (`ß` becomes `SS`).
-/

namespace QueryPlans.Text

open CaseTable

/-- The mapping of one code point by the first run that holds it, or itself. -/
def mapByRuns (runs : List Run) (n : Nat) : Nat :=
  (runs.findSome? (·.image? n)).getD n

/-- A code point that lies in one of the ranges. -/
def inRanges (ranges : List (Nat × Nat)) (n : Nat) : Bool :=
  ranges.any fun r => r.1 ≤ n && n ≤ r.2

/-- A cased letter that counts as a neighbour of a sigma. -/
def isCased (c : Char) : Bool := inRanges casedRanges c.toNat

/-- A character that the search for a neighbour passes over. -/
def isIgnorable (c : Char) : Bool := inRanges ignorableRanges c.toNat

/-- The first character that is not passed over is a cased letter. -/
def meetsCased (cs : List Char) : Bool :=
  match cs.dropWhile isIgnorable with
  | [] => false
  | c :: _ => isCased c

/-- The lower-case form of a character that stands alone. -/
def lowerChar (c : Char) : List Char :=
  let n := c.toNat
  if n < 0x80 then [if 0x41 ≤ n && n ≤ 0x5A then Char.ofNat (n + 0x20) else c]
  else if n = 0x130 then ['i', Char.ofNat 0x307]
  else [Char.ofNat (mapByRuns lowerRuns n)]

/-- The lower-case text, given the characters before it, nearest first. -/
def lowerFrom (before : List Char) : List Char → List Char
  | [] => []
  | c :: rest =>
    let image :=
      if c.toNat = 0x3A3 then
        [if meetsCased before && !meetsCased rest then Char.ofNat 0x3C2 else Char.ofNat 0x3C3]
      else lowerChar c
    image ++ lowerFrom (c :: before) rest

def lower (s : String) : String := String.ofList (lowerFrom [] s.toList)

/-- The upper-case form of a character. -/
def upperChar (c : Char) : List Char :=
  let n := c.toNat
  if n < 0x80 then [if 0x61 ≤ n && n ≤ 0x7A then Char.ofNat (n - 0x20) else c]
  else match upperExpansions.lookup n with
    | some image => image.map Char.ofNat
    | none => [Char.ofNat (mapByRuns upperRuns n)]

def upper (s : String) : String := String.ofList (s.toList.flatMap upperChar)

end QueryPlans.Text
