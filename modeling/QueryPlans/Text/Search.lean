/-!
# Searching, cutting and joining texts

All on lists of characters, so that a result is described by how the text splits around it.

* `find?` — the text before and after the first occurrence of a pattern.
* `occursIn` — whether a pattern occurs.
* `replaceAll` — every occurrence replaced, from the left, without overlap.
* `splitOn`, `splitLines` — the pieces between separators.
* `joined` — texts joined by a separator.
* `collapseBlanks` — every run of blanks as one space.
-/

namespace QueryPlans.Text

/-- What follows the pattern, if the text starts with it. -/
def dropPattern? : (pattern text : List Char) → Option (List Char)
  | [], text => some text
  | _ :: _, [] => none
  | p :: ps, c :: cs => if p = c then dropPattern? ps cs else none

theorem dropPattern?_eq_some_iff {pattern text rest : List Char} :
    dropPattern? pattern text = some rest ↔ text = pattern ++ rest := by
  induction pattern generalizing text with
  | nil => simp [dropPattern?]
  | cons p ps ih =>
    cases text with
    | nil => simp [dropPattern?]
    | cons c cs =>
      by_cases h : p = c
      · simp [dropPattern?, h, ih]
      · simp [dropPattern?, h, Ne.symm h]

/-- The text before and after the first occurrence of the pattern. -/
def find? (pattern : List Char) : List Char → Option (List Char × List Char)
  | [] => if pattern = [] then some ([], []) else none
  | c :: cs =>
    match dropPattern? pattern (c :: cs) with
    | some rest => some ([], rest)
    | none => (find? pattern cs).map fun r => (c :: r.1, r.2)

/-- What `find?` reports is a split of the text around the pattern. -/
theorem find?_sound {pattern text before after : List Char}
    (h : find? pattern text = some (before, after)) : text = before ++ pattern ++ after := by
  induction text generalizing before with
  | nil =>
    by_cases hp : pattern = [] <;> simp [find?, hp] at h
    obtain ⟨rfl, rfl⟩ := h
    simp [hp]
  | cons c cs ih =>
    cases hd : dropPattern? pattern (c :: cs) with
    | some rest =>
      simp only [find?, hd, Option.some.injEq, Prod.mk.injEq] at h
      obtain ⟨rfl, rfl⟩ := h
      simpa using dropPattern?_eq_some_iff.1 hd
    | none =>
      simp only [find?, hd, Option.map_eq_some_iff] at h
      obtain ⟨⟨b, a⟩, hr, he⟩ := h
      simp only [Prod.mk.injEq] at he
      obtain ⟨rfl, rfl⟩ := he
      simp [ih hr]

/-- Whether the pattern occurs in the text. -/
def occursIn (pattern text : List Char) : Bool := (find? pattern text).isSome

/-- Replace every occurrence of a non-empty pattern, from the left and without overlap. `skip`
counts the characters of the last occurrence that are still to be passed. -/
def replaceFrom (pattern image : List Char) : (skip : Nat) → List Char → List Char
  | _, [] => []
  | skip + 1, _ :: cs => replaceFrom pattern image skip cs
  | 0, c :: cs =>
    if pattern.isPrefixOf (c :: cs) then image ++ replaceFrom pattern image (pattern.length - 1) cs
    else c :: replaceFrom pattern image 0 cs

/-- Replace every occurrence of a non-empty pattern, from the left and without overlap. -/
def replaceAll (pattern image text : List Char) : List Char := replaceFrom pattern image 0 text

/-- The pieces of a text between the separators; one more than there are separators. -/
def splitOn (separator : Char) : List Char → List (List Char)
  | [] => [[]]
  | c :: cs =>
    if c = separator then [] :: splitOn separator cs
    else match splitOn separator cs with
      | [] => [[c]]
      | piece :: pieces => (c :: piece) :: pieces

def splitLines (text : List Char) : List (List Char) := splitOn '\n' text

/-- The text up to the first character of the class, and the rest from it on. -/
def spanUntil (stop : Char → Bool) (text : List Char) : List Char × List Char :=
  (text.takeWhile (!stop ·), text.dropWhile (!stop ·))

/-- The part before the first separator and, if there is one, the part after it. -/
def cut (separator : Char) (text : List Char) : List Char × Option (List Char) :=
  match spanUntil (· == separator) text with
  | (before, []) => (before, none)
  | (before, _ :: after) => (before, some after)

/-- The part before the last separator, if there is one, and the part after it. -/
def cutLast (separator : Char) (text : List Char) : Option (List Char) × List Char :=
  match cut separator text.reverse with
  | (after, none) => (none, after.reverse)
  | (after, some before) => (some before.reverse, after.reverse)

/-- Texts one after the other with a separator between neighbours. -/
def joined (separator : String) : List String → String
  | [] => ""
  | [s] => s
  | s :: t :: rest => s ++ separator ++ joined separator (t :: rest)

@[simp] theorem joined_nil (separator : String) : joined separator [] = "" := rfl

@[simp] theorem joined_singleton (separator s : String) : joined separator [s] = s := rfl

theorem joined_cons_cons (separator s t : String) (rest : List String) :
    joined separator (s :: t :: rest) = s ++ separator ++ joined separator (t :: rest) := rfl

/-- Every run of characters of the class written as one space. -/
def collapse (p : Char → Bool) : List Char → List Char
  | [] => []
  | c :: cs =>
    if p c then
      match cs with
      | [] => [' ']
      | d :: _ => if p d then collapse p cs else ' ' :: collapse p cs
    else c :: collapse p cs

/-- Whether a text starts with another. -/
def startsWith (text start : String) : Bool := start.toList.isPrefixOf text.toList

/-- The first characters of a text. -/
def take (n : Nat) (s : String) : String := String.ofList (s.toList.take n)

end QueryPlans.Text
