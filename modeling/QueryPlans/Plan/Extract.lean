import QueryPlans.Text.Blank
import QueryPlans.Text.Search

/-!
# The JSON text in a reply

A reply may wrap its object in code fences or in prose.

* `fencedBlock?` — the text between the first opening mark and the next closing fence, trimmed.
* `balancedObject?` — the text from the first opening brace to the brace that closes it; braces
  inside quoted strings do not count.
* `objectText` — the first of: a block opened as JSON, a fenced block that starts with a brace,
  a balanced object; or the empty text.
-/

namespace QueryPlans.Plan

/-- The closing mark of a block, and the opening mark of any block. -/
def fence : List Char := ['`', '`', '`']

/-- The opening mark of a block of JSON. -/
def jsonFence : List Char := fence ++ ['j', 's', 'o', 'n']

/-- The trimmed text between the first `opener` and the next fence after it. -/
def fencedBlock? (opener text : List Char) : Option (List Char) :=
  match Text.find? opener text with
  | none => none
  | some (_, after) =>
    match Text.find? fence after with
    | none => none
    | some (block, _) => some (Text.trim Text.isBlank block)

/-- Where a scan for braces stands: outside of strings, in one, or after a backslash in one. -/
inductive Mode where
  | outside
  | inString
  | escaped
  deriving DecidableEq, Repr

/-- The text up to the brace that closes the object, inside of which `depth` more are open. -/
def takeBalanced? : (depth : Nat) → Mode → List Char → Option (List Char)
  | _, _, [] => none
  | depth, .escaped, c :: cs => (takeBalanced? depth .inString cs).map (c :: ·)
  | depth, .inString, c :: cs =>
    let mode := if c = '\\' then .escaped else if c = '"' then .outside else .inString
    (takeBalanced? depth mode cs).map (c :: ·)
  | depth, .outside, c :: cs =>
    if c = '"' then (takeBalanced? depth .inString cs).map (c :: ·)
    else if c = '{' then (takeBalanced? (depth + 1) .outside cs).map (c :: ·)
    else if c = '}' then
      match depth with
      | 0 => some [c]
      | depth + 1 => (takeBalanced? depth .outside cs).map (c :: ·)
    else (takeBalanced? depth .outside cs).map (c :: ·)

/-- The text from the first opening brace to the brace that closes it. -/
def balancedObject? (text : List Char) : Option (List Char) :=
  match text.dropWhile (· != '{') with
  | [] => none
  | c :: cs => (takeBalanced? 0 .outside cs).map (c :: ·)

/-- The text of an object in a reply, or the empty text. -/
def objectChars (text : List Char) : List Char :=
  match fencedBlock? jsonFence text with
  | some block => block
  | none =>
    match (fencedBlock? fence text).filter (·.head? == some '{') with
    | some block => block
    | none => (balancedObject? text).getD []

/-- The text of an object in a reply, or the empty text. -/
def objectText (reply : String) : String := String.ofList (objectChars reply.toList)

end QueryPlans.Plan
