import QueryPlans.Proofs.Condition.Alternatives

/-!
# Reading conditions

A condition of PostgreSQL is read in four passes: characters to tokens, tokens to items, where a text
in brackets is one item, items to pieces, where the operators stand out, and pieces to a condition.
`NOT` binds tighter than `AND`, and `AND` tighter than `OR`.

* `Condition.tokens?` — words, quoted texts, symbols and brackets. Texts with a comment, with the end of
  a statement, or with another kind of quote are not read.
* `Condition.items?` — each pair of brackets with what stands between them, and the condition that this
  is, if it is one.
* `Condition.pieces?` — the operators; the `AND` of a `BETWEEN` and a `NOT` inside an atom are none.
* `Condition.split` — the pieces between the operators `OR` and `AND`.
* `Condition.read?` — the condition of a text.
-/

namespace QueryPlans.Condition

/-! ## Tokens -/

/-- What a text can stand in so that its operators do not reach beyond it. -/
inductive Bracket where
  | round
  | square
  /-- From `CASE` to `END`. -/
  | choice
  deriving DecidableEq, Repr

/-- The smallest parts of a text. -/
inductive Token where
  /-- A name, a keyword or a number. -/
  | word (text : List Char)
  /-- A text in quotes, with its quotes. -/
  | quoted (text : List Char)
  | symbol (c : Char)
  | opening (b : Bracket)
  | closing (b : Bracket)
  deriving DecidableEq, Repr

/-- An atom of a condition: the tokens it is written with. -/
abbrev Atom := List Token

/-- What separates tokens. -/
def isBlank (c : Char) : Bool := c == ' ' || c == '\t' || c == '\n' || c == '\r' || c == '\x0c'

/-- What a name, a keyword or a number is made of. -/
def isWordChar (c : Char) : Bool :=
  c.isAlphanum || c == '_' || c == '.' || c == '$' || 0x80 ≤ c.toNat

/-- The token of a word: two keywords are brackets, in either case. -/
def Token.ofWord (text : List Char) : Token :=
  let capitals := text.map Char.toUpper
  if capitals = ['C', 'A', 'S', 'E'] then .opening .choice
  else if capitals = ['E', 'N', 'D'] then .closing .choice
  else .word text

/-- Where the reading of a text stands. -/
inductive Mode where
  /-- Between tokens, perhaps directly after a symbol. -/
  | between (last : Option Char)
  /-- In a word; its characters, last first. -/
  | word (text : List Char)
  /-- In a quoted text; its characters, last first. -/
  | quoted (quote : Char) (text : List Char)
  deriving DecidableEq, Repr

/-- Two symbols that start a comment. -/
def startsComment (last : Option Char) (c : Char) : Bool :=
  (last == some '-' && c == '-') || (last == some '/' && c == '*')

/-- Read a character that stands between tokens. A dollar sign may start another kind of quote, and a
semicolon ends the statement. -/
def enter? (c : Char) : Option (List Token × Mode) :=
  if isBlank c then some ([], .between none)
  else if c = '(' then some ([.opening .round], .between none)
  else if c = ')' then some ([.closing .round], .between none)
  else if c = '[' then some ([.opening .square], .between none)
  else if c = ']' then some ([.closing .square], .between none)
  else if c = '\'' ∨ c = '"' then some ([], .quoted c [c])
  else if c = '$' ∨ c = ';' then none
  else if isWordChar c then some ([], .word [c])
  else some ([.symbol c], .between (some c))

/-- Read a character. After the word `E` a quote would start a text with escapes. -/
def step? : Mode → Char → Option (List Token × Mode)
  | .between last, c => if startsComment last c then none else enter? c
  | .word text, c =>
    if isWordChar c then some ([], .word (c :: text))
    else if c = '\'' ∧ (text = ['E'] ∨ text = ['e']) then none
    else (enter? c).map fun r => (.ofWord text.reverse :: r.1, r.2)
  | .quoted quote text, c =>
    if c = quote then some ([.quoted (c :: text).reverse], .between none)
    else some ([], .quoted quote (c :: text))

/-- What is left to read at the end of the text. -/
def finish? : Mode → Option (List Token)
  | .between _ => some []
  | .word text => some [.ofWord text.reverse]
  | .quoted _ _ => none

/-- The tokens of a text. -/
def tokens? : Mode → List Char → Option (List Token)
  | mode, [] => finish? mode
  | mode, c :: cs => (step? mode c).bind fun r => (tokens? r.2 cs).map (r.1 ++ ·)

/-! ## Keywords -/

/-- The words that a condition is built with. -/
inductive Keyword where
  | and
  | or
  | not
  | between
  deriving DecidableEq, Repr

/-- The keyword of a token, in either case. -/
def Token.keyword? : Token → Option Keyword
  | .word text =>
    let capitals := text.map Char.toUpper
    if capitals = ['A', 'N', 'D'] then some .and
    else if capitals = ['O', 'R'] then some .or
    else if capitals = ['N', 'O', 'T'] then some .not
    else if capitals = ['B', 'E', 'T', 'W', 'E', 'E', 'N'] then some .between
    else none
  | _ => none

/-! ## Items and pieces -/

/-- A token, or a text in brackets with its condition, if it is one. -/
inductive Item where
  | token (t : Token)
  | group (content : List Token) (inside : Option (Condition Atom))
  deriving DecidableEq, Repr

/-- The tokens of an item. -/
def Item.tokens : Item → List Token
  | token t => [t]
  | group content _ => content

/-- An operator, or an item that is none. A `NOT` is one only where an operand starts. -/
inductive Piece where
  | and
  | or
  | not (t : Token)
  | item (i : Item)
  deriving DecidableEq, Repr

/-- The tokens of a piece between operators. -/
def Piece.tokens : Piece → List Token
  | and => []
  | or => []
  | not t => [t]
  | item i => i.tokens

/-- The piece of an item; `pending` after a `BETWEEN` whose `AND` has not come. With it, whether one is
pending afterwards. -/
def piece? (pending : Bool) : Item → Option (Piece × Bool)
  | .group content inside => some (.item (.group content inside), pending)
  | .token t =>
    match t.keyword? with
    | none => some (.item (.token t), pending)
    | some .not => some (.not t, pending)
    | some .between => if pending then none else some (.item (.token t), true)
    | some .and => if pending then some (.item (.token t), false) else some (.and, false)
    | some .or => if pending then none else some (.or, false)

/-- The pieces of items. -/
def pieces? : (pending : Bool) → List Item → Option (List Piece)
  | pending, [] => if pending then none else some []
  | pending, i :: rest =>
    (piece? pending i).bind fun r => (pieces? r.2 rest).map (r.1 :: ·)

/-! ## Conditions -/

/-- The pieces between operators: alternatives, each of them several operands. -/
def split : List Piece → Chain (Chain (List Piece))
  | [] => .one (.one [])
  | .or :: ps => .cons (.one []) (split ps)
  | .and :: ps => (split ps).mapHead (.cons [])
  | .not t :: ps => (split ps).mapHead (Chain.mapHead (.not t :: ·))
  | .item i :: ps => (split ps).mapHead (Chain.mapHead (.item i :: ·))

/-- The condition of an operand: a negation, a text in brackets, or an atom. -/
def operand? : List Piece → Option (Condition Atom)
  | .not _ :: ps => (operand? ps).map .not
  | [.item (.group _ inside)] => inside
  | [] => none
  | ps => some (.atom (ps.flatMap Piece.tokens))

/-- The alternatives of pieces. -/
def alternativesOf? (ps : List Piece) : Option (Chain (Chain (Condition Atom))) :=
  (split ps).traverse (Chain.traverse operand?)

/-- The condition of items. -/
def conditionOf? (items : List Item) : Option (Condition Atom) :=
  ((pieces? false items).bind alternativesOf?).map ofAlternatives

/-- Items in brackets. Those in parentheses may be a condition; a choice by `CASE` is an atom. -/
def group (b : Bracket) (items : List Item) : Item :=
  let content := .opening b :: (items.flatMap Item.tokens ++ [.closing b])
  .group content
    (match b with
      | .round => conditionOf? items
      | .square => none
      | .choice => some (.atom content))

/-- The items of tokens. `outer` are those before each bracket that is open, `inner` those after the
last of them; last first. -/
def items? : (outer : List (Bracket × List Item)) → (inner : List Item) → List Token →
    Option (List Item)
  | [], inner, [] => some inner.reverse
  | _ :: _, _, [] => none
  | outer, inner, .opening b :: ts => items? ((b, inner) :: outer) [] ts
  | [], _, .closing _ :: _ => none
  | (b, before) :: outer, inner, .closing b' :: ts =>
    if b = b' then items? outer (group b inner.reverse :: before) ts else none
  | outer, inner, .word text :: ts => items? outer (.token (.word text) :: inner) ts
  | outer, inner, .quoted text :: ts => items? outer (.token (.quoted text) :: inner) ts
  | outer, inner, .symbol c :: ts => items? outer (.token (.symbol c) :: inner) ts

/-- The alternatives of a text. -/
def alternatives? (text : String) : Option (Chain (Chain (Condition Atom))) :=
  (((tokens? (.between none) text.toList).bind (items? [] [])).bind (pieces? false)).bind
    alternativesOf?

/-- The condition of a text. -/
def read? (text : String) : Option (Condition Atom) := (alternatives? text).map ofAlternatives

end QueryPlans.Condition
