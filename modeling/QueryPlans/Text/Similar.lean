/-!
# Similar words

Two words are compared by the blocks that they share: the longest common block, then those on both
sides of it.

* `sharedLength` — how many characters the shared blocks hold.
* `areSimilar` — the blocks hold at least six tenths of the characters of both words.
-/

namespace QueryPlans.Text

/-- How long two texts agree from their starts on. -/
def agreement : List Char → List Char → Nat
  | a :: as, b :: bs => if a = b then agreement as bs + 1 else 0
  | _, _ => 0

/-- A block that two texts share: where it starts in each, and its length. -/
structure Block where
  left : Nat
  right : Nat
  length : Nat
  deriving DecidableEq, Repr, Inhabited

/-- All blocks from every pair of starts, the earliest first. -/
def blocks (as bs : List Char) : List Block :=
  (List.range as.length).flatMap fun i =>
    (List.range bs.length).map fun j => ⟨i, j, agreement (as.drop i) (bs.drop j)⟩

/-- The longest block; the earliest of those. -/
def longestBlock (as bs : List Char) : Block :=
  (blocks as bs).foldl (fun best b => if best.length < b.length then b else best) ⟨0, 0, 0⟩

/-- The characters in the shared blocks, found in so many steps at most. -/
def sharedWithin : (steps : Nat) → List Char → List Char → Nat
  | 0, _, _ => 0
  | steps + 1, as, bs =>
    let b := longestBlock as bs
    if b.length = 0 then 0
    else sharedWithin steps (as.take b.left) (bs.take b.right) + b.length +
      sharedWithin steps (as.drop (b.left + b.length)) (bs.drop (b.right + b.length))

/-- How many characters the shared blocks hold. Every step leaves fewer to compare. -/
def sharedLength (as bs : List Char) : Nat := sharedWithin (as.length + 1) as bs

/-- Whether two words are similar. -/
def areSimilar (a b : String) : Bool :=
  6 * (a.length + b.length) ≤ 10 * (2 * sharedLength a.toList b.toList)

end QueryPlans.Text
