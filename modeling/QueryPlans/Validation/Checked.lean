import QueryPlans.Validation.Issue

/-!
# Values checked for all their issues

* `Checked` — a value, or all the issues found in its input; its parts are checked in order and
  their issues are put together.
* `Checked.under` — the issues of a part, located in the whole.
* `Checked.all` — the items of a list, each located at its position.
-/

namespace QueryPlans

/-- A value, or the issues found. -/
inductive Checked (α : Type) where
  | valid (a : α)
  | invalid (issues : List Issue)
  deriving Repr

namespace Checked

variable {α β : Type}

/-- A single issue with the value itself. -/
def issue (kind : Issue.Kind) : Checked α := invalid [⟨[], kind⟩]

/-- Apply a function to a valid value. -/
def map (f : α → β) : Checked α → Checked β
  | valid a => valid (f a)
  | invalid issues => invalid issues

/-- Combine two parts; the issues of both are kept, those of the first in front. -/
def seq (f : Checked (α → β)) (x : Checked α) : Checked β :=
  match f, x with
  | valid f, valid a => valid (f a)
  | valid _, invalid issues => invalid issues
  | invalid issues, valid _ => invalid issues
  | invalid issues, invalid more => invalid (issues ++ more)

instance : Applicative Checked where
  map := map
  pure := valid
  seq f x := seq f (x ())

/-- Go on with a valid value; a check that needs the value of another cannot add to its issues. -/
def andThen (x : Checked α) (f : α → Checked β) : Checked β :=
  match x with
  | valid a => f a
  | invalid issues => invalid issues

/-- The issues of a part, located in the whole. -/
def under (place : Place) : Checked α → Checked α
  | valid a => valid a
  | invalid issues => invalid (issues.map fun i => { i with path := place :: i.path })

/-- The valid value, if there is one. -/
def value? : Checked α → Option α
  | valid a => some a
  | invalid _ => none

/-- As the usual kind of result. -/
def toExcept : Checked α → Except (List Issue) α
  | valid a => .ok a
  | invalid issues => .error issues

/-- Check the items of a list from a position on. -/
def allFrom (check : β → Checked α) (start : Nat) : List β → Checked (List α)
  | [] => valid []
  | b :: rest =>
    seq (map List.cons ((check b).under (.index start))) (allFrom check (start + 1) rest)

/-- Check every item of a list. -/
def all (check : β → Checked α) (items : List β) : Checked (List α) := allFrom check 0 items

@[simp] theorem map_valid (f : α → β) (a : α) : map f (valid a) = valid (f a) := rfl

@[simp] theorem map_invalid (f : α → β) (issues : List Issue) :
    map f (invalid issues) = invalid issues := rfl

@[simp] theorem seq_valid_valid (f : α → β) (a : α) : seq (valid f) (valid a) = valid (f a) := rfl

/-- A combination is valid exactly when both parts are. -/
theorem seq_eq_valid_iff {f : Checked (α → β)} {x : Checked α} {b : β} :
    seq f x = valid b ↔ ∃ g a, f = valid g ∧ x = valid a ∧ g a = b := by
  cases f <;> cases x <;> simp [seq]

@[simp] theorem under_eq_valid_iff {place : Place} {x : Checked α} {a : α} :
    x.under place = valid a ↔ x = valid a := by
  cases x <;> simp [under]

end Checked

end QueryPlans
