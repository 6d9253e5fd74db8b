/-!
# Conditions

* `Condition` — atoms, and what `NOT`, `AND` and `OR` make of them; `Condition.eval` — its truth.
* `Condition.IsFree` — no atom stands in it twice, so that its parts may be true or false as one likes.

Principal results: `exists_eval_eq` — a free condition has every truth value; `exists_true_false` —
of two conditions without a common atom one can be true and the other false.
-/

namespace QueryPlans

/-- A condition over atoms. -/
inductive Condition (α : Type) where
  | atom (a : α)
  | not (c : Condition α)
  | and (c d : Condition α)
  | or (c d : Condition α)
  deriving DecidableEq, Repr

namespace Condition

variable {α : Type}

/-- Whether the condition is true, by the truth of its atoms. -/
def eval (v : α → Bool) : Condition α → Bool
  | atom a => v a
  | not c => !c.eval v
  | and c d => c.eval v && d.eval v
  | or c d => c.eval v || d.eval v

/-- The atoms of a condition, as often as they stand in it. -/
def atoms : Condition α → List α
  | atom a => [a]
  | not c => c.atoms
  | and c d => c.atoms ++ d.atoms
  | or c d => c.atoms ++ d.atoms

/-- No atom stands twice in the condition. -/
def IsFree (c : Condition α) : Prop := c.atoms.Nodup

/-- Only the truth of its atoms counts. -/
theorem eval_congr {c : Condition α} {v w : α → Bool} (h : ∀ a ∈ c.atoms, v a = w a) :
    c.eval v = c.eval w := by
  induction c with
  | atom a => exact h a (by simp [atoms])
  | not c ih => rw [eval, eval, ih h]
  | and c d ihc ihd | or c d ihc ihd =>
    have hc : c.eval v = c.eval w := ihc fun a ha => h a (by simp [atoms, ha])
    have hd : d.eval v = d.eval w := ihd fun a ha => h a (by simp [atoms, ha])
    rw [eval, eval, hc, hd]

section
variable [DecidableEq α]

/-- Conditions without a common atom take their truth values independently. -/
theorem exists_eval_both {c d : Condition α} {v w : α → Bool}
    (h : ∀ a ∈ c.atoms, a ∉ d.atoms) :
    ∃ u, c.eval u = c.eval v ∧ d.eval u = d.eval w := by
  refine ⟨fun a => if a ∈ c.atoms then v a else w a, ?_, ?_⟩
  · refine eval_congr fun a ha => ?_
    simp [ha]
  · refine eval_congr fun a ha => ?_
    have hc : a ∉ c.atoms := fun hc => h a hc ha
    simp [hc]

/-- A free condition has every truth value. -/
theorem exists_eval_eq {c : Condition α} (h : c.IsFree) (b : Bool) : ∃ v, c.eval v = b := by
  induction c generalizing b with
  | atom a => exact ⟨fun _ => b, rfl⟩
  | not c ih =>
    obtain ⟨v, hv⟩ := ih h (!b)
    exact ⟨v, by simp [eval, hv]⟩
  | and c d ihc ihd | or c d ihc ihd =>
    obtain ⟨hc, hd, hdisjoint⟩ := List.nodup_append.1 h
    obtain ⟨v, hv⟩ := ihc hc b
    obtain ⟨w, hw⟩ := ihd hd b
    obtain ⟨u, huc, hud⟩ := exists_eval_both (c := c) (d := d) (v := v) (w := w)
      fun a ha ha' => hdisjoint a ha a ha' rfl
    exact ⟨u, by simp [eval, huc, hud, hv, hw]⟩

/-- Of two free conditions without a common atom one can be true and the other false. -/
theorem exists_true_false {c d : Condition α} (h : (c.atoms ++ d.atoms).Nodup) :
    ∃ v, c.eval v = true ∧ d.eval v = false := by
  obtain ⟨hc, hd, hdisjoint⟩ := List.nodup_append.1 h
  obtain ⟨v, hv⟩ := exists_eval_eq hc true
  obtain ⟨w, hw⟩ := exists_eval_eq hd false
  obtain ⟨u, huc, hud⟩ := exists_eval_both (v := v) (w := w)
    fun a ha ha' => hdisjoint a ha a ha' rfl
  exact ⟨u, huc.trans hv, hud.trans hw⟩

end

end Condition

end QueryPlans
