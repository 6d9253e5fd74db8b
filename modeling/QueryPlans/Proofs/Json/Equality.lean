import QueryPlans.Json.Basic

/-!
# Equal values

JSON values are compared part by part, so that what is decoded from a text can be decided.

* `Json.same`, `Json.sameItems`, `Json.sameFields` — the comparison.

Principal result: `same_iff` — it is equality.
-/

namespace QueryPlans.Json

mutual

def same : Json → Json → Bool
  | null, null => true
  | bool b, bool c => b == c
  | int m, int n => m == n
  | float x, float y => x == y
  | str s, str t => s == t
  | arr items, arr others => sameItems items others
  | obj fields, obj others => sameFields fields others
  | _, _ => false

def sameItems : List Json → List Json → Bool
  | [], [] => true
  | v :: rest, w :: others => same v w && sameItems rest others
  | _, _ => false

/-- Fields are the same if they stand in the same order. -/
def sameFields : Fields → Fields → Bool
  | [], [] => true
  | (name, v) :: rest, (other, w) :: others => name == other && same v w && sameFields rest others
  | _, _ => false

end

mutual

theorem same_iff : ∀ v w : Json, same v w = true ↔ v = w
  | null, w => by cases w <;> simp [same]
  | bool b, w => by cases w <;> simp [same]
  | int n, w => by cases w <;> simp [same]
  | float x, w => by cases w <;> simp [same]
  | str s, w => by cases w <;> simp [same]
  | arr items, w => by cases w <;> simp [same, sameItems_iff items]
  | obj fields, w => by cases w <;> simp [same, sameFields_iff fields]

theorem sameItems_iff : ∀ items others : List Json, sameItems items others = true ↔ items = others
  | [], others => by cases others <;> simp [sameItems]
  | v :: rest, others => by cases others <;> simp [sameItems, same_iff v, sameItems_iff rest]

theorem sameFields_iff : ∀ fields others : Fields, sameFields fields others = true ↔ fields = others
  | [], others => by cases others <;> simp [sameFields]
  | (name, v) :: rest, others => by
    cases others <;> simp [sameFields, same_iff v, sameFields_iff rest, Prod.ext_iff]

end

instance : DecidableEq Json := fun v w => decidable_of_iff _ (same_iff v w)

end QueryPlans.Json
