/-!
# Halves of surrogate pairs

An escape of JSON may name half a surrogate pair that stands alone. Such a half is no character, but the
text that was read keeps it. It stands in the text as a character of plane 13, in which none is assigned:
like the half itself it is neither a letter nor a digit, blank or printable.

* `isHalf`, `ofHalf`, `half?` — the halves, and the characters that they are kept as.
-/

namespace QueryPlans.Text

/-- The code unit is half a surrogate pair. -/
def isHalf (u : Nat) : Bool := 0xD800 ≤ u && u < 0xE000

/-- The character that a half is kept as. -/
def ofHalf (u : Nat) : Char := Char.ofNat (0xD0000 + u)

/-- The half that a character stands for. -/
def half? (c : Char) : Option Nat :=
  let u := c.toNat - 0xD0000
  if isHalf u then some u else none

/-- No half is lost, and no two are kept alike. -/
theorem half?_ofHalf {u : Nat} (h : isHalf u = true) : half? (ofHalf u) = some u := by
  have hbounds : 0xD800 ≤ u ∧ u < 0xE000 := by simpa [isHalf] using h
  have hvalid : (0xD0000 + u).isValidChar := .inr ⟨by omega, by omega⟩
  have hnat : (ofHalf u).toNat = 0xD0000 + u := by
    unfold ofHalf
    rw [Char.ofNat, dif_pos hvalid]
    rfl
  unfold half?
  simp only [hnat, Nat.add_sub_cancel_left, h, ↓reduceIte]

end QueryPlans.Text
