import Mathlib.Data.List.Infix
import Mathlib.Data.List.TakeWhile
import QueryPlans.Text.Search

/-!
# Where a text is cut

A text is cut at the first or the last of its separators, at all of them, or where characters of a class
begin.  Put together from its pieces, it is cut into them again.

* `cut_append_cons`, `cutLast_append_cons`, `spanUntil_append_cons` — one cut.
* `splitOn_append_cons`, `splitLines_joined` — all cuts; lines that are joined are split into the lines.
* `replaceAll_eq_self`, `replaceAll_pattern_append` — text without the pattern, and text that starts with
  it.
-/

namespace QueryPlans.Text

variable {separator : Char} {pattern image text before after : List Char} {stop : Char → Bool}

/-- A test that every member of a list passes. -/
theorem forall_mem_of_all {α : Type} {l : List α} {P : α → Prop} [DecidablePred P]
    (h : l.all (decide <| P ·) = true) : ∀ a ∈ l, P a :=
  fun a ha => of_decide_eq_true (List.all_eq_true.1 h a ha)

/-! ## One cut -/

theorem spanUntil_eq_self (h : ∀ c ∈ before, stop c = false) : spanUntil stop before = (before, []) := by
  have htake : before.takeWhile (!stop ·) = before :=
    List.takeWhile_eq_self_iff.2 fun c hc => by simp [h c hc]
  have hdrop : before.dropWhile (!stop ·) = [] :=
    List.dropWhile_eq_nil_iff.2 fun c hc => by simp [h c hc]
  unfold spanUntil
  rw [htake, hdrop]

theorem spanUntil_append_cons {c : Char} (h : ∀ d ∈ before, stop d = false) (hc : stop c = true) :
    spanUntil stop (before ++ c :: after) = (before, c :: after) := by
  have hbefore : ∀ d ∈ before, (!stop d) = true := fun d hd => by simp [h d hd]
  unfold spanUntil
  rw [List.takeWhile_append_of_pos hbefore, List.dropWhile_append_of_pos hbefore]
  simp [hc]

theorem cut_of_notMem (h : separator ∉ text) : cut separator text = (text, none) := by
  have hspan : spanUntil (· == separator) text = (text, []) := by
    apply spanUntil_eq_self
    intro c hc
    rw [beq_eq_false_iff_ne]
    rintro rfl
    exact h hc
  unfold cut
  rw [hspan]

theorem cut_append_cons (h : separator ∉ before) :
    cut separator (before ++ separator :: after) = (before, some after) := by
  have hspan : spanUntil (· == separator) (before ++ separator :: after) =
      (before, separator :: after) := by
    refine spanUntil_append_cons (fun c hc => ?_) (beq_self_eq_true separator)
    rw [beq_eq_false_iff_ne]
    rintro rfl
    exact h hc
  unfold cut
  rw [hspan]

/-- A text that is cut is what stands on both sides of the separator. -/
theorem eq_of_cut (h : cut separator text = (before, some after)) : text = before ++ separator :: after := by
  by_cases hmem : separator ∈ text
  · obtain ⟨first, rest, rfl, hfirst⟩ := List.eq_append_cons_of_mem hmem
    rw [cut_append_cons hfirst] at h
    cases h
    rfl
  · rw [cut_of_notMem hmem] at h
    cases h

/-- What stands in front of the separator. -/
theorem cut_prefix : (cut separator text).1 <+: text := by
  by_cases hmem : separator ∈ text
  · obtain ⟨first, rest, rfl, hfirst⟩ := List.eq_append_cons_of_mem hmem
    rw [cut_append_cons hfirst]
    exact List.prefix_append first _
  · rw [cut_of_notMem hmem]

theorem cutLast_append_cons (h : separator ∉ after) :
    cutLast separator (before ++ separator :: after) = (some before, after) := by
  have hreverse : (before ++ separator :: after).reverse =
      after.reverse ++ separator :: before.reverse := by simp
  have hafter : separator ∉ after.reverse := by simpa using h
  unfold cutLast
  rw [hreverse, cut_append_cons hafter]
  simp

/-! ### More text behind it -/

/-- A cut in the first part of a text. -/
theorem exists_cut_append (h : separator ∈ before) :
    ∃ first rest, ∀ after, cut separator (before ++ after) = (first, some (rest ++ after)) := by
  obtain ⟨first, rest, rfl, hfirst⟩ := List.eq_append_cons_of_mem h
  refine ⟨first, rest, fun after => ?_⟩
  rw [List.append_assoc, List.cons_append, cut_append_cons hfirst]

/-- A cut behind the first part of a text. -/
theorem cut_append_of_notMem (h : separator ∉ before) (after : List Char) :
    cut separator (before ++ after) = (before ++ (cut separator after).1, (cut separator after).2) := by
  by_cases hafter : separator ∈ after
  · obtain ⟨first, rest, rfl, hfirst⟩ := List.eq_append_cons_of_mem hafter
    have hboth : separator ∉ before ++ first := by simp [h, hfirst]
    rw [← List.append_assoc, cut_append_cons hboth, cut_append_cons hfirst]
  · have hboth : separator ∉ before ++ after := by simp [h, hafter]
    rw [cut_of_notMem hboth, cut_of_notMem hafter]

theorem cutLast_append_of_notMem (h : separator ∉ after) (before : List Char) :
    (cutLast separator (before ++ after)).2 = (cutLast separator before).2 ++ after := by
  have hreverse : separator ∉ after.reverse := by simpa using h
  unfold cutLast
  rw [List.reverse_append, cut_append_of_notMem hreverse]
  cases cut separator before.reverse with
  | mk first rest => cases rest <;> simp

theorem exists_spanUntil_append (h : ∃ c ∈ before, stop c = true) :
    ∃ first c rest, ∀ after, spanUntil stop (before ++ after) = (first, c :: (rest ++ after)) := by
  induction before with
  | nil =>
    obtain ⟨c, hc, -⟩ := h
    cases hc
  | cons d before ih =>
    by_cases hd : stop d = true
    · refine ⟨[], d, before, fun after => ?_⟩
      simp [spanUntil, hd]
    · obtain ⟨c, hc, hstop⟩ := h
      have hlater : c ∈ before := by
        rcases List.mem_cons.1 hc with rfl | hlater
        · exact absurd hstop hd
        · exact hlater
      obtain ⟨first, e, rest, hspan⟩ := ih ⟨c, hlater, hstop⟩
      refine ⟨d :: first, e, rest, fun after => ?_⟩
      have hafter := hspan after
      simp only [spanUntil, Prod.mk.injEq] at hafter ⊢
      simp [hd, hafter]

/-! ## All cuts -/

theorem splitOn_of_notMem (h : separator ∉ text) : splitOn separator text = [text] := by
  induction text with
  | nil => rfl
  | cons c cs ih =>
    rw [List.mem_cons, not_or] at h
    rw [splitOn, if_neg (Ne.symm h.1), ih h.2]

theorem splitOn_append_cons (h : separator ∉ before) (after : List Char) :
    splitOn separator (before ++ separator :: after) = before :: splitOn separator after := by
  induction before with
  | nil => simp [splitOn]
  | cons c cs ih =>
    rw [List.mem_cons, not_or] at h
    rw [List.cons_append, splitOn, if_neg (Ne.symm h.1), ih h.2]

/-- A character of a text is the separator or stands in one of the pieces. -/
theorem mem_of_splitOn (separator : Char) {c : Char} (h : c ∈ text) :
    c = separator ∨ ∃ piece ∈ splitOn separator text, c ∈ piece := by
  induction text with
  | nil => cases h
  | cons d ds ih =>
    by_cases hd : d = separator
    · rcases List.mem_cons.1 h with rfl | hrest
      · exact .inl hd
      rcases ih hrest with hc | ⟨piece, hpiece, hmem⟩
      · exact .inl hc
      · exact .inr ⟨piece, by simp [splitOn, hd, hpiece], hmem⟩
    · rw [splitOn, if_neg hd]
      cases hpieces : splitOn separator ds with
      | nil =>
        rw [hpieces] at ih
        rcases List.mem_cons.1 h with rfl | hrest
        · exact .inr ⟨[c], by simp, by simp⟩
        · exact .inl (by simpa using ih hrest)
      | cons first rest =>
        rw [hpieces] at ih
        rcases List.mem_cons.1 h with rfl | hrest
        · exact .inr ⟨c :: first, by simp, by simp⟩
        rcases ih hrest with hc | ⟨piece, hpiece, hmem⟩
        · exact .inl hc
        rcases List.mem_cons.1 hpiece with rfl | hlater
        · exact .inr ⟨d :: piece, by simp, by simp [hmem]⟩
        · exact .inr ⟨piece, by simp [hlater], hmem⟩

/-- The text has no line break. -/
def IsLine (s : String) : Prop := '\n' ∉ s.toList

instance (s : String) : Decidable (IsLine s) := inferInstanceAs (Decidable (_ ∉ _))

theorem IsLine.append {s t : String} (hs : IsLine s) (ht : IsLine t) : IsLine (s ++ t) := by
  unfold IsLine at *
  rw [String.toList_append, List.mem_append, not_or]
  exact ⟨hs, ht⟩

/-- Lines that are joined are split into the lines. -/
theorem splitLines_joined {first : String} {rest : List String} (h : ∀ line ∈ first :: rest, IsLine line) :
    splitLines (joined "\n" (first :: rest)).toList = (first :: rest).map String.toList := by
  induction rest generalizing first with
  | nil => exact splitOn_of_notMem (h first List.mem_cons_self)
  | cons second rest ih =>
    have htext : (joined "\n" (first :: second :: rest)).toList =
        first.toList ++ '\n' :: (joined "\n" (second :: rest)).toList := by
      simp [joined_cons_cons]
    have hrest := ih fun line hline => h line (List.mem_cons_of_mem _ hline)
    unfold splitLines at hrest ⊢
    rw [htext, splitOn_append_cons (h first List.mem_cons_self), hrest]
    rfl

/-! ## Replacing -/

/-- A text in which the pattern does not occur stays as it is. -/
theorem replaceAll_eq_self (h : ¬ pattern <:+: text) : replaceAll pattern image text = text := by
  unfold replaceAll
  induction text with
  | nil => rfl
  | cons c cs ih =>
    rw [List.infix_cons_iff, not_or] at h
    have hprefix : pattern.isPrefixOf (c :: cs) = false := by
      rw [← Bool.not_eq_true, List.isPrefixOf_iff_prefix]
      exact h.1
    rw [replaceFrom, hprefix, ih h.2]
    rfl

theorem replaceFrom_append (skipped rest : List Char) :
    replaceFrom pattern image skipped.length (skipped ++ rest) = replaceFrom pattern image 0 rest := by
  induction skipped with
  | nil => rfl
  | cons c cs ih => exact ih

/-- Where a text starts with the pattern, the image takes its place. -/
theorem replaceAll_pattern_append (hne : pattern ≠ []) (rest : List Char) :
    replaceAll pattern image (pattern ++ rest) = image ++ replaceAll pattern image rest := by
  cases pattern with
  | nil => exact absurd rfl hne
  | cons p ps =>
    have hprefix : (p :: ps).isPrefixOf (p :: (ps ++ rest)) = true := by
      rw [List.isPrefixOf_iff_prefix]
      exact List.prefix_append (p :: ps) rest
    unfold replaceAll
    rw [List.cons_append, replaceFrom, if_pos hprefix]
    exact congrArg (image ++ ·) (replaceFrom_append ps rest)

end QueryPlans.Text
