import QueryPlans.Proofs.Text.Pieces
import QueryPlans.Text.Blank

/-!
# Texts that are rewritten

A pattern is replaced in a text.  Each cut of the new text is a cut of the old one, with the pattern
replaced on both sides of it, or a cut within a place where the pattern was replaced.

* `Rewrites` — the second text is the first with the pattern replaced at some of its places.

Principal results: `rewrites_replaceAll` — replacing all of a pattern is such a step; `Rewrites.dropWhile`,
`Rewrites.filter` — characters that the pattern does not have may be dropped before or after it;
`Rewrites.spanUntil` — where the new text is cut.
-/

namespace QueryPlans.Text

variable {pattern image text text' : List Char} {p stop : Char → Bool} {c : Char}

/-- The second text is the first with the pattern replaced at some of its places. -/
inductive Rewrites (pattern image : List Char) : List Char → List Char → Prop
  | nil : Rewrites pattern image [] []
  | keep {text text' : List Char} (c : Char) (h : Rewrites pattern image text text') :
    Rewrites pattern image (c :: text) (c :: text')
  | swap {text text' : List Char} (h : Rewrites pattern image text text') :
    Rewrites pattern image (pattern ++ text) (image ++ text')

namespace Rewrites

/-- Rewriting can be undone. -/
theorem symm (h : Rewrites pattern image text text') : Rewrites image pattern text' text := by
  induction h with
  | nil => exact .nil
  | keep c h ih => exact .keep c ih
  | swap h ih => exact .swap ih

theorem prepend (before : List Char) (h : Rewrites pattern image text text') :
    Rewrites pattern image (before ++ text) (before ++ text') := by
  induction before with
  | nil => exact h
  | cons c before ih => exact .keep c ih

/-- A text that does not start like the pattern keeps its first character. -/
theorem of_cons (hp : ∃ d ds, pattern = d :: ds ∧ d ≠ c) (h : Rewrites pattern image (c :: text) text') :
    ∃ rest, text' = c :: rest ∧ Rewrites pattern image text rest := by
  obtain ⟨d, ds, rfl, hd⟩ := hp
  generalize hwhole : c :: text = whole at h
  cases h with
  | nil => cases hwhole
  | keep e h =>
    cases hwhole
    exact ⟨_, rfl, h⟩
  | swap h =>
    rw [List.cons_append] at hwhole
    injection hwhole with hc _
    exact absurd hc.symm hd

/-- A text in which the pattern does not occur stays as it is. -/
theorem eq_of_not_infix (h : Rewrites pattern image text text') (hnone : ¬ pattern <:+: text) :
    text' = text := by
  induction h with
  | nil => rfl
  | keep c h ih => rw [ih fun hinfix => hnone (List.infix_cons hinfix)]
  | swap h ih => exact absurd (List.prefix_append _ _).isInfix hnone

/-! ## Characters that are dropped -/

theorem filter (hp : ∀ c ∈ pattern, p c = true) (hi : ∀ c ∈ image, p c = true)
    (h : Rewrites pattern image text text') :
    Rewrites pattern image (text.filter p) (text'.filter p) := by
  induction h with
  | nil => exact .nil
  | keep c h ih =>
    rw [List.filter_cons, List.filter_cons]
    split
    · exact .keep c ih
    · exact ih
  | swap h ih =>
    rw [List.filter_append, List.filter_append, List.filter_eq_self.2 hp, List.filter_eq_self.2 hi]
    exact .swap ih

theorem dropWhile (hp : ∃ d ds, pattern = d :: ds ∧ p d = false)
    (hi : ∃ d ds, image = d :: ds ∧ p d = false) (h : Rewrites pattern image text text') :
    Rewrites pattern image (text.dropWhile p) (text'.dropWhile p) := by
  induction h with
  | nil => exact .nil
  | keep c h ih =>
    rw [List.dropWhile_cons, List.dropWhile_cons]
    split
    · exact ih
    · exact .keep c h
  | swap h ih =>
    obtain ⟨d, ds, rfl, hd⟩ := hp
    obtain ⟨e, es, rfl, he⟩ := hi
    have hstay : Rewrites (d :: ds) (e :: es) (d :: ds ++ _) (e :: es ++ _) := .swap h
    simpa [List.dropWhile_cons, hd, he] using hstay

/-! ## Where the new text is cut -/

/-- Both texts are cut at the same place: before it they are the same and behind it one is rewritten, or
the place is within a pattern that was replaced. -/
theorem spanUntil {word word' rest : List Char} {mark : Char} (hp : pattern = word ++ mark :: rest)
    (hi : image = word' ++ mark :: rest) (hword : ∀ c ∈ word, stop c = false)
    (hword' : ∀ c ∈ word', stop c = false) (hmark : stop mark = true)
    (h : Rewrites pattern image text text') :
    ((spanUntil stop text).1 = (spanUntil stop text').1 ∧
        Rewrites pattern image (spanUntil stop text).2 (spanUntil stop text').2) ∨
      ∃ before after after', Rewrites pattern image after after' ∧
        Text.spanUntil stop text = (before ++ word, mark :: rest ++ after) ∧
        Text.spanUntil stop text' = (before ++ word', mark :: rest ++ after') := by
  induction h with
  | nil => exact .inl ⟨rfl, .nil⟩
  | @keep text text' c h ih =>
    by_cases hc : stop c = true
    · left
      simpa [Text.spanUntil, hc] using h.keep c
    · simp only [Text.spanUntil, List.takeWhile_cons, List.dropWhile_cons, hc, Bool.not_false,
        ↓reduceIte] at ih ⊢
      rcases ih with ⟨hfirst, hrest⟩ | ⟨before, after, after', hrest, hold, hnew⟩
      · exact .inl ⟨by rw [hfirst], hrest⟩
      · rw [Prod.mk.injEq] at hold hnew
        refine .inr ⟨c :: before, after, after', hrest, ?_, ?_⟩
        · rw [hold.1, hold.2]
          rfl
        · rw [hnew.1, hnew.2]
          rfl
  | @swap text text' h ih =>
    refine .inr ⟨[], text, text', h, ?_, ?_⟩
    · rw [hp, List.append_assoc, List.cons_append, spanUntil_append_cons hword hmark]
      rfl
    · rw [hi, List.append_assoc, List.cons_append, spanUntil_append_cons hword' hmark]
      rfl

end Rewrites

/-- To replace every occurrence of a pattern is to rewrite the text. -/
theorem rewrites_replaceAll (hne : pattern ≠ []) (text : List Char) :
    Rewrites pattern image text (replaceAll pattern image text) := by
  induction hlength : text.length using Nat.strongRecOn generalizing text with
  | ind n ih =>
    by_cases hprefix : pattern <+: text
    · obtain ⟨rest, rfl⟩ := hprefix
      have hshort : rest.length < n := by
        have hpos := List.length_pos_iff.2 hne
        rw [List.length_append] at hlength
        omega
      rw [replaceAll_pattern_append hne]
      exact .swap (ih _ hshort rest rfl)
    · cases text with
      | nil => exact .nil
      | cons c cs =>
        have hshort : cs.length < n := by
          rw [List.length_cons] at hlength
          omega
        have hfirst : replaceAll pattern image (c :: cs) = c :: replaceAll pattern image cs := by
          have hno : pattern.isPrefixOf (c :: cs) = false := by
            rw [← Bool.not_eq_true, List.isPrefixOf_iff_prefix]
            exact hprefix
          unfold replaceAll
          rw [replaceFrom, hno]
          rfl
        rw [hfirst]
        exact .keep c (ih _ hshort cs rfl)

end QueryPlans.Text
