import QueryPlans.Text.Blank
import QueryPlans.Text.Search

/-!
# Where a pattern is found

A search passes over text in which the pattern cannot begin, and over text that a character of no
pattern ends.

* `find?_eq_none` — a pattern that does not occur is not found.
* `find?_pattern_append` — a pattern is found where the text starts with it.
* `find?_append_of_notMem`, `find?_append_separator` — text that is passed over.
* `FirstAt` — a text split around the first occurrence of a pattern; `find?_eq_some_iff` — this is what
  a search finds.
* `FirstAt.of_append`, `FirstAt.unique` — first occurrences in a later part of a text; there is only one.
* `trim_between` — trimming takes away all that stands around a text.
-/

namespace QueryPlans.Text

variable {pattern text before after : List Char}

/-! ## Finding -/

theorem find?_eq_none (h : ¬ pattern <:+: text) : find? pattern text = none := by
  cases hfind : find? pattern text with
  | none => rfl
  | some r =>
    obtain ⟨before, after⟩ := r
    exact absurd ⟨before, after, (find?_sound hfind).symm⟩ h

theorem find?_pattern_append (hne : pattern ≠ []) (rest : List Char) :
    find? pattern (pattern ++ rest) = some ([], rest) := by
  cases pattern with
  | nil => exact absurd rfl hne
  | cons p ps =>
    have hdrop : dropPattern? (p :: ps) (p :: (ps ++ rest)) = some rest :=
      dropPattern?_eq_some_iff.2 rfl
    rw [List.cons_append, find?, hdrop]

/-- A text that does not start with the pattern is searched from its second character on. -/
theorem find?_cons_of_not_prefix {c : Char} (h : ¬ pattern <+: c :: text) :
    find? pattern (c :: text) = (find? pattern text).map fun r => (c :: r.1, r.2) := by
  cases hdrop : dropPattern? pattern (c :: text) with
  | none => rw [find?, hdrop]
  | some rest => exact absurd ⟨rest, (dropPattern?_eq_some_iff.1 hdrop).symm⟩ h

/-- Text without the first character of the pattern is passed over. -/
theorem find?_append_of_notMem {p : Char} (hp : pattern.head? = some p) (h : p ∉ before)
    (rest : List Char) :
    find? pattern (before ++ rest) =
      (find? pattern rest).map fun r => (before ++ r.1, r.2) := by
  obtain ⟨ps, rfl⟩ := List.head?_eq_some_iff.1 hp
  induction before with
  | nil => simp
  | cons c cs ih =>
    rw [List.mem_cons, not_or] at h
    have hprefix : ¬ (p :: ps) <+: c :: (cs ++ rest) := by
      intro hpc
      exact h.1 (List.cons_prefix_cons.1 hpc).1
    rw [List.cons_append, find?_cons_of_not_prefix hprefix, ih h.2, Option.map_map]
    rfl

/-- A pattern that starts a text and does not hold its separator ends before it. -/
theorem prefix_of_prefix_separator (before : List Char) {c : Char} (hc : c ∉ pattern)
    (h : pattern <+: before ++ c :: after) : pattern <+: before := by
  rcases List.prefix_or_prefix_of_prefix h (List.prefix_append before (c :: after)) with h' | h'
  · exact h'
  · obtain ⟨tail, rfl⟩ := h'
    obtain ⟨rest, heq⟩ := h
    rw [List.append_assoc] at heq
    cases tail with
    | nil => exact ⟨[], by simp⟩
    | cons d ds =>
      rw [List.append_cancel_left_eq, List.cons_append] at heq
      obtain ⟨rfl, -⟩ := List.cons.inj heq
      exact absurd (by simp) hc

/-- A pattern does not reach over a character that it does not hold. -/
theorem infix_separator (before : List Char) {c : Char} (hc : c ∉ pattern)
    (h : pattern <:+: before ++ c :: after) : pattern <:+: before ∨ pattern <:+: after := by
  induction before with
  | nil =>
    rcases List.infix_cons_iff.1 h with hprefix | hinfix
    · exact .inl (prefix_of_prefix_separator [] hc hprefix).isInfix
    · exact .inr hinfix
  | cons d ds ih =>
    rw [List.cons_append] at h
    rcases List.infix_cons_iff.1 h with hprefix | hinfix
    · exact .inl (prefix_of_prefix_separator (d :: ds) hc hprefix).isInfix
    · rcases ih hinfix with hds | hafter
      · exact .inl (List.infix_cons hds)
      · exact .inr hafter

/-- Text without the pattern, up to a character that the pattern does not hold, is passed over. -/
theorem find?_append_separator {c : Char} (hne : pattern ≠ []) (hc : c ∉ pattern)
    (h : ¬ pattern <:+: before) (rest : List Char) :
    find? pattern (before ++ c :: rest) =
      (find? pattern rest).map fun r => (before ++ c :: r.1, r.2) := by
  induction before with
  | nil =>
    have hprefix : ¬ pattern <+: c :: rest := by
      intro hp
      exact hne (List.prefix_nil.1 (prefix_of_prefix_separator [] hc hp))
    rw [List.nil_append, find?_cons_of_not_prefix hprefix]
    rfl
  | cons d ds ih =>
    have hprefix : ¬ pattern <+: d :: (ds ++ c :: rest) := by
      intro hp
      exact h (prefix_of_prefix_separator (d :: ds) hc hp).isInfix
    have hds : ¬ pattern <:+: ds := fun hp => h (List.infix_cons hp)
    rw [List.cons_append, find?_cons_of_not_prefix hprefix, ih hds, Option.map_map]
    rfl

/-! ## The first occurrence -/

/-- The text splits around the first occurrence of the pattern: no occurrence starts before it. -/
structure FirstAt (pattern text before after : List Char) : Prop where
  split : text = before ++ pattern ++ after
  first : ¬ pattern <:+: before ++ pattern.dropLast

theorem FirstAt.cons_iff {c : Char} (h : ¬ pattern <+: c :: text) :
    FirstAt pattern (c :: text) (c :: before) after ↔ FirstAt pattern text before after := by
  constructor
  · rintro ⟨hsplit, hfirst⟩
    exact ⟨(List.cons.inj hsplit).2, fun hinfix => hfirst (List.infix_cons hinfix)⟩
  · rintro ⟨rfl, hfirst⟩
    refine ⟨rfl, fun hinfix => ?_⟩
    rw [List.cons_append] at hinfix
    rcases List.infix_cons_iff.1 hinfix with hstart | hinfix
    · apply h
      refine hstart.trans (List.cons_prefix_cons.2 ⟨rfl, ?_⟩)
      rw [List.append_assoc]
      exact (List.prefix_append_right_inj before).2
        ((List.dropLast_prefix pattern).trans (List.prefix_append _ _))
    · exact hfirst hinfix

/-- No occurrence starts before the first. -/
theorem FirstAt.length_le {other rest : List Char} (h : FirstAt pattern text before after)
    (hother : text = other ++ pattern ++ rest) : before.length ≤ other.length := by
  obtain ⟨hsplit, hfirst⟩ := h
  rw [← Nat.not_lt]
  intro hlt
  have hshort : before ++ pattern.dropLast <+: text := by
    rw [hsplit, List.append_assoc]
    exact (List.prefix_append_right_inj before).2
      ((List.dropLast_prefix pattern).trans (List.prefix_append _ _))
  have hearly : other ++ pattern <+: before ++ pattern.dropLast := by
    apply List.prefix_of_prefix_length_le ⟨rest, hother.symm⟩ hshort
    simp only [List.length_append, List.length_dropLast]
    omega
  exact hfirst ((List.suffix_append other pattern).isInfix.trans hearly.isInfix)

theorem find?_eq_some_iff (hne : pattern ≠ []) :
    find? pattern text = some (before, after) ↔ FirstAt pattern text before after := by
  induction text generalizing before with
  | nil =>
    simp only [find?, hne, ↓reduceIte, reduceCtorEq, false_iff]
    rintro ⟨hsplit, -⟩
    simp [hne] at hsplit
  | cons c cs ih =>
    by_cases hstart : pattern <+: c :: cs
    · obtain ⟨rest, hrest⟩ := hstart
      rw [← hrest, find?_pattern_append hne]
      constructor
      · intro h
        cases h
        refine ⟨rfl, fun hinfix => ?_⟩
        have hlength := hinfix.length_le
        have hpos := List.length_pos_iff.2 hne
        simp only [List.nil_append, List.length_dropLast] at hlength
        omega
      · intro h
        have hlength : before.length ≤ ([] : List Char).length := h.length_le rfl
        obtain rfl := List.length_eq_zero_iff.1 (Nat.le_zero.1 hlength)
        rw [List.append_cancel_left h.split]
    · have hskip := find?_cons_of_not_prefix hstart
      rw [hskip]
      cases before with
      | nil =>
        constructor
        · intro h
          obtain ⟨_, -, heq⟩ := Option.map_eq_some_iff.1 h
          cases heq
        · rintro ⟨hsplit, -⟩
          exact absurd ⟨after, hsplit.symm⟩ hstart
      | cons d before =>
        constructor
        · intro h
          obtain ⟨_, hfind, heq⟩ := Option.map_eq_some_iff.1 h
          cases heq
          exact (FirstAt.cons_iff hstart).2 (ih.1 hfind)
        · intro h
          obtain rfl := (List.cons.inj h.split).1
          rw [ih.2 ((FirstAt.cons_iff hstart).1 h)]
          rfl

theorem find?_eq_none_iff (hne : pattern ≠ []) : find? pattern text = none ↔ ¬ pattern <:+: text := by
  refine ⟨fun h hinfix => ?_, find?_eq_none⟩
  induction text with
  | nil => exact hne (List.infix_nil.1 hinfix)
  | cons c cs ih =>
    by_cases hstart : pattern <+: c :: cs
    · obtain ⟨rest, hrest⟩ := hstart
      rw [← hrest, find?_pattern_append hne] at h
      cases h
    · have hskip := find?_cons_of_not_prefix hstart
      rw [hskip, Option.map_eq_none_iff] at h
      exact ih h ((List.infix_cons_iff.1 hinfix).resolve_left hstart)

/-- What follows any occurrence of the pattern also follows the first. -/
theorem exists_firstAt (hne : pattern ≠ []) {other rest : List Char}
    (hother : text = other ++ pattern ++ rest) :
    ∃ before after, FirstAt pattern text before after ∧ rest <:+ after := by
  cases hfind : find? pattern text with
  | none => exact absurd ⟨other, rest, hother.symm⟩ ((find?_eq_none_iff hne).1 hfind)
  | some r =>
    have hfirst : FirstAt pattern text r.1 r.2 := (find?_eq_some_iff hne).1 hfind
    refine ⟨r.1, r.2, hfirst, ?_⟩
    have hle := hfirst.length_le hother
    have hlength := congrArg List.length (hother.symm.trans hfirst.split)
    simp only [List.length_append] at hlength
    exact List.suffix_of_suffix_length_le ⟨_, hother.symm⟩ ⟨_, hfirst.split.symm⟩ (by omega)

/-- What is first in a text is also first in a later part of it. -/
theorem FirstAt.of_append {skipped : List Char}
    (h : FirstAt pattern (skipped ++ text) (skipped ++ before) after) :
    FirstAt pattern text before after := by
  obtain ⟨hsplit, hfirst⟩ := h
  constructor
  · rw [List.append_assoc, List.append_assoc, List.append_cancel_left_eq] at hsplit
    rw [hsplit, List.append_assoc]
  · intro hoccurs
    apply hfirst
    rw [List.append_assoc]
    exact hoccurs.trans (List.suffix_append _ _).isInfix

/-- A text has one first occurrence. -/
theorem FirstAt.unique (hne : pattern ≠ []) {before' after' : List Char}
    (h : FirstAt pattern text before after) (h' : FirstAt pattern text before' after') :
    before' = before ∧ after' = after := by
  have hfind := (find?_eq_some_iff hne).2 h
  have hfind' := (find?_eq_some_iff hne).2 h'
  rw [hfind] at hfind'
  cases hfind'
  exact ⟨rfl, rfl⟩

/-! ## Joining -/

/-- Two texts that are joined may stand for the two. -/
theorem joined_append_cons (separator first second : String) (rest : List String) :
    joined separator ((first ++ separator ++ second) :: rest) =
      joined separator (first :: second :: rest) := by
  cases rest with
  | nil => rfl
  | cons third rest => simp only [joined_cons_cons, String.append_assoc]

/-! ## Trimming -/

theorem trimStart_append {p : Char → Bool} (h : ∀ c ∈ before, p c = true) (rest : List Char) :
    trimStart p (before ++ rest) = trimStart p rest := by
  induction before with
  | nil => rfl
  | cons c cs ih =>
    have hc : p c = true := h c (by simp)
    unfold trimStart at ih ⊢
    rw [List.cons_append, List.dropWhile_cons_of_pos hc]
    exact ih fun d hd => h d (by simp [hd])

/-- Trimming takes away all that stands around a text whose ends stay. -/
theorem trim_between (before after : List Char) {p : Char → Bool} {first last : Char}
    {middle : List Char} (hbefore : ∀ c ∈ before, p c = true) (hafter : ∀ c ∈ after, p c = true)
    (hfirst : p first = false) (hlast : p last = false) :
    trim p (before ++ (first :: (middle ++ [last])) ++ after) = first :: (middle ++ [last]) := by
  have hstart : trimStart p (before ++ (first :: (middle ++ [last]) ++ after)) =
      first :: (middle ++ [last]) ++ after := by
    rw [trimStart_append hbefore]
    unfold trimStart
    rw [List.cons_append, List.dropWhile_cons_of_neg (by simp [hfirst])]
  have hend : (after.reverse ++ (first :: (middle ++ [last])).reverse).dropWhile p =
      (first :: (middle ++ [last])).reverse := by
    have htrim := trimStart_append (fun c hc => hafter c (List.mem_reverse.1 hc))
      (first :: (middle ++ [last])).reverse
    unfold trimStart at htrim
    rw [htrim]
    simp [hlast]
  unfold trim trimEnd
  rw [List.append_assoc, hstart, List.reverse_append, hend, List.reverse_reverse]

/-- What is left after trimming stands in the text. -/
theorem trim_infix (p : Char → Bool) (text : List Char) : trim p text <:+: text := by
  have hstart : trimStart p text <:+ text := List.dropWhile_suffix p
  have hend : trimEnd p (trimStart p text) <+: trimStart p text := by
    have hsuffix : (trimStart p text).reverse.dropWhile p <:+ (trimStart p text).reverse :=
      List.dropWhile_suffix p
    simpa [trimEnd] using List.reverse_prefix.2 hsuffix
  exact hend.isInfix.trans hstart.isInfix

end QueryPlans.Text
