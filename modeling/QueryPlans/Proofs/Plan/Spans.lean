import QueryPlans.Proofs.Plan.Braces

/-!
# Spans between braces

The scan for braces finds nothing but balanced text between braces, and finds it wherever it is.

* `Plan.Closes` — text that closes so many braces, each after balanced text.
* `Plan.Mode.Closes` — the same for a scan that starts inside of a string.
* `Plan.IsFirstSpan` — the span from the first opening brace of a text to the brace that closes it.

Principal results: `takeBalanced?_sound` — what a scan takes closes the braces that are open;
`balancedObject?_eq_some_iff` — a span is found exactly if it is the first.
-/

namespace QueryPlans.Plan

/-- The text closes one brace more than `depth`, each after balanced text. -/
def Closes : Nat → List Char → Prop
  | 0, taken => ∃ inner, Balanced inner ∧ taken = inner ++ ['}']
  | depth + 1, taken => ∃ inner outer, Balanced inner ∧ Closes depth outer ∧ taken = inner ++ '}' :: outer

/-- The text first closes the string that the scan is in, if it is in one. -/
def Mode.Closes (depth : Nat) : Mode → List Char → Prop
  | .outside, taken => Plan.Closes depth taken
  | .inString, taken =>
    ∃ body rest, QuotedBody body ∧ Plan.Closes depth rest ∧ taken = body ++ '"' :: rest
  | .escaped, taken =>
    ∃ c body rest, QuotedBody body ∧ Plan.Closes depth rest ∧ taken = c :: (body ++ '"' :: rest)

variable {depth : Nat} {mode : Mode} {cs taken text span : List Char}

/-! ## What a scan takes -/

theorem Closes.prepend {before : List Char} (hbefore : Balanced before) (h : Closes depth taken) :
    Closes depth (before ++ taken) := by
  cases depth with
  | zero =>
    obtain ⟨inner, hinner, rfl⟩ := h
    exact ⟨before ++ inner, hbefore.append hinner, (List.append_assoc _ _ _).symm⟩
  | succ depth =>
    obtain ⟨inner, outer, hinner, houter, rfl⟩ := h
    exact ⟨before ++ inner, outer, hbefore.append hinner, houter, (List.append_assoc _ _ _).symm⟩

theorem Closes.plain {c : Char} (hc : ¬ IsMark c) (h : Closes depth taken) :
    Closes depth (c :: taken) :=
  h.prepend (.plain hc .nil)

/-- A brace that is opened is closed before the others. -/
theorem Closes.opened (h : Closes (depth + 1) taken) : Closes depth ('{' :: taken) := by
  obtain ⟨inner, outer, hinner, houter, rfl⟩ := h
  have hbraces : Balanced ('{' :: (inner ++ ['}'])) := .braces hinner .nil
  simpa using houter.prepend hbraces

theorem Closes.closed (h : Closes depth taken) : Closes (depth + 1) ('}' :: taken) :=
  ⟨[], taken, .nil, h, rfl⟩

theorem Closes.last : Closes 0 ['}'] := ⟨[], .nil, rfl⟩

theorem Mode.Closes.quoted (h : Mode.inString.Closes depth taken) :
    Plan.Closes depth ('"' :: taken) := by
  obtain ⟨body, rest, hbody, hrest, rfl⟩ := h
  have hstring : Balanced ('"' :: (body ++ ['"'])) := .quoted hbody .nil
  simpa using hrest.prepend hstring

theorem Mode.Closes.escape (h : Mode.escaped.Closes depth taken) :
    Mode.inString.Closes depth ('\\' :: taken) := by
  obtain ⟨c, body, rest, hbody, hrest, rfl⟩ := h
  exact ⟨'\\' :: c :: body, rest, .escaped hbody, hrest, rfl⟩

theorem Mode.Closes.character {c : Char} (hquote : c ≠ '"') (hbackslash : c ≠ '\\')
    (h : Mode.inString.Closes depth taken) : Mode.inString.Closes depth (c :: taken) := by
  obtain ⟨body, rest, hbody, hrest, rfl⟩ := h
  exact ⟨c :: body, rest, .plain hquote hbackslash hbody, hrest, rfl⟩

theorem Mode.Closes.skip (c : Char) (h : Mode.inString.Closes depth taken) :
    Mode.escaped.Closes depth (c :: taken) := by
  obtain ⟨body, rest, hbody, hrest, rfl⟩ := h
  exact ⟨c, body, rest, hbody, hrest, rfl⟩

/-- A scan that takes a character and goes on closes what is open, if its rest closes what is open
then. -/
theorem closes_of_map {c : Char} {depth' : Nat} {mode' : Mode}
    (h : (takeBalanced? depth' mode' cs).map (c :: ·) = some taken)
    (hrest : ∀ {taken}, takeBalanced? depth' mode' cs = some taken →
      taken <+: cs ∧ mode'.Closes depth' taken)
    (hclose : ∀ {taken}, mode'.Closes depth' taken → mode.Closes depth (c :: taken)) :
    taken <+: c :: cs ∧ mode.Closes depth taken := by
  obtain ⟨rest, htaken, rfl⟩ := Option.map_eq_some_iff.1 h
  obtain ⟨hstart, hcloses⟩ := hrest htaken
  exact ⟨List.cons_prefix_cons.2 ⟨rfl, hstart⟩, hclose hcloses⟩

/-- What a scan takes starts the text and closes what is open. -/
theorem takeBalanced?_sound (h : takeBalanced? depth mode cs = some taken) :
    taken <+: cs ∧ mode.Closes depth taken := by
  induction cs generalizing depth mode taken with
  | nil => cases mode <;> cases depth <;> cases h
  | cons c cs ih =>
    cases mode with
    | escaped =>
      rw [takeBalanced?] at h
      exact closes_of_map h ih (Mode.Closes.skip c)
    | inString =>
      rw [takeBalanced?] at h
      by_cases hbackslash : c = '\\'
      · subst hbackslash
        exact closes_of_map h ih Mode.Closes.escape
      by_cases hquote : c = '"'
      · subst hquote
        exact closes_of_map h ih fun hrest => ⟨[], _, .nil, hrest, rfl⟩
      simp only [hbackslash, hquote, ↓reduceIte] at h
      exact closes_of_map h ih (Mode.Closes.character hquote hbackslash)
    | outside =>
      by_cases hmark : IsMark c
      · rcases hmark with rfl | rfl | rfl
        · rw [takeBalanced?_quote] at h
          exact closes_of_map h ih Mode.Closes.quoted
        · rw [takeBalanced?_open] at h
          exact closes_of_map h ih Closes.opened
        · cases depth with
          | zero =>
            rw [takeBalanced?_close_zero] at h
            cases h
            exact ⟨⟨cs, rfl⟩, Closes.last⟩
          | succ depth =>
            rw [takeBalanced?_close] at h
            exact closes_of_map h ih Closes.closed
      · rw [takeBalanced?_plain depth cs hmark] at h
        exact closes_of_map h ih (Closes.plain hmark)

/-! ## The first span -/

/-- The span from the first opening brace of the text to the brace that closes it. -/
def IsFirstSpan (text span : List Char) : Prop :=
  ∃ before inner after, '{' ∉ before ∧ Balanced inner ∧
    text = before ++ '{' :: (inner ++ '}' :: after) ∧ span = '{' :: (inner ++ ['}'])

/-- A span is found exactly if it is the first. -/
theorem balancedObject?_eq_some_iff : balancedObject? text = some span ↔ IsFirstSpan text span := by
  constructor
  · intro h
    have hsplit : text.takeWhile (· != '{') ++ text.dropWhile (· != '{') = text :=
      List.takeWhile_append_dropWhile
    have hbefore : '{' ∉ text.takeWhile (· != '{') := by
      intro hmem
      have hne := List.all_eq_true.1 List.all_takeWhile _ hmem
      simp at hne
    unfold balancedObject? at h
    cases hrest : text.dropWhile (· != '{') with
    | nil =>
      rw [hrest] at h
      cases h
    | cons c cs =>
      have hc : c = '{' := by
        have hhead := List.head?_dropWhile_not (· != '{') text
        rw [hrest] at hhead
        simpa using hhead
      subst hc
      rw [hrest] at h hsplit
      obtain ⟨taken, htaken, rfl⟩ := Option.map_eq_some_iff.1 h
      obtain ⟨⟨after, rfl⟩, inner, hinner, rfl⟩ := takeBalanced?_sound htaken
      rw [List.append_assoc, List.singleton_append] at hsplit
      exact ⟨_, inner, after, hbefore, hinner, hsplit.symm, rfl⟩
  · rintro ⟨before, inner, after, hbefore, hinner, rfl, rfl⟩
    exact balancedObject?_eq hbefore hinner after

theorem balancedObject?_eq_none_iff : balancedObject? text = none ↔ ∀ span, ¬ IsFirstSpan text span := by
  simp only [Option.eq_none_iff_forall_not_mem, Option.mem_def, balancedObject?_eq_some_iff]

end QueryPlans.Plan
