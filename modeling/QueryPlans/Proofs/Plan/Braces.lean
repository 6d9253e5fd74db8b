import QueryPlans.Plan.Extract

/-!
# Balanced braces

* `Plan.IsMark` — the characters that a scan for braces acts on.
* `Plan.QuotedBody` — what may stand between the quotes of a string: a backslash takes the next
  character with it.
* `Plan.Balanced` — what may stand between braces: other characters, whole strings, and balanced text
  between braces.

Principal results: `takeBalanced?_append` — a scan passes over balanced text; `balancedObject?_eq` —
the first brace up to the one that closes it is found, whatever comes after.
-/

namespace QueryPlans.Plan

/-- A brace or a quote. -/
def IsMark (c : Char) : Prop := c = '"' ∨ c = '{' ∨ c = '}'

/-- What may stand between the quotes of a string. -/
inductive QuotedBody : List Char → Prop
  | nil : QuotedBody []
  | plain {c : Char} {cs : List Char} (hquote : c ≠ '"') (hbackslash : c ≠ '\\')
      (rest : QuotedBody cs) : QuotedBody (c :: cs)
  | escaped {c : Char} {cs : List Char} (rest : QuotedBody cs) : QuotedBody ('\\' :: c :: cs)

/-- What may stand between braces. -/
inductive Balanced : List Char → Prop
  | nil : Balanced []
  | plain {c : Char} {cs : List Char} (hc : ¬ IsMark c) (rest : Balanced cs) : Balanced (c :: cs)
  | quoted {body cs : List Char} (hbody : QuotedBody body) (rest : Balanced cs) :
      Balanced ('"' :: (body ++ '"' :: cs))
  | braces {inner cs : List Char} (hinner : Balanced inner) (rest : Balanced cs) :
      Balanced ('{' :: (inner ++ '}' :: cs))

variable {cs ds : List Char}

theorem Balanced.append (hcs : Balanced cs) (hds : Balanced ds) : Balanced (cs ++ ds) := by
  induction hcs with
  | nil => exact hds
  | plain hc _ ih => exact .plain hc ih
  | quoted hbody _ ih => simpa using Balanced.quoted hbody ih
  | braces hinner _ _ ih => simpa using Balanced.braces hinner ih

theorem balanced_of_plain (h : ∀ c ∈ cs, ¬ IsMark c) : Balanced cs := by
  induction cs with
  | nil => exact .nil
  | cons c cs ih => exact .plain (h c (by simp)) (ih fun d hd => h d (by simp [hd]))

/-! ## The scan, character by character -/

section
variable (depth : Nat) (rest : List Char)

theorem takeBalanced?_plain {c : Char} (hc : ¬ IsMark c) :
    takeBalanced? depth .outside (c :: rest) =
      (takeBalanced? depth .outside rest).map (c :: ·) := by
  unfold IsMark at hc
  simp only [not_or] at hc
  cases depth <;> simp [takeBalanced?, hc]

theorem takeBalanced?_quote :
    takeBalanced? depth .outside ('"' :: rest) =
      (takeBalanced? depth .inString rest).map ('"' :: ·) := by
  cases depth <;> simp [takeBalanced?]

theorem takeBalanced?_open :
    takeBalanced? depth .outside ('{' :: rest) =
      (takeBalanced? (depth + 1) .outside rest).map ('{' :: ·) := by
  cases depth <;> simp [takeBalanced?]

theorem takeBalanced?_close :
    takeBalanced? (depth + 1) .outside ('}' :: rest) =
      (takeBalanced? depth .outside rest).map ('}' :: ·) := by
  simp [takeBalanced?]

theorem takeBalanced?_close_zero : takeBalanced? 0 .outside ('}' :: rest) = some ['}'] := by
  simp [takeBalanced?]

end

/-! ## Balanced text is passed over -/

theorem takeBalanced?_quoted (h : QuotedBody cs) (depth : Nat) (rest : List Char) :
    takeBalanced? depth .inString (cs ++ '"' :: rest) =
      (takeBalanced? depth .outside rest).map fun taken => cs ++ '"' :: taken := by
  induction h with
  | nil => simp [takeBalanced?]
  | plain hquote hbackslash _ ih =>
    rw [List.cons_append, takeBalanced?]
    simp [hquote, hbackslash, ih, Function.comp_def]
  | escaped _ ih =>
    rw [List.cons_append, List.cons_append, takeBalanced?]
    simp [takeBalanced?, ih, Function.comp_def]

/-- A scan passes over balanced text. -/
theorem takeBalanced?_append (h : Balanced cs) (depth : Nat) (rest : List Char) :
    takeBalanced? depth .outside (cs ++ rest) =
      (takeBalanced? depth .outside rest).map (cs ++ ·) := by
  induction h generalizing depth rest with
  | nil => simp
  | plain hc _ ih =>
    rw [List.cons_append, takeBalanced?_plain _ _ hc, ih]
    simp [Function.comp_def]
  | quoted hbody _ ih =>
    rw [List.cons_append, takeBalanced?_quote, List.append_assoc, List.cons_append,
      takeBalanced?_quoted hbody, ih]
    simp [Function.comp_def]
  | braces _ _ ihInner ihRest =>
    rw [List.cons_append, takeBalanced?_open, List.append_assoc, List.cons_append, ihInner,
      takeBalanced?_close, ihRest]
    simp [Function.comp_def]

theorem takeBalanced?_object (h : Balanced cs) (rest : List Char) :
    takeBalanced? 0 .outside (cs ++ '}' :: rest) = some (cs ++ ['}']) := by
  rw [takeBalanced?_append h, takeBalanced?_close_zero]
  rfl

/-- The first brace up to the one that closes it is found, whatever comes after. -/
theorem balancedObject?_eq {before : List Char} (hbefore : '{' ∉ before) (h : Balanced cs)
    (after : List Char) :
    balancedObject? (before ++ '{' :: (cs ++ '}' :: after)) = some ('{' :: (cs ++ ['}'])) := by
  have hskip : (before ++ '{' :: (cs ++ '}' :: after)).dropWhile (· != '{') =
      '{' :: (cs ++ '}' :: after) := by
    rw [List.dropWhile_append_of_pos]
    · rw [List.dropWhile_cons_of_neg (by simp)]
    · intro c hc
      simp only [bne_iff_ne]
      rintro rfl
      exact hbefore hc
  unfold balancedObject?
  rw [hskip]
  simp [takeBalanced?_object h]

end QueryPlans.Plan
