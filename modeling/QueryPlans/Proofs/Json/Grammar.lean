import QueryPlans.Json.Decode
import QueryPlans.Proofs.Plan.Braces

/-!
# The grammar of JSON texts

* `Json.StringBody`, `Json.NumberText` — what stands between the quotes of a string; a number.
* `Json.Written` — the texts of values, of objects, and of the items and fields inside of them, with
  blanks wherever they may stand.

Principal result: `Written.balanced` — the braces of a JSON text are balanced, whatever its strings
hold.
-/

namespace QueryPlans.Json

/-- Between the quotes of a string: characters from the space on, and escapes. -/
inductive StringBody : List Char → Prop
  | nil : StringBody []
  | plain {c : Char} {cs : List Char} (hquote : c ≠ '"') (hbackslash : c ≠ '\\')
      (hcontrol : 0x20 ≤ c.toNat) (rest : StringBody cs) : StringBody (c :: cs)
  | escape {c : Char} {cs : List Char} (hc : c ∈ ['"', '\\', '/', 'b', 'f', 'n', 'r', 't'])
      (rest : StringBody cs) : StringBody ('\\' :: c :: cs)
  | unicode {a b c d : Char} {cs : List Char} (hex : (hexQuad? a b c d).isSome = true)
      (rest : StringBody cs) : StringBody ('\\' :: 'u' :: a :: b :: c :: d :: cs)

/-- One digit or more. -/
structure Digits (ds : List Char) : Prop where
  ne_nil : ds ≠ []
  isDigit : ∀ c ∈ ds, c.isDigit = true

/-- The integer part of a number: zero, or digits that do not start with it. -/
def WholePart (ds : List Char) : Prop := ds = ['0'] ∨ (Digits ds ∧ ds.head? ≠ some '0')

/-- The fraction of a number, if there is one. -/
def FractionPart (cs : List Char) : Prop := cs = [] ∨ ∃ ds, cs = '.' :: ds ∧ Digits ds

/-- The exponent of a number, if there is one. -/
def ExponentPart (cs : List Char) : Prop :=
  cs = [] ∨ ∃ mark sign ds, cs = mark :: (sign ++ ds) ∧ (mark = 'e' ∨ mark = 'E') ∧
    (sign = [] ∨ sign = ['+'] ∨ sign = ['-']) ∧ Digits ds

/-- The text of a number. -/
inductive NumberText : List Char → Prop
  | mk {sign whole fraction exponent : List Char} (hsign : sign = [] ∨ sign = ['-'])
      (hwhole : WholePart whole) (hfraction : FractionPart fraction)
      (hexponent : ExponentPart exponent) : NumberText (sign ++ whole ++ fraction ++ exponent)

/-- Blanks, or nothing. -/
def Blanks (cs : List Char) : Prop := ∀ c ∈ cs, isBlank c = true

/-- What a part of a JSON text is. -/
inductive Part where
  | value
  | object
  /-- An item of a list, or a field of an object, with the blanks after it. -/
  | item
  | field
  /-- All items of a list, or all fields of an object; at least one. -/
  | items
  | fields
  deriving DecidableEq, Repr

/-- The texts of JSON. -/
inductive Written : Part → List Char → Prop
  | word {cs : List Char} {v : Json} (h : (cs, v) ∈ words) : Written .value cs
  | number {cs : List Char} (h : NumberText cs) : Written .value cs
  | string {body : List Char} (h : StringBody body) : Written .value ('"' :: (body ++ ['"']))
  | emptyList {b : List Char} (hb : Blanks b) : Written .value ('[' :: (b ++ [']']))
  | list {b items : List Char} (hb : Blanks b) (h : Written .items items) :
      Written .value ('[' :: (b ++ items ++ [']']))
  | object {cs : List Char} (h : Written .object cs) : Written .value cs
  | emptyObject {b : List Char} (hb : Blanks b) : Written .object ('{' :: (b ++ ['}']))
  | fields {b fields : List Char} (hb : Blanks b) (h : Written .fields fields) :
      Written .object ('{' :: (b ++ fields ++ ['}']))
  | item {v b : List Char} (hv : Written .value v) (hb : Blanks b) : Written .item (v ++ b)
  | lastItem {cs : List Char} (h : Written .item cs) : Written .items cs
  | moreItems {cs b items : List Char} (h : Written .item cs) (hb : Blanks b)
      (hs : Written .items items) : Written .items (cs ++ ',' :: (b ++ items))
  | field {name b₁ b₂ v b₃ : List Char} (hname : StringBody name) (hb₁ : Blanks b₁)
      (hb₂ : Blanks b₂) (hv : Written .value v) (hb₃ : Blanks b₃) :
      Written .field ('"' :: (name ++ '"' :: (b₁ ++ ':' :: (b₂ ++ v ++ b₃))))
  | lastField {cs : List Char} (h : Written .field cs) : Written .fields cs
  | moreFields {cs b fields : List Char} (h : Written .field cs) (hb : Blanks b)
      (hs : Written .fields fields) : Written .fields (cs ++ ',' :: (b ++ fields))

/-! ## Braces -/

theorem ne_of_hexDigit {c : Char} (h : (Text.hexDigitValue? c).isSome = true) :
    c ≠ '"' ∧ c ≠ '\\' := by
  constructor
  · rintro rfl
    exact absurd h (by decide)
  · rintro rfl
    exact absurd h (by decide)

theorem hexDigits_of_hexQuad {a b c d : Char} (h : (hexQuad? a b c d).isSome = true) :
    (Text.hexDigitValue? a).isSome = true ∧ (Text.hexDigitValue? b).isSome = true ∧
      (Text.hexDigitValue? c).isSome = true ∧ (Text.hexDigitValue? d).isSome = true := by
  unfold hexQuad? at h
  split at h
  · simp [*]
  · cases h

theorem StringBody.quotedBody {cs : List Char} (h : StringBody cs) : Plan.QuotedBody cs := by
  induction h with
  | nil => exact .nil
  | plain hquote hbackslash _ _ ih => exact .plain hquote hbackslash ih
  | escape _ _ ih => exact .escaped ih
  | unicode hex _ ih =>
    obtain ⟨ha, hb, hc, hd⟩ := hexDigits_of_hexQuad hex
    refine .escaped ?_
    exact .plain (ne_of_hexDigit ha).1 (ne_of_hexDigit ha).2
      (.plain (ne_of_hexDigit hb).1 (ne_of_hexDigit hb).2
        (.plain (ne_of_hexDigit hc).1 (ne_of_hexDigit hc).2
          (.plain (ne_of_hexDigit hd).1 (ne_of_hexDigit hd).2 ih)))

theorem Blanks.balanced {cs : List Char} (h : Blanks cs) : Plan.Balanced cs := by
  refine Plan.balanced_of_plain fun c hc hmark => ?_
  have hblank := h c hc
  rcases hmark with rfl | rfl | rfl <;> exact absurd hblank (by decide)

theorem Digits.balanced {ds : List Char} (h : Digits ds) : Plan.Balanced ds := by
  refine Plan.balanced_of_plain fun c hc hmark => ?_
  have hdigit := h.isDigit c hc
  rcases hmark with rfl | rfl | rfl <;> exact absurd hdigit (by decide)

theorem NumberText.balanced {cs : List Char} (h : NumberText cs) : Plan.Balanced cs := by
  obtain ⟨hsign, hwhole, hfraction, hexponent⟩ := h
  refine ((Plan.Balanced.append ?_ ?_).append ?_).append ?_
  · refine Plan.balanced_of_plain ?_
    rcases hsign with rfl | rfl <;> simp [Plan.IsMark]
  · rcases hwhole with rfl | ⟨hdigits, -⟩
    · exact Plan.balanced_of_plain (by simp [Plan.IsMark])
    · exact hdigits.balanced
  · rcases hfraction with rfl | ⟨ds, rfl, hds⟩
    · exact .nil
    · exact .plain (by simp [Plan.IsMark]) hds.balanced
  · rcases hexponent with rfl | ⟨mark, sign, ds, rfl, hmark, hsign, hds⟩
    · exact .nil
    · refine .plain ?_ (Plan.Balanced.append (Plan.balanced_of_plain ?_) hds.balanced)
      · rcases hmark with rfl | rfl <;> simp [Plan.IsMark]
      · rcases hsign with rfl | rfl | rfl <;> simp [Plan.IsMark]

theorem balanced_of_mem_words {cs : List Char} {v : Json} (h : (cs, v) ∈ words) :
    Plan.Balanced cs := by
  refine Plan.balanced_of_plain ?_
  simp only [words, List.mem_cons, Prod.mk.injEq, List.not_mem_nil, or_false] at h
  rcases h with ⟨rfl, -⟩ | ⟨rfl, -⟩ | ⟨rfl, -⟩ | ⟨rfl, -⟩ | ⟨rfl, -⟩ | ⟨rfl, -⟩ <;>
    simp [Plan.IsMark]

/-- The braces of a JSON text are balanced, whatever its strings hold. -/
theorem Written.balanced {part : Part} {cs : List Char} (h : Written part cs) :
    Plan.Balanced cs := by
  have comma : ¬ Plan.IsMark ',' := by simp [Plan.IsMark]
  have colon : ¬ Plan.IsMark ':' := by simp [Plan.IsMark]
  have opening : ¬ Plan.IsMark '[' := by simp [Plan.IsMark]
  have closing : Plan.Balanced [']'] := Plan.balanced_of_plain (by simp [Plan.IsMark])
  induction h with
  | word h => exact balanced_of_mem_words h
  | number h => exact h.balanced
  | string h => exact .quoted h.quotedBody .nil
  | emptyList hb => exact .plain opening (hb.balanced.append closing)
  | list hb _ ih => exact .plain opening ((hb.balanced.append ih).append closing)
  | object _ ih => exact ih
  | emptyObject hb => exact .braces hb.balanced .nil
  | fields hb _ ih => exact .braces (hb.balanced.append ih) .nil
  | item _ hb ih => exact ih.append hb.balanced
  | lastItem _ ih => exact ih
  | moreItems _ hb _ ih ihs => exact ih.append (.plain comma (hb.balanced.append ihs))
  | field hname hb₁ hb₂ _ hb₃ ih =>
    exact .quoted hname.quotedBody
      (hb₁.balanced.append (.plain colon ((hb₂.balanced.append ih).append hb₃.balanced)))
  | lastField _ ih => exact ih
  | moreFields _ hb _ ih ihs => exact ih.append (.plain comma (hb.balanced.append ihs))

/-- The text of an object is its braces around balanced text. -/
theorem Written.braces {cs : List Char} (h : Written .object cs) :
    ∃ inner, cs = '{' :: (inner ++ ['}']) ∧ Plan.Balanced inner := by
  cases h with
  | emptyObject hb => exact ⟨_, rfl, hb.balanced⟩
  | fields hb h => exact ⟨_, rfl, hb.balanced.append h.balanced⟩

end QueryPlans.Json
