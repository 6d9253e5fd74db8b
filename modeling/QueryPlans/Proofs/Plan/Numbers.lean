import QueryPlans.Proofs.Json.Scalars
import QueryPlans.Proofs.Number.Overflow
import QueryPlans.Proofs.Plan.Shorthand

/-!
# Numbers of a plan

The new values of an update and the rows of an insert are rendered as SQL literals.  A number is rendered
as a numeric constant if it is an integer, or a decimal that is not too large for a double; an integer
keeps its value, however many digits it has.  The other numbers, `NaN` and the infinities among them, are
rendered as words.

* `Json.NumberParts.size` — the size of a number as it is written.
* `NumberLiteral` — a number that is written in a text, and its literal.
* `Plan.RendersNumbers` — the numbers of an object and their literals in a plan.

Principal results: `readUpdate_obj`, `readRows_arr` — the values and the rows of a plan are the literals of
those that were read, in their order; `ScalarText.numberLiteral` — the literal of a number;
`numbers_are_rendered` — the numbers of a plan in a reply.
-/

namespace QueryPlans

variable {α β : Type} {text cs : List Char} {v : Json} {s : String}

/-! ## Literals of a plan -/

namespace Plan

theorem literalField_eq_ok {field f : String × Json} (h : literalField field = .ok f) :
    ∃ s, sqlLiteral? field.2 = .ok s ∧ f = (field.1, .str s) := by
  unfold literalField at h
  cases hs : sqlLiteral? field.2 with
  | error e =>
    rw [hs] at h
    cases h
  | ok s =>
    rw [hs] at h
    cases h
    exact ⟨s, rfl, rfl⟩

/-- What is read from a normal form has one. -/
theorem exists_of_refusing_map {x : Except LiteralError β} {form : β → Json} {read : Reader α} {a : α}
    (h : refusing (x.map form) read = .valid a) : ∃ b, x = .ok b ∧ read (form b) = .valid a := by
  cases x with
  | error e => cases h
  | ok b => exact ⟨b, rfl, h⟩

/-- The new values of an update are the literals of the values of an object. -/
theorem readUpdate_obj {values : Json.Fields} {pairs : List (String × String)}
    (h : readUpdate (.obj values) = .valid pairs) :
    List.Forall₂ (fun field pair => field.1 = pair.1 ∧ sqlLiteral? field.2 = .ok pair.2) values pairs := by
  obtain ⟨fields, hfields, hread⟩ := exists_of_refusing_map h
  rw [literalFields_eq_mapM] at hfields
  have hliterals := mapM_eq_ok_iff.1 hfields
  clear h hfields
  induction hliterals generalizing pairs with
  | nil =>
    cases hread
    exact .nil
  | cons hfield _ ih =>
    obtain ⟨s, hs, rfl⟩ := literalField_eq_ok hfield
    obtain ⟨g, more, hg, hmore, rfl⟩ := Checked.seq_eq_valid_iff.1 hread
    cases hg
    exact .cons ⟨rfl, hs⟩ (ih hmore)

theorem literalRow_texts {item w : Json} {row : List String} (h : literalRow item = .ok w)
    (hread : Reader.listOf Reader.text w = .valid row) :
    ∃ vs, item = .arr vs ∧ List.Forall₂ (fun v s => sqlLiteral? v = .ok s) vs row := by
  cases item with
  | arr vs =>
    refine ⟨vs, rfl, ?_⟩
    change (sqlLiterals? vs).map (fun ss => .arr (ss.map .str)) = .ok w at h
    cases hvs : sqlLiterals? vs with
    | error e =>
      rw [hvs] at h
      cases h
    | ok ss =>
      rw [hvs] at h
      cases h
      obtain rfl := Checked.valid.inj ((all_texts ss).symm.trans hread)
      rw [sqlLiterals?_eq_mapM] at hvs
      exact mapM_eq_ok_iff.1 hvs
  | _ =>
    cases h
    cases hread

/-- The rows of an insert are the literals of the rows of a list. -/
theorem readRows_arr {items : List Json} {rows : List (List String)}
    (h : readRows (.arr items) = .valid rows) :
    List.Forall₂ (fun item row => ∃ vs, item = .arr vs ∧
      List.Forall₂ (fun v s => sqlLiteral? v = .ok s) vs row) (asRows items) rows := by
  obtain ⟨ws, hitems, hread⟩ := exists_of_refusing_map h
  have hrows := Checked.all_eq_valid_iff.1 hread
  rw [literalRows_eq_mapM] at hitems
  have hliterals := mapM_eq_ok_iff.1 hitems
  clear h hitems hread
  generalize asRows items = rowsRead at hliterals ⊢
  induction hliterals generalizing rows with
  | nil =>
    cases hrows
    exact .nil
  | cons hitem _ ih =>
    cases hrows with
    | cons hrow hmore => exact .cons (literalRow_texts hitem hrow) (ih hmore)

end Plan

/-! ## Literals of numbers -/

/-- The size of the number as it is written. -/
def Json.NumberParts.size (p : Json.NumberParts) : ℚ := p.digits * 10 ^ p.scale

/-- The value is a number. -/
def Json.IsNumber : Json → Prop
  | .int _ => True
  | .float _ => True
  | _ => False

/-- A literal for a number. It is a numeric constant if the number is an integer, or small enough for a
double; an integer has the same value in the literal. -/
structure RendersParts (p : Json.NumberParts) (s : String) : Prop where
  constant_iff : NumericConstant s.toList ↔ p.IsInteger ∨ p.size < Double.overflowBound
  same_value : p.IsInteger → ∃ n, IntegerText p.text n ∧ IntegerText s.toList n

/-- A number that is written in the text, and its literal. A word for a number is no numeric constant. -/
inductive NumberLiteral (text : List Char) : Json → String → Prop
  | number {v : Json} {s : String} (p : Json.NumberParts) (hp : p.text <:+: text) (hv : p.number = .ok v)
      (hs : RendersParts p s) : NumberLiteral text v s
  | word {cs : List Char} {x : Double} {s : String} (hcs : cs <:+: text)
      (hx : (cs, .float x) ∈ Json.words) (hs : ¬ NumericConstant s.toList) :
      NumberLiteral text (.float x) s

namespace Json

theorem NumberParts.integerText {p : NumberParts} (h : p.IsInteger) : IntegerText p.text p.integer := by
  have htext : p.text = p.sign ++ p.whole := by simp [NumberParts.text, h.1, h.2]
  rw [htext]
  exact .mk p.sign_eq p.wholePart.digits

theorem NumberParts.renders {p : NumberParts} (h : p.number = .ok v) (hs : sqlLiteral? v = .ok s) :
    RendersParts p s := by
  rcases p.number_eq_ok h with ⟨hinteger, -, rfl⟩ | ⟨hdecimal, rfl⟩
  · cases hs
    have htext := text_integer p.integer
    exact ⟨iff_of_true htext.numeric (.inl hinteger), fun _ => ⟨_, integerText hinteger, htext⟩⟩
  · cases hs
    refine ⟨?_, fun hinteger => absurd hinteger hdecimal⟩
    rw [Double.write_numeric_iff, or_iff_right hdecimal]
    exact Double.ofDecimal_isFinite_iff _ _ _

/-- The literal of a number in the text is a numeric constant, unless it is too large, or a word. -/
theorem ScalarText.numberLiteral (hcs : cs <:+: text) (h : ScalarText cs v) (hnumber : v.IsNumber)
    (hs : sqlLiteral? v = .ok s) : NumberLiteral text v s := by
  cases h with
  | word hmem =>
    have hword (x : Double) (hx : v = .float x) (hinfinite : ¬ x.IsFinite) : NumberLiteral text v s := by
      subst hx
      cases hs
      exact .word hcs hmem fun hconstant => hinfinite ((Double.write_numeric_iff x).1 hconstant)
    rcases value_of_mem_words hmem with rfl | ⟨b, rfl⟩ | hnan | ⟨negative, hinfinity⟩
    · exact absurd hnumber id
    · exact absurd hnumber id
    · exact hword _ hnan Double.not_isFinite_nan
    · exact hword _ hinfinity (Double.not_isFinite_infinity negative)
  | number p hp => exact .number p hcs hp (NumberParts.renders hp hs)
  | string => exact absurd hnumber id

/-! ## Numbers inside of a value -/

/-- The scalar is written in the text. -/
def WrittenIn (text : List Char) (v : Json) : Prop := ∃ cs, cs <:+: text ∧ ScalarText cs v

variable {items : List Json} {fields : Fields}

theorem Every.of_arr (h : (Json.arr items).Every (WrittenIn text)) :
    ∀ v ∈ items, v.Every (WrittenIn text) := by
  cases h with
  | scalar h =>
    obtain ⟨cs, -, hscalar⟩ := h
    exact absurd rfl (hscalar.ne_container.1 items)
  | arr h => exact h

theorem Every.of_obj (h : (Json.obj fields).Every (WrittenIn text)) :
    ∀ f ∈ fields, f.2.Every (WrittenIn text) := by
  cases h with
  | scalar h =>
    obtain ⟨cs, -, hscalar⟩ := h
    exact absurd rfl (hscalar.ne_container.2 fields)
  | obj h => exact h

theorem Every.numberLiteral (h : v.Every (WrittenIn text)) (hnumber : v.IsNumber)
    (hs : sqlLiteral? v = .ok s) : NumberLiteral text v s := by
  cases h with
  | scalar h =>
    obtain ⟨cs, hcs, hscalar⟩ := h
    exact hscalar.numberLiteral hcs hnumber hs
  | arr => exact absurd hnumber id
  | obj => exact absurd hnumber id

end Json

/-! ## Numbers of a plan -/

namespace Plan

variable {p : Plan} {fields : Json.Fields}

/-- The numbers of an object that is written in the text, and their literals in the plan. The values of an
update are in their order, under the same columns; the rows of an insert and the values of a row are in
theirs, a flat list being one row. -/
structure RendersNumbers (p : Plan) (text : List Char) (fields : Json.Fields) : Prop where
  update : ∀ values, fields.get? "update_set" = some (.obj values) →
    List.Forall₂ (fun field pair => field.1 = pair.1 ∧
      (field.2.IsNumber → NumberLiteral text field.2 pair.2)) values p.updateSet
  insert : ∀ items, fields.get? "insert_values" = some (.arr items) →
    List.Forall₂ (fun item row => ∃ vs, item = .arr vs ∧
      List.Forall₂ (fun v s => v.IsNumber → NumberLiteral text v s) vs row) (asRows items) p.insertValues

theorem every_asRows {items : List Json} (h : (Json.arr items).Every (Json.WrittenIn text)) :
    ∀ item ∈ asRows items, item.Every (Json.WrittenIn text) := by
  unfold asRows
  split
  · intro item hitem
    rw [List.mem_singleton.1 hitem]
    exact h
  · exact h.of_arr

theorem ReadFrom.rendersNumbers (h : p.ReadFrom fields)
    (hwritten : (Json.obj fields).Every (Json.WrittenIn text)) : p.RendersNumbers text fields := by
  have hfield {name : String} {v : Json} (hv : fields.get? name = some v) :
      v.Every (Json.WrittenIn text) := hwritten.of_obj _ (Json.Fields.mem_of_get? hv)
  constructor
  · intro values hvalues
    have hread := h.updateSet
    unfold Reader.optional at hread
    rw [hvalues] at hread
    have hliterals := readUpdate_obj (Checked.under_eq_valid_iff.1 hread)
    have hall := (List.forall₂_and_left values p.updateSet).2 ⟨(hfield hvalues).of_obj, hliterals⟩
    refine hall.imp ?_
    rintro field pair ⟨hevery, hname, hs⟩
    exact ⟨hname, fun hnumber => hevery.numberLiteral hnumber hs⟩
  · intro items hitems
    have hread := h.insertValues
    unfold Reader.optional at hread
    rw [hitems] at hread
    have hliterals := readRows_arr (Checked.under_eq_valid_iff.1 hread)
    have hall := (List.forall₂_and_left _ _).2 ⟨every_asRows (hfield hitems), hliterals⟩
    refine hall.imp ?_
    rintro item row ⟨hevery, vs, rfl, hvs⟩
    refine ⟨vs, rfl, ((List.forall₂_and_left vs row).2 ⟨hevery.of_arr, hvs⟩).imp ?_⟩
    rintro v s ⟨hv, hs⟩ hnumber
    exact hv.numberLiteral hnumber hs

/-- **Numbers become numeric constants, unless they are too large.** For a plan in a reply, every number
among the new values of an update and in the rows of an insert was written in the reply. If it was written
as an integer, its literal is an integer of the same value. If it was written with a fraction or an
exponent, its literal is a numeric constant exactly if its size is below half-way between the greatest
double and the next power of two. If it was written as `NaN` or as an infinity, its literal is none. -/
theorem numbers_are_rendered {reply : String} {host : Host} (h : read reply host = .ok p) :
    ∃ fields, Json.decode (objectText reply) host.depths.read = .ok (.obj fields) ∧
      p.RendersNumbers (objectText reply).toList fields := by
  obtain ⟨fields, hdecode, hread⟩ := exists_decoded_of_read h
  have hwritten : (Json.obj fields).Every (Json.WrittenIn (objectText reply).toList) :=
    Json.decode_every (fun hcs hscalar => ⟨_, hcs, hscalar⟩) hdecode
  exact ⟨fields, hdecode, hread.rendersNumbers hwritten⟩

theorem exists_of_read_map {reply : String} {f : Plan → α} {a : α}
    (h : (read reply).toOption.map f = some a) : ∃ p, read reply = .ok p ∧ f p = a := by
  cases hread : read reply with
  | error e =>
    rw [hread] at h
    cases h
  | ok p =>
    rw [hread] at h
    exact ⟨p, rfl, Option.some.inj h⟩

/-- A reply with an update to an integer and to a decimal. -/
def priceReply : String :=
  "\x7b\"tables\": [\"t\"], \"action\": \"update\", \"update_set\": \x7b\"n\": -12, \"price\": 2.5E-1\x7d\x7d"

theorem price_is_rendered :
    ∃ p, read priceReply = .ok p ∧ p.updateSet = [("n", "-12"), ("price", "0.25")] ∧
      ∃ fields, Json.decode (objectText priceReply) ({} : Host).depths.read = .ok (.obj fields) ∧
        p.RendersNumbers (objectText priceReply).toList fields := by
  have hvalues : (read priceReply).toOption.map Plan.updateSet =
      some [("n", "-12"), ("price", "0.25")] := by
    decide +kernel
  obtain ⟨p, hread, hset⟩ := exists_of_read_map hvalues
  exact ⟨p, hread, hset, numbers_are_rendered hread⟩

/-- A reply with an update to a number that is too large for a double. -/
def hugeReply : String :=
  "\x7b\"tables\":[\"t\"],\"action\":\"update\",\"update_set\":\x7b\"a\":1e400\x7d\x7d"

/-- **A number that becomes a word.** The reply is accepted, and the number in it is rendered as a text
that is no numeric constant. -/
theorem huge_number_becomes_word :
    Json.NumberText "1e400".toList ∧
      ∃ p, read hugeReply = .ok p ∧ p.updateSet = [("a", "inf")] ∧ ¬ NumericConstant "inf".toList := by
  have hvalues : (read hugeReply).toOption.map Plan.updateSet = some [("a", "inf")] := by
    decide +kernel
  obtain ⟨p, hread, hset⟩ := exists_of_read_map hvalues
  have hword := (Double.not_numeric_of_letter 'i' ['n', 'f'] rfl (by decide)).1
  have hnumber : Json.NumberText ([] ++ ['1'] ++ [] ++ ('e' :: ([] ++ ['4', '0', '0']))) := by
    refine .mk (.inl rfl) (.inr ⟨digits_toDigits 1, by decide⟩) (.inl rfl) (.inr ?_)
    exact ⟨'e', [], ['4', '0', '0'], rfl, .inl rfl, .inl rfl, digits_toDigits 400⟩
  exact ⟨hnumber, p, hread, hset, hword⟩

end Plan

end QueryPlans
