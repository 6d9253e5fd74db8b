import Mathlib.Logic.Relation
import QueryPlans.Proofs.Plan.Readers

/-!
# Short and long forms of an object

A plan may be written shortly: a text for a list of one, a flat list for one row, a number for its SQL
literal.  Each field is brought to its long form before it is read, so that an object in short forms and
the same object in long forms are one plan.

* `Plan.Shorthand` — a value of a field in a short form, and the same value with one part written out.
* `Plan.Expands` — an object, and the same object with one such value; any number of them follow one
  another.

Principal results: `readRows_alike` — the items of rows that are accepted are all lists, or none is;
`Shorthand.read_iff` — a value is read as its long form is; `shorthand_is_interchangeable` — so are objects,
however many of their values are written out.
-/

namespace QueryPlans

variable {α β ε : Type}

/-- Where one item is replaced by another with the same result, the results of a list are the same. -/
theorem mapM_replace {f : β → Except ε α} {b b' : β} (h : f b = f b') (before after : List β) :
    (before ++ b :: after).mapM f = (before ++ b' :: after).mapM f := by
  rw [List.mapM_append, List.mapM_append, List.mapM_cons, List.mapM_cons, h]

/-- The results of a list are those of its items. -/
theorem mapM_eq_ok_iff {f : β → Except ε α} {bs : List β} {as : List α} :
    bs.mapM f = .ok as ↔ List.Forall₂ (fun b a => f b = .ok a) bs as := by
  induction bs generalizing as with
  | nil =>
    rw [List.mapM_nil, List.forall₂_nil_left_iff]
    exact ⟨fun h => (Except.ok.inj h).symm, fun h => congrArg Except.ok h.symm⟩
  | cons b bs ih =>
    rw [List.mapM_cons]
    constructor
    · intro h
      cases hb : f b with
      | error e =>
        rw [hb] at h
        cases h
      | ok a =>
        cases hbs : bs.mapM f with
        | error e =>
          rw [hb, hbs] at h
          cases h
        | ok rest =>
          rw [hb, hbs] at h
          cases h
          exact .cons hb (ih.1 hbs)
    · intro h
      cases h with
      | cons hb hbs =>
        rw [hb, ih.2 hbs]
        rfl

/-- Every item of a list that is accepted is accepted. -/
theorem Checked.exists_of_all {check : β → Checked α} {bs : List β} {as : List α}
    (h : Checked.all check bs = valid as) {b : β} (hb : b ∈ bs) : ∃ a, check b = valid a := by
  have hitems := all_eq_valid_iff.1 h
  clear h
  induction hitems with
  | nil => exact absurd hb List.not_mem_nil
  | cons ha _ ih =>
    rcases List.mem_cons.1 hb with rfl | hlater
    · exact ⟨_, ha⟩
    · exact ih hlater

namespace Plan

variable {v w : Json} {s : String} {fields fields' : Json.Fields}

/-! ## Literals -/

theorem sqlLiterals?_eq_mapM (vs : List Json) : sqlLiterals? vs = vs.mapM sqlLiteral? := by
  induction vs with
  | nil => rfl
  | cons v vs ih =>
    rw [sqlLiterals?, List.mapM_cons, ih]

/-- The field with its value as an SQL literal. -/
def literalField (field : String × Json) : Except LiteralError (String × Json) := do
  let s ← sqlLiteral? field.2
  return (field.1, .str s)

theorem literalFields_eq_mapM (fields : Json.Fields) :
    literalFields fields = fields.mapM literalField := by
  induction fields with
  | nil => rfl
  | cons field fields ih =>
    obtain ⟨name, v⟩ := field
    rw [literalFields, List.mapM_cons, ih, literalField]
    cases sqlLiteral? v <;> rfl

theorem literalRows_eq_mapM (items : List Json) : literalRows items = items.mapM literalRow := by
  induction items with
  | nil => rfl
  | cons v items ih =>
    rw [literalRows, List.mapM_cons, ih]

/-- A scalar has the literal that its text has. -/
theorem sqlLiteral?_str (h : sqlLiteral? v = .ok s) : sqlLiteral? v = sqlLiteral? (.str s) := h

theorem isArr_of_sqlLiteral? (h : sqlLiteral? v = .ok s) : v.isArr = false := by
  cases v with
  | arr items => cases h
  | _ => rfl

/-! ## Rows -/

/-- A flat list is one row. -/
theorem asRows_of_flat {items : List Json} (hne : items ≠ []) (hflat : ∀ v ∈ items, v.isArr = false) :
    asRows items = [.arr items] := by
  have hany : items.any Json.isArr = false := by
    rw [List.any_eq_false]
    intro v hv
    simp [hflat v hv]
  unfold asRows
  simp [hne, hany]

/-- A list with a list in it has rows for its items. -/
theorem asRows_of_mem {items : List Json} (hv : v ∈ items) (harr : v.isArr = true) :
    asRows items = items := by
  have hany : items.any Json.isArr = true := List.any_eq_true.2 ⟨v, hv, harr⟩
  unfold asRows
  simp [hany]

/-- What is no row stays among the rows as it is. -/
theorem mem_literalRows {items rows : List Json} (h : literalRows items = .ok rows) (hv : v ∈ items)
    (harr : v.isArr = false) : v ∈ rows := by
  have hsame : literalRow v = .ok v := by
    cases v with
    | arr items => cases harr
    | _ => rfl
  rw [literalRows_eq_mapM] at h
  have hrows := mapM_eq_ok_iff.1 h
  clear h
  induction hrows with
  | nil => exact absurd hv List.not_mem_nil
  | @cons item row _ _ hrow _ ih =>
    rcases List.mem_cons.1 hv with rfl | hlater
    · obtain rfl : v = row := Except.ok.inj (hsame.symm.trans hrow)
      exact List.mem_cons_self
    · exact List.mem_cons_of_mem _ (ih hlater)

/-- The items of rows that are accepted are all lists, or none is: then they are one row. -/
theorem readRows_alike {items : List Json} {rows : List (List String)}
    (h : readRows (.arr items) = .valid rows) (hv : v ∈ items) (harr : v.isArr = false) :
    ∀ w ∈ items, w.isArr = false := by
  intro w hw
  rw [← Bool.not_eq_true]
  intro hlist
  unfold readRows normaliseRows at h
  simp only [asRows_of_mem hw hlist] at h
  cases hrows : literalRows items with
  | error e =>
    rw [hrows] at h
    cases h
  | ok more =>
    rw [hrows] at h
    obtain ⟨row, hrow⟩ := Checked.exists_of_all h (mem_literalRows hrows hv harr)
    cases v with
    | arr items => cases harr
    | _ => cases hrow

/-- Where the items of a list are one row, a scalar among them may be written as its literal. -/
theorem readRows_of_scalar {before after : List Json} {rows : List (List String)}
    (hv : v.isArr = false) (hw : w.isArr = false) (h : sqlLiteral? v = sqlLiteral? w)
    (hread : readRows (.arr (before ++ v :: after)) = .valid rows) :
    readRows (.arr (before ++ w :: after)) = .valid rows := by
  have hflat := readRows_alike hread (List.mem_append_right before List.mem_cons_self) hv
  have hflat' : ∀ u ∈ before ++ w :: after, u.isArr = false := by
    intro u hu
    rcases List.mem_append.1 hu with hbefore | hrest
    · exact hflat u (List.mem_append_left _ hbefore)
    rcases List.mem_cons.1 hrest with rfl | hafter
    · exact hw
    · exact hflat u (List.mem_append_right _ (List.mem_cons_of_mem _ hafter))
  have hnormal : normaliseRows (.arr (before ++ w :: after)) =
      normaliseRows (.arr (before ++ v :: after)) := by
    change (literalRows (asRows _)).map Json.arr = (literalRows (asRows _)).map Json.arr
    rw [asRows_of_flat (by simp) hflat, asRows_of_flat (by simp) hflat']
    simp only [literalRows, literalRow, sqlLiterals?_eq_mapM, mapM_replace h before after]
  rw [readRows, hnormal]
  exact hread

/-! ## Values -/

/-- The field holds a list of texts, and none if it is left out. -/
def Field.IsTexts (f : Field) : Prop :=
  f = .tables ∨ f = .joins ∨ f = .filters ∨ f = .insertColumns

/-- A value of a field, and the same value with one part of it in its long form. A text of a list stands
for the list, a flat list for one row, and a number, a truth value or null for its SQL literal. -/
inductive Shorthand : Field → Json → Json → Prop
  | text {f : Field} {s : String} (hf : f.IsTexts) (hs : Text.strip s ≠ "") :
      Shorthand f (.str s) (.arr [.str s])
  | blankText {f : Field} {s : String} (hf : f.IsTexts) (hs : Text.strip s = "") :
      Shorthand f (.str s) (.arr [])
  | column {s : String} (hs : s ≠ "") : Shorthand .select (.str s) (.arr [.str s])
  | emptyColumn : Shorthand .select (.str "") (.arr [.str "*"])
  | noColumns : Shorthand .select (.arr []) (.arr [.str "*"])
  | flatRow {items : List Json} (hne : items ≠ []) (hflat : ∀ v ∈ items, v.isArr = false) :
      Shorthand .insertValues (.arr items) (.arr [.arr items])
  | newValue {v : Json} {s name : String} {before after : Json.Fields} (hv : sqlLiteral? v = .ok s) :
      Shorthand .updateSet (.obj (before ++ (name, v) :: after))
        (.obj (before ++ (name, .str s) :: after))
  | cell {v : Json} {s : String} {rows more before after : List Json} (hv : sqlLiteral? v = .ok s) :
      Shorthand .insertValues (.arr (rows ++ .arr (before ++ v :: after) :: more))
        (.arr (rows ++ .arr (before ++ .str s :: after) :: more))
  | flatCell {v : Json} {s : String} {before after : List Json} (hv : sqlLiteral? v = .ok s) :
      Shorthand .insertValues (.arr (before ++ v :: after)) (.arr (before ++ .str s :: after))

theorem Field.IsTexts.reader_eq {f : Field} (hf : f.IsTexts) {v w : Json}
    (h : normaliseTexts v = normaliseTexts w) : f.reader v = f.reader w := by
  have hread : readTexts v = readTexts w := by
    unfold readTexts
    rw [h]
  rcases hf with rfl | rfl | rfl | rfl <;> exact hread

/-- A value is read as its long form is. -/
theorem Shorthand.read_iff {f : Field} (h : Shorthand f v w) (c : f.Content) :
    f.reader v = .valid c ↔ f.reader w = .valid c := by
  cases h with
  | @text f s hf hs =>
    have hnormal : normaliseTexts (.str s) = normaliseTexts (.arr [.str s]) := if_neg hs
    rw [hf.reader_eq hnormal]
  | @blankText f s hf hs =>
    have hnormal : normaliseTexts (.str s) = normaliseTexts (.arr []) := if_pos hs
    rw [hf.reader_eq hnormal]
  | @column s hs =>
    have hnormal : normaliseSelect (.str s) = .arr [.str s] := if_neg hs
    change readSelect _ = _ ↔ readSelect _ = _
    unfold readSelect
    rw [hnormal]
    rfl
  | emptyColumn => exact Iff.rfl
  | noColumns => exact Iff.rfl
  | @flatRow items hne hflat =>
    have hnormal : normaliseRows (.arr items) = normaliseRows (.arr [.arr items]) := by
      change (literalRows (asRows _)).map Json.arr = (literalRows (asRows _)).map Json.arr
      rw [asRows_of_flat hne hflat, asRows_of_mem List.mem_cons_self rfl]
    change readRows _ = _ ↔ readRows _ = _
    unfold readRows
    rw [hnormal]
  | @newValue v s name before after hv =>
    have hfield : literalField (name, v) = literalField (name, .str s) := by
      unfold literalField
      simp only [sqlLiteral?_str hv]
    change readUpdate _ = _ ↔ readUpdate _ = _
    unfold readUpdate normaliseUpdate
    simp only [literalFields_eq_mapM, mapM_replace hfield before after]
  | @cell v s rows more before after hv =>
    have hrow : literalRow (.arr (before ++ v :: after)) =
        literalRow (.arr (before ++ .str s :: after)) := by
      simp only [literalRow, sqlLiterals?_eq_mapM, mapM_replace (sqlLiteral?_str hv) before after]
    have hnormal : normaliseRows (.arr (rows ++ .arr (before ++ v :: after) :: more)) =
        normaliseRows (.arr (rows ++ .arr (before ++ .str s :: after) :: more)) := by
      change (literalRows (asRows _)).map Json.arr = (literalRows (asRows _)).map Json.arr
      rw [asRows_of_mem (List.mem_append_right rows List.mem_cons_self) rfl,
        asRows_of_mem (List.mem_append_right rows List.mem_cons_self) rfl]
      simp only [literalRows_eq_mapM, mapM_replace hrow rows more]
    change readRows _ = _ ↔ readRows _ = _
    unfold readRows
    rw [hnormal]
  | @flatCell v s before after hv =>
    have harr := isArr_of_sqlLiteral? hv
    have hsame := sqlLiteral?_str hv
    exact ⟨readRows_of_scalar harr rfl hsame, readRows_of_scalar rfl harr hsame.symm⟩

/-! ## Objects -/

/-- An object, and the same object with one part of one value in its long form. -/
inductive Expands : Json.Fields → Json.Fields → Prop
  | mk {f : Field} {v w : Json} (before after : Json.Fields) (h : Shorthand f v w) :
      Expands (before ++ (f.name, v) :: after) (before ++ (f.name, w) :: after)

/-- A field of an object in which one value was replaced: it has the one value and the other, or it is
the same in both. -/
theorem get?_replace (before after : Json.Fields) (name other : String) (v w : Json) :
    (name = other ∧ Json.Fields.get? (before ++ (name, v) :: after) other = some v ∧
        Json.Fields.get? (before ++ (name, w) :: after) other = some w) ∨
      Json.Fields.get? (before ++ (name, v) :: after) other =
        Json.Fields.get? (before ++ (name, w) :: after) other := by
  induction before with
  | nil =>
    by_cases h : name = other
    · simp [Json.Fields.get?, h]
    · simp [Json.Fields.get?, h]
  | cons field before ih =>
    by_cases h : field.1 = other
    · simp [Json.Fields.get?, h]
    · simpa [Json.Fields.get?, h] using ih

theorem Expands.readAlike (h : Expands fields fields') (f : Field) : f.ReadAlike fields fields' := by
  obtain ⟨before, after, hshort⟩ := h
  rename_i g v w
  rcases get?_replace before after g.name f.name v w with ⟨hname, hv, hw⟩ | hsame
  · obtain rfl := Field.name_inj hname
    exact Field.readAlike_of_values hv hw hshort.read_iff
  · exact Field.readAlike_of_get?_eq hsame

/-- The same fields are given. -/
theorem Expands.givenIn_eq (h : Expands fields fields') : givenIn fields = givenIn fields' := by
  obtain ⟨before, after, -⟩ := h
  rename_i g v w
  unfold givenIn
  congr 1
  funext f
  rcases get?_replace before after g.name f.name v w with ⟨-, hv, hw⟩ | hsame
  · rw [hv, hw]
    rfl
  · rw [hsame]

/-- One step to the long form keeps the plan of an object, and one back. -/
theorem Expands.ofFields_iff (h : Expands fields fields') (p : Plan) :
    ofFields fields = .valid p ↔ ofFields fields' = .valid p := by
  rw [ofFields_eq_valid_iff, ofFields_eq_valid_iff, h.givenIn_eq]
  have hread : (∀ f : Field, f.readIn fields = .valid (p.content f)) ↔
      ∀ f : Field, f.readIn fields' = .valid (p.content f) :=
    forall_congr' fun f => h.readAlike f _
  rw [hread]

/-- **Short and long forms are interchangeable.** However many values of an object are written in their
long form, one after the other, the object is accepted when it was, and refused when it was; the plan is the
same in every field, and so are its statement, its count and what is said of it. -/
theorem shorthand_is_interchangeable (h : Relation.ReflTransGen Expands fields fields') :
    (∀ p, ofFields fields = .valid p ↔ ofFields fields' = .valid p) ∧
    ((∃ p, ofFields fields = .valid p) ↔ ∃ p, ofFields fields' = .valid p) ∧
    ∀ p p', ofFields fields = .valid p → ofFields fields' = .valid p' →
      p'.statement = p.statement ∧ p'.countStatement? = p.countStatement? ∧ p'.summary = p.summary := by
  have hsame : ∀ p, ofFields fields = .valid p ↔ ofFields fields' = .valid p := by
    induction h with
    | refl => exact fun _ => Iff.rfl
    | tail _ hstep ih => exact fun p => (ih p).trans (hstep.ofFields_iff p)
  refine ⟨hsame, exists_congr hsame, fun p p' hp hp' => ?_⟩
  obtain rfl : p = p' := Checked.valid.inj (((hsame p).1 hp).symm.trans hp')
  exact ⟨rfl, rfl, rfl⟩

/-- A note in short forms: a text for its table, a blank text for no filters, and a flat row with a number
and a missing value. -/
def shortNote : Json.Fields :=
  [("tables", .str "notes"), ("filters", .str " "), ("action", .str "insert"),
    ("insert_columns", .arr [.str "id", .str "body"]), ("insert_values", .arr [.int 1, .null])]

/-- The same note in long forms. -/
def longNote : Json.Fields :=
  [("tables", .arr [.str "notes"]), ("filters", .arr []), ("action", .str "insert"),
    ("insert_columns", .arr [.str "id", .str "body"]),
    ("insert_values", .arr [.arr [.str "1", .str "NULL"]])]

theorem shortNote_expands : Relation.ReflTransGen Expands shortNote longNote := by
  have htables : Field.IsTexts .tables := .inl rfl
  have hfilters : Field.IsTexts .filters := .inr (.inr (.inl rfl))
  have hword : Text.strip "notes" ≠ "" := by decide +kernel
  have hblank : Text.strip " " = "" := by decide +kernel
  have hflat : ∀ v ∈ [Json.int 1, .null], v.isArr = false := by simp [Json.isArr]
  refine .head (.mk [] _ (.text htables hword)) ?_
  refine .head (.mk [_] _ (.blankText hfilters hblank)) ?_
  refine .head (.mk [_, _, _, _] [] (.flatRow (List.cons_ne_nil _ _) hflat)) ?_
  refine .head (.mk [_, _, _, _] [] (@Shorthand.cell (.int 1) "1" [] [] [] [.null] rfl)) ?_
  exact .single (.mk [_, _, _, _] [] (@Shorthand.cell .null "NULL" [] [] [.str "1"] [] rfl))

/-- The note is one plan in its short forms and in its long ones. -/
theorem shortNote_is_interchangeable :
    Relation.ReflTransGen Expands shortNote longNote ∧
      ∃ p, ofFields shortNote = .valid p ∧ ofFields longNote = .valid p ∧
        p.insertValues = [["1", "NULL"]] := by
  have hrows : (ofFields shortNote).value?.map Plan.insertValues = some [["1", "NULL"]] := by
    decide +kernel
  obtain ⟨p, hp, hvalues⟩ := Option.map_eq_some_iff.1 hrows
  have hread := Checked.eq_valid_of_value? hp
  obtain ⟨hsame, -⟩ := shorthand_is_interchangeable shortNote_expands
  exact ⟨shortNote_expands, p, hread, (hsame p).1 hread, hvalues⟩

end Plan

end QueryPlans
