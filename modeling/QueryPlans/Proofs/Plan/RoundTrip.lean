import Mathlib.Data.List.Forall2
import QueryPlans.Plan.Statement
import QueryPlans.Plan.Summary
import QueryPlans.Proofs.Plan.Fields

/-!
# Plans written out and read again

A plan that was read is in normal form: written out with all its fields, it is read as the same plan.

* `Plan.value` — the value of a field; `Plan.toFields` — the object with all of them.
* `Action.IsSupported` — the action has a statement.

Principal results: `ofFields_of_readFrom` — a plan whose fields are all read is read as a whole;
`ReadFrom.select_ne_nil`, `ReadFrom.action_eq` — what the reader of a field makes sure of;
`normal_form_is_stable` — a plan that was read is read again from its own fields.
-/

namespace QueryPlans

variable {α β : Type}

/-! ## Lists of checked items -/

namespace Checked

/-- The values of a list are those of its items. -/
theorem all_eq_valid_iff {check : β → Checked α} {bs : List β} {as : List α} :
    Checked.all check bs = valid as ↔ List.Forall₂ (fun b a => check b = valid a) bs as := by
  suffices hfrom : ∀ start, allFrom check start bs = valid as ↔
      List.Forall₂ (fun b a => check b = valid a) bs as from hfrom 0
  induction bs generalizing as with
  | nil =>
    intro start
    rw [allFrom, List.forall₂_nil_left_iff]
    exact ⟨fun h => (valid.inj h).symm, fun h => congrArg valid h.symm⟩
  | cons b bs ih =>
    intro start
    rw [allFrom, seq_eq_valid_iff]
    constructor
    · rintro ⟨g, rest, hg, hrest, rfl⟩
      obtain ⟨a, ha, rfl⟩ := map_eq_valid_iff.1 hg
      exact .cons (under_eq_valid_iff.1 ha) ((ih _).1 hrest)
    · intro h
      cases h with
      | cons ha hrest =>
        exact ⟨_, _, map_eq_valid_iff.2 ⟨_, under_eq_valid_iff.2 ha, rfl⟩, (ih _).2 hrest, rfl⟩

/-- Items that are written from values are checked to be these values. -/
theorem all_map {check : β → Checked α} {write : α → β} (h : ∀ a, check (write a) = valid a)
    (as : List α) : Checked.all check (as.map write) = valid as :=
  all_eq_valid_iff.2 (List.forall₂_map_left_iff.2 (List.forall₂_same.2 fun a _ => h a))

/-- Without items there are no values. -/
theorem ne_nil_of_all {check : β → Checked α} {b : β} {bs : List β} {as : List α}
    (h : Checked.all check (b :: bs) = valid as) : as ≠ [] := by
  rintro rfl
  cases all_eq_valid_iff.1 h

theorem eq_valid_of_value? {x : Checked α} {a : α} (h : x.value? = some a) : x = valid a := by
  cases x with
  | valid b => exact congrArg valid (Option.some.inj h)
  | invalid issues => cases h

end Checked

/-- A field that is there is read. -/
theorem Reader.optional_of_get? {fields : Json.Fields} {name : String} {default a : α}
    {read : Reader α} {v : Json} (hv : fields.get? name = some v) (h : read v = .valid a) :
    Reader.optional fields name default read = .valid a := by
  unfold Reader.optional
  rw [hv]
  exact Checked.under_eq_valid_iff.2 h

/-! ## Actions -/

/-- The action has a statement. -/
def Action.IsSupported : Action → Prop
  | other _ => False
  | missing => False
  | _ => True

namespace Plan

/-! ## Plans written out -/

/-- Texts as a list. -/
def texts (ss : List String) : Json := .arr (ss.map .str)

/-- Columns with texts as their values. -/
def pairFields (pairs : List (String × String)) : Json.Fields :=
  pairs.map fun pair => (pair.1, .str pair.2)

/-- The value of a field. -/
def value (p : Plan) : Field → Json
  | .tables => texts p.tables
  | .joins => texts p.joins
  | .filters => texts p.filters
  | .select => texts p.select
  | .limit => .int p.limit
  | .page => .int p.page
  | .sort => p.sort.elim .null fun s => .obj [("column", .str s.column), ("order", .str s.order)]
  | .action => p.action.name?.elim .null .str
  | .updateSet => .obj (pairFields p.updateSet)
  | .insertColumns => texts p.insertColumns
  | .insertValues => .arr (p.insertValues.map texts)
  | .needOtherTables => .bool p.needOtherTables
  | .description => .str p.description

/-- The object with all fields of the plan. -/
def toFields (p : Plan) : Json.Fields := Field.all.map fun f => (f.name, p.value f)

/-- Each field is found under its name. -/
theorem get?_toFields (p : Plan) (f : Field) : p.toFields.get? f.name = some (p.value f) := by
  cases f <;> rfl

theorem givenIn_toFields (p : Plan) : givenIn p.toFields = Field.all := by
  unfold givenIn
  exact List.filter_eq_self.2 fun f _ => by rw [get?_toFields, Option.isSome_some]

/-- A plan whose fields are all read is read as a whole. -/
theorem ofFields_of_readFrom {p : Plan} {fields : Json.Fields} (h : p.ReadFrom fields) :
    ofFields fields = .valid p := by
  unfold ofFields
  simp only [Field.name, h.tables, h.joins, h.filters, h.select, h.limit, h.page, h.sort, h.action,
    h.updateSet, h.insertColumns, h.insertValues, h.needOtherTables, h.description, ← h.given]
  rfl

/-! ## Fields read again -/

theorem all_texts (ss : List String) : Checked.all Reader.text (ss.map .str) = .valid ss := by
  refine Checked.all_map (fun s => ?_) ss
  rfl

theorem readTexts_texts (ss : List String) : readTexts (texts ss) = .valid ss := all_texts ss

/-- There are columns to show, so that no default stands in. -/
theorem readSelect_texts {ss : List String} (h : ss ≠ []) : readSelect (texts ss) = .valid ss := by
  cases ss with
  | nil => exact absurd rfl h
  | cons s rest => exact all_texts (s :: rest)

theorem readPositive_int {default n : Int} (h : 1 ≤ n) :
    readPositive default (.int n) = .valid n := by
  have hpositive : positiveOr default n = n := if_pos (by omega)
  exact congrArg Checked.valid hpositive

theorem pairsFrom_pairFields (pairs : List (String × String)) :
    readPairs.pairsFrom (pairFields pairs) = .valid pairs := by
  induction pairs with
  | nil => rfl
  | cons pair pairs ih =>
    change Checked.seq (.valid fun rest => (pair.1, pair.2) :: rest)
      (readPairs.pairsFrom (pairFields pairs)) = _
    rw [ih]
    rfl

theorem literalFields_pairFields (pairs : List (String × String)) :
    literalFields (pairFields pairs) = .ok (pairFields pairs) := by
  induction pairs with
  | nil => rfl
  | cons pair pairs ih =>
    unfold pairFields at ih ⊢
    rw [List.map_cons, literalFields, ih]
    rfl

/-- Texts are their own literals. -/
theorem readUpdate_pairFields (pairs : List (String × String)) :
    readUpdate (.obj (pairFields pairs)) = .valid pairs := by
  have hnormal : normaliseUpdate (.obj (pairFields pairs)) = .ok (.obj (pairFields pairs)) :=
    congrArg (Except.map Json.obj) (literalFields_pairFields pairs)
  rw [readUpdate, hnormal]
  exact pairsFrom_pairFields pairs

theorem sqlLiterals?_texts (ss : List String) : sqlLiterals? (ss.map .str) = .ok ss := by
  induction ss with
  | nil => rfl
  | cons s ss ih =>
    rw [List.map_cons, sqlLiterals?, ih]
    rfl

theorem literalRows_texts (rows : List (List String)) :
    literalRows (rows.map texts) = .ok (rows.map texts) := by
  induction rows with
  | nil => rfl
  | cons row rows ih =>
    have hrow : literalRow (texts row) = .ok (texts row) := by
      unfold literalRow texts
      simp only [sqlLiterals?_texts]
      rfl
    rw [List.map_cons, literalRows, ih, hrow]
    rfl

/-- A list of rows is none of scalars. -/
theorem asRows_texts (rows : List (List String)) : asRows (rows.map texts) = rows.map texts := by
  cases rows <;> rfl

theorem readRows_texts (rows : List (List String)) :
    readRows (.arr (rows.map texts)) = .valid rows := by
  have hnormal : normaliseRows (.arr (rows.map texts)) = .ok (.arr (rows.map texts)) := by
    change (literalRows (asRows (rows.map texts))).map Json.arr = _
    rw [asRows_texts, literalRows_texts]
    rfl
  rw [readRows, hnormal]
  refine Checked.all_map (fun row => ?_) rows
  exact all_texts row

theorem readSort_value (sort : Option SortKey) :
    readSort (sort.elim .null fun s => .obj [("column", .str s.column), ("order", .str s.order)]) =
      .valid sort := by
  cases sort <;> rfl

/-! ## What the readers make sure of -/

variable {p : Plan} {fields : Json.Fields}

theorem ReadFrom.select_ne_nil (h : p.ReadFrom fields) : p.select ≠ [] := by
  rcases Reader.optional_eq_valid h.select with hdefault | ⟨v, hv⟩
  · rw [hdefault]
    exact List.cons_ne_nil _ _
  · unfold readSelect normaliseSelect at hv
    split at hv
    · exact Checked.ne_nil_of_all hv
    · exact Checked.ne_nil_of_all hv
    · split at hv <;> exact Checked.ne_nil_of_all hv
    · rename_i hempty _
      cases v with
      | arr items =>
        cases items with
        | nil => exact absurd rfl hempty
        | cons item items => exact Checked.ne_nil_of_all hv
      | _ => cases hv

/-- The word of an action is not empty: to fetch is meant when nothing is said. -/
theorem normaliseAction_ne_empty {v : Json} {word : String}
    (h : normaliseAction v = .str word) : word ≠ "" := by
  unfold normaliseAction at h
  split at h
  · cases h
    decide
  · obtain rfl := Json.str.inj h
    split
    · decide
    · assumption
  · rename_i hstr
    exact absurd h (hstr word)

theorem readAction_ne_unset {v : Json} {a : Action} (h : readAction v = .valid a) : a ≠ .unset := by
  unfold readAction at h
  cases hnormal : normaliseAction v with
  | str word =>
    rw [hnormal] at h
    obtain rfl : Action.ofName word = a := Checked.valid.inj h
    intro hunset
    have hname := Action.name?_ofName word
    rw [hunset] at hname
    exact normaliseAction_ne_empty hnormal (Option.some.inj hname).symm
  | _ =>
    rw [hnormal] at h
    cases h

theorem ReadFrom.action_ne_unset (h : p.ReadFrom fields) : p.action ≠ .unset := by
  rcases Reader.optional_eq_valid h.action with hdefault | ⟨v, hv⟩
  · rw [hdefault]
    exact nofun
  · exact readAction_ne_unset hv

/-- A supported action is read from its word. -/
theorem readAction_value (hsupported : p.action.IsSupported) (hset : p.action ≠ .unset) :
    readAction (p.value .action) = .valid p.action := by
  change readAction (p.action.name?.elim .null .str) = _
  cases haction : p.action with
  | select => rfl
  | unset => exact absurd haction hset
  | update => rfl
  | delete => rfl
  | insert => rfl
  | other name =>
    rw [haction] at hsupported
    exact hsupported.elim
  | missing =>
    rw [haction] at hsupported
    exact hsupported.elim

/-! ## The plan again -/

/-- The plan with all fields given. -/
def allGiven (p : Plan) : Plan := { p with given := Field.all }

/-- A plan in normal form is read from its own fields. -/
theorem ReadFrom.readFrom_toFields (h : p.ReadFrom fields) (hsupported : p.action.IsSupported) :
    p.allGiven.ReadFrom p.toFields where
  tables := Reader.optional_of_get? (p.get?_toFields .tables) (readTexts_texts _)
  joins := Reader.optional_of_get? (p.get?_toFields .joins) (readTexts_texts _)
  filters := Reader.optional_of_get? (p.get?_toFields .filters) (readTexts_texts _)
  select := Reader.optional_of_get? (p.get?_toFields .select) (readSelect_texts h.select_ne_nil)
  limit := Reader.optional_of_get? (p.get?_toFields .limit) (readPositive_int h.positive.limit)
  page := Reader.optional_of_get? (p.get?_toFields .page) (readPositive_int h.positive.page)
  sort := Reader.optional_of_get? (p.get?_toFields .sort) (readSort_value _)
  action := Reader.optional_of_get? (p.get?_toFields .action)
    (readAction_value hsupported h.action_ne_unset)
  updateSet := Reader.optional_of_get? (p.get?_toFields .updateSet) (readUpdate_pairFields _)
  insertColumns := Reader.optional_of_get? (p.get?_toFields .insertColumns) (readTexts_texts _)
  insertValues := Reader.optional_of_get? (p.get?_toFields .insertValues) (readRows_texts _)
  needOtherTables := Reader.optional_of_get? (p.get?_toFields .needOtherTables) rfl
  description := Reader.optional_of_get? (p.get?_toFields .description) rfl
  given := p.givenIn_toFields.symm

/-- **Reading a plan reaches a normal form.** A plan with a supported action is read from an object.
The object with all its fields is accepted. What is read from it is the same plan, but that all fields
count as given; that plan is written out as before, and its statement, its count and its summary are the
same. -/
theorem normal_form_is_stable (h : ofFields fields = .valid p)
    (hsupported : p.action.IsSupported) :
    ofFields p.toFields = .valid p.allGiven ∧ p.allGiven.toFields = p.toFields ∧
      p.allGiven.statement = p.statement ∧ p.allGiven.countStatement? = p.countStatement? ∧
      p.allGiven.summary = p.summary := by
  refine ⟨?_, rfl, rfl, rfl, rfl⟩
  exact ofFields_of_readFrom ((ofFields_readFrom h).readFrom_toFields hsupported)

/-- An insertion in its short forms. -/
def shortInsertion : Json.Fields :=
  [("tables", .str "notes"), ("filters", .str " "), ("limit", .int (-3)), ("page", .null),
    ("sort", .obj [("column", .str "id"), ("order", .null)]), ("action", .str " INSERT "),
    ("insert_columns", .arr [.str "id", .str "body"]), ("insert_values", .arr [.int 1, .null])]

/-- What is read from it. -/
def insertion : Plan :=
  { empty with
    tables := ["notes"]
    sort := some ⟨"id", "asc"⟩
    action := .insert
    insertColumns := ["id", "body"]
    insertValues := [["1", "NULL"]]
    given := [.tables, .filters, .limit, .page, .sort, .action, .insertColumns, .insertValues] }

/-- From the short forms of an insertion its normal form is reached. -/
theorem insertion_is_stable :
    ofFields shortInsertion = .valid insertion ∧
      ofFields insertion.toFields = .valid insertion.allGiven := by
  have hread : ofFields shortInsertion = .valid insertion :=
    Checked.eq_valid_of_value? (by decide +kernel)
  exact ⟨hread, (normal_form_is_stable hread trivial).1⟩

end Plan

end QueryPlans
