import QueryPlans.Proofs.Plan.RoundTrip

/-!
# Fields and their readers

All fields of a plan are read in one way: by a reader of their own, with a default for a field that is
left out.  What two objects have to share for the same plan can so be said field by field.

* `Plan.Field.Content` — what a field holds; `Field.standard`, `Field.reader` — its default and its reader.
* `Plan.content` — what a field of a plan holds; `Plan.ofContents` — the plan with such contents.
* `Field.readIn` — the content of a field of an object.

Principal results: `ofFields_eq_valid_iff` — an object is accepted as a plan exactly when each field is
read as that field of the plan; `ofFields_of_readAlike` — objects whose fields are read alike are the same
plan, but for the note which fields were given.
-/

namespace QueryPlans.Plan

variable {p : Plan} {fields fields' : Json.Fields}

/-- What a field holds. -/
def Field.Content : Field → Type
  | tables | joins | filters | select | insertColumns => List String
  | limit | page => Int
  | sort => Option SortKey
  | action => Action
  | updateSet => List (String × String)
  | insertValues => List (List String)
  | needOtherTables => Bool
  | description => String

/-- The content of a field that is left out. -/
def Field.standard : (f : Field) → f.Content
  | tables | joins | filters | insertColumns => ([] : List String)
  | select => ["*"]
  | limit => defaultLimit
  | page => defaultPage
  | sort => (none : Option SortKey)
  | action => Action.select
  | updateSet => ([] : List (String × String))
  | insertValues => ([] : List (List String))
  | needOtherTables => false
  | description => ""

def Field.reader : (f : Field) → Reader f.Content
  | tables | joins | filters | insertColumns => readTexts
  | select => readSelect
  | limit => readPositive defaultLimit
  | page => readPositive defaultPage
  | sort => readSort
  | action => readAction
  | updateSet => readUpdate
  | insertValues => readRows
  | needOtherTables => Reader.boolean
  | description => readDescription

/-- The content of a field of an object. -/
def Field.readIn (f : Field) (fields : Json.Fields) : Checked f.Content :=
  Reader.optional fields f.name f.standard f.reader

/-- What a field of the plan holds. -/
def content (p : Plan) : (f : Field) → f.Content
  | .tables => p.tables
  | .joins => p.joins
  | .filters => p.filters
  | .select => p.select
  | .limit => p.limit
  | .page => p.page
  | .sort => p.sort
  | .action => p.action
  | .updateSet => p.updateSet
  | .insertColumns => p.insertColumns
  | .insertValues => p.insertValues
  | .needOtherTables => p.needOtherTables
  | .description => p.description

/-- The plan whose fields hold these contents. -/
def ofContents (c : (f : Field) → f.Content) (given : List Field) : Plan :=
  { tables := c .tables, joins := c .joins, filters := c .filters, select := c .select,
    limit := c .limit, page := c .page, sort := c .sort, action := c .action,
    updateSet := c .updateSet, insertColumns := c .insertColumns, insertValues := c .insertValues,
    needOtherTables := c .needOtherTables, description := c .description, given }

@[simp] theorem content_ofContents (c : (f : Field) → f.Content) (given : List Field) (f : Field) :
    (ofContents c given).content f = c f := by
  cases f <;> rfl

@[simp] theorem content_given (given : List Field) (f : Field) :
    { p with given }.content f = p.content f := by
  cases f <;> rfl

/-- Every field is read by its reader. -/
theorem readFrom_iff :
    p.ReadFrom fields ↔
      (∀ f : Field, f.readIn fields = .valid (p.content f)) ∧ p.given = givenIn fields := by
  constructor
  · intro h
    refine ⟨fun f => ?_, h.given⟩
    cases f with
    | tables => exact h.tables
    | joins => exact h.joins
    | filters => exact h.filters
    | select => exact h.select
    | limit => exact h.limit
    | page => exact h.page
    | sort => exact h.sort
    | action => exact h.action
    | updateSet => exact h.updateSet
    | insertColumns => exact h.insertColumns
    | insertValues => exact h.insertValues
    | needOtherTables => exact h.needOtherTables
    | description => exact h.description
  · rintro ⟨h, hgiven⟩
    exact ⟨h .tables, h .joins, h .filters, h .select, h .limit, h .page, h .sort, h .action,
      h .updateSet, h .insertColumns, h .insertValues, h .needOtherTables, h .description, hgiven⟩

/-- An object is accepted as a plan exactly when its fields are read as those of the plan. -/
theorem ofFields_eq_valid_iff :
    ofFields fields = .valid p ↔
      (∀ f : Field, f.readIn fields = .valid (p.content f)) ∧ p.given = givenIn fields := by
  rw [← readFrom_iff]
  exact ⟨ofFields_readFrom, ofFields_of_readFrom⟩

/-- An object is accepted exactly when each of its fields is. -/
theorem exists_ofFields_iff :
    (∃ p, ofFields fields = .valid p) ↔
      ∀ f : Field, ∃ c, f.readIn fields = .valid c := by
  constructor
  · rintro ⟨p, h⟩ f
    exact ⟨_, (ofFields_eq_valid_iff.1 h).1 f⟩
  · intro h
    obtain ⟨c, hc⟩ := Classical.skolem.1 h
    refine ⟨ofContents c (givenIn fields), ofFields_eq_valid_iff.2 ⟨fun f => ?_, rfl⟩⟩
    rw [content_ofContents, hc]

/-- Where a field is read in one object as something, it is read so in the other. -/
def Field.ReadAlike (f : Field) (fields fields' : Json.Fields) : Prop :=
  ∀ c, f.readIn fields = .valid c ↔ f.readIn fields' = .valid c

/-- Objects whose fields are read alike are the same plan, but for the note which fields were given. -/
theorem ofFields_of_readAlike (halike : ∀ f : Field, f.ReadAlike fields fields')
    (h : ofFields fields = .valid p) :
    ofFields fields' = .valid { p with given := givenIn fields' } := by
  obtain ⟨hread, -⟩ := ofFields_eq_valid_iff.1 h
  refine ofFields_eq_valid_iff.2 ⟨fun f => ?_, rfl⟩
  rw [content_given]
  exact (halike f _).1 (hread f)

/-! ## One field -/

/-- A field that is in neither object is read alike from both. -/
theorem Field.readAlike_of_get?_eq {f : Field} (h : fields.get? f.name = fields'.get? f.name) :
    f.ReadAlike fields fields' := by
  intro c
  unfold readIn Reader.optional
  rw [h]

/-- Two values that a reader takes for the same are read alike as a field. -/
theorem Field.readAlike_of_values {f : Field} {v w : Json} (hv : fields.get? f.name = some v)
    (hw : fields'.get? f.name = some w) (h : ∀ c, f.reader v = .valid c ↔ f.reader w = .valid c) :
    f.ReadAlike fields fields' := by
  intro c
  unfold readIn Reader.optional
  rw [hv, hw]
  simp only [Checked.under_eq_valid_iff]
  exact h c

/-- A field is found by its name. -/
theorem Field.find?_name (f : Field) : Field.all.find? (fun g => g.name == f.name) = some f := by
  cases f <;> decide +kernel

theorem Field.name_inj {f g : Field} (h : f.name = g.name) : f = g := by
  have hf := f.find?_name
  rw [h, g.find?_name] at hf
  exact (Option.some.inj hf).symm

end QueryPlans.Plan
