import QueryPlans.Plan.Read

/-!
# Plans that were read

* `Plan.ReadFrom` — every field of a plan is what its reader makes of the object.
* `Plan.TextRead` — what a JSON text comes to.

Principal results: `textRead` — it comes to nothing else; `ofFields_readFrom` — a plan that is read from an object has its fields from there;
`read_positive` — its page and its page size are positive, whatever the reply said.
-/

namespace QueryPlans

namespace Checked

variable {α β : Type}

theorem map_eq_valid_iff {f : α → β} {x : Checked α} {b : β} :
    (f <$> x) = valid b ↔ ∃ a, x = valid a ∧ f a = b := by
  cases x <;> simp [Functor.map]

theorem ap_eq_valid_iff {f : Checked (α → β)} {x : Checked α} {b : β} :
    (f <*> x) = valid b ↔ ∃ g a, f = valid g ∧ x = valid a ∧ g a = b :=
  seq_eq_valid_iff

theorem andThen_eq_valid_iff {x : Checked α} {f : α → Checked β} {b : β} :
    x.andThen f = valid b ↔ ∃ a, x = valid a ∧ f a = valid b := by
  cases x <;> simp [andThen]

end Checked

/-- A field that is left out has its default; any other has a value that its reader accepts. -/
theorem Reader.optional_eq_valid {α : Type} {fields : Json.Fields} {name : String} {default a : α}
    {read : Reader α} (h : Reader.optional fields name default read = .valid a) :
    a = default ∨ ∃ v, read v = .valid a := by
  unfold Reader.optional at h
  split at h
  · exact .inr ⟨_, Checked.under_eq_valid_iff.1 h⟩
  · cases h
    exact .inl rfl

namespace Plan

/-- Every field of the plan is what its reader makes of the object. -/
structure ReadFrom (p : Plan) (fields : Json.Fields) : Prop where
  tables : Reader.optional fields "tables" [] readTexts = .valid p.tables
  joins : Reader.optional fields "joins" [] readTexts = .valid p.joins
  filters : Reader.optional fields "filters" [] readTexts = .valid p.filters
  select : Reader.optional fields "select" ["*"] readSelect = .valid p.select
  limit : Reader.optional fields "limit" defaultLimit (readPositive defaultLimit) = .valid p.limit
  page : Reader.optional fields "page" defaultPage (readPositive defaultPage) = .valid p.page
  sort : Reader.optional fields "sort" none readSort = .valid p.sort
  action : Reader.optional fields "action" .select readAction = .valid p.action
  updateSet : Reader.optional fields "update_set" [] readUpdate = .valid p.updateSet
  insertColumns : Reader.optional fields "insert_columns" [] readTexts = .valid p.insertColumns
  insertValues : Reader.optional fields "insert_values" [] readRows = .valid p.insertValues
  needOtherTables :
    Reader.optional fields "need_other_tables" false Reader.boolean = .valid p.needOtherTables
  description : Reader.optional fields "description" "" readDescription = .valid p.description
  given : p.given = givenIn fields

/-- A plan that is read from an object has its fields from there. -/
theorem ofFields_readFrom {fields : Json.Fields} {p : Plan} (h : ofFields fields = .valid p) :
    p.ReadFrom fields := by
  unfold ofFields at h
  simp only [Checked.ap_eq_valid_iff, Checked.map_eq_valid_iff, Field.name] at h
  obtain ⟨_, _, ⟨_, _, ⟨_, _, ⟨_, _, ⟨_, _, ⟨_, _, ⟨_, _, ⟨_, _, ⟨_, _, ⟨_, _, ⟨_, _, ⟨_, _, ⟨_, _,
    ⟨_, htables, rfl⟩, hjoins, rfl⟩, hfilters, rfl⟩, hselect, rfl⟩, hlimit, rfl⟩, hpage, rfl⟩,
    hsort, rfl⟩, haction, rfl⟩, hupdate, rfl⟩, hcolumns, rfl⟩, hrows, rfl⟩, hother, rfl⟩,
    hdescription, rfl⟩, hgiven, rfl⟩ := h
  cases hgiven
  exact ⟨htables, hjoins, hfilters, hselect, hlimit, hpage, hsort, haction, hupdate, hcolumns, hrows,
    hother, hdescription, rfl⟩

/-! ## Pages and page sizes -/

theorem positiveOr_pos {default : Int} (h : 1 ≤ default) (n : Int) : 1 ≤ positiveOr default n := by
  unfold positiveOr
  split <;> omega

theorem optional_readPositive_pos {fields : Json.Fields} {name : String} {default n : Int}
    (hdefault : 1 ≤ default)
    (h : Reader.optional fields name default (readPositive default) = .valid n) : 1 ≤ n := by
  rcases Reader.optional_eq_valid h with rfl | ⟨v, hv⟩
  · exact hdefault
  · unfold readPositive at hv
    cases hint : Reader.integer (nullTo (.int default) v) with
    | invalid issues => rw [hint] at hv; cases hv
    | valid m =>
      rw [hint] at hv
      cases hv
      exact positiveOr_pos hdefault m

/-- The page and the page size are positive. -/
structure Positive (p : Plan) : Prop where
  page : 1 ≤ p.page
  limit : 1 ≤ p.limit

theorem ReadFrom.positive {p : Plan} {fields : Json.Fields} (h : p.ReadFrom fields) : p.Positive :=
  ⟨optional_readPositive_pos (by decide) h.page, optional_readPositive_pos (by decide) h.limit⟩

/-! ## Texts -/

/-- An issue with the fields would write out a value that is nested too deep for that. -/
def WritesTooDeep (depths : Json.Depths) (fields : Json.Fields) : Prop :=
  ∃ v ∈ refusedValues fields, depths.write < v.depth

theorem any_depth_iff {host : Host} {fields : Json.Fields} :
    ((refusedValues fields).any fun v => host.depths.write < v.depth) = true ↔
      WritesTooDeep host.depths fields := by
  simp [WritesTooDeep]

theorem ofText_of_exceeded {text : String} {host : Host} {l : Json.Limit}
    (h : Json.decode text host.depths.read = .error (.exceeded l)) :
    ofText text host = .error (.exceeded l) := by
  unfold ofText
  rw [h]

theorem ofText_of_deep {text : String} {host : Host} {fields : Json.Fields}
    (h : Json.decode text host.depths.read = .ok (.obj fields)) (hdeep : WritesTooDeep host.depths fields) :
    ofText text host = .error (.exceeded .written) := by
  unfold ofText
  rw [h]
  simp only [any_depth_iff.2 hdeep, ↓reduceIte]

theorem ofText_of_flat {text : String} {host : Host} {fields : Json.Fields}
    (h : Json.decode text host.depths.read = .ok (.obj fields)) (hflat : ¬ WritesTooDeep host.depths fields) :
    ofText text host =
      match ofFields fields with
      | .valid p => .ok p
      | .invalid issues => .error (.invalid text issues (host.reports.text modelName (.obj fields) issues)) := by
  unfold ofText
  rw [h]
  exact if_neg (mt any_depth_iff.1 hflat)

/-- What a JSON text comes to. -/
inductive TextRead (text : String) (host : Host) : Except ReadError Plan → Prop
  | undecodable {reason : Json.Reason} {position : Json.Position}
      (hdecode : Json.decode text host.depths.read = .error (.malformed reason position)) :
      TextRead text host (.error (.undecodable text reason position))
  | exceeded {l : Json.Limit} (hdecode : Json.decode text host.depths.read = .error (.exceeded l)) :
      TextRead text host (.error (.exceeded l))
  | notAnObject {v : Json} (hdecode : Json.decode text host.depths.read = .ok v)
      (hobject : ∀ fields, v ≠ .obj fields) :
      TextRead text host (.error (.notAnObject text (kindName v)))
  | unwritten {fields : Json.Fields} (hdecode : Json.decode text host.depths.read = .ok (.obj fields))
      (hdeep : WritesTooDeep host.depths fields) : TextRead text host (.error (.exceeded .written))
  | invalid {fields : Json.Fields} {issues : List Issue}
      (hdecode : Json.decode text host.depths.read = .ok (.obj fields)) (hflat : ¬ WritesTooDeep host.depths fields)
      (hread : ofFields fields = .invalid issues) :
      TextRead text host
        (.error (.invalid text issues (host.reports.text modelName (.obj fields) issues)))
  | plan {fields : Json.Fields} {p : Plan} (hdecode : Json.decode text host.depths.read = .ok (.obj fields))
      (hflat : ¬ WritesTooDeep host.depths fields) (hread : ofFields fields = .valid p) :
      TextRead text host (.ok p)

theorem textRead (text : String) (host : Host) : TextRead text host (ofText text host) := by
  unfold ofText
  split
  · rename_i hdecode
    exact .undecodable hdecode
  · rename_i hdecode
    exact .exceeded hdecode
  · rename_i fields hdecode
    split
    · rename_i hdeep
      exact .unwritten hdecode (any_depth_iff.1 hdeep)
    · rename_i hflat
      split
      · rename_i hread
        exact .plan hdecode (mt any_depth_iff.2 hflat) hread
      · rename_i hread
        exact .invalid hdecode (mt any_depth_iff.2 hflat) hread
  · rename_i v hobject hdecode
    exact .notAnObject hdecode hobject

/-! ## Replies -/

/-- A plan in a reply is read from the fields of the object in it. -/
theorem exists_decoded_of_read {reply : String} {host : Host} {p : Plan}
    (h : read reply host = .ok p) :
    ∃ fields, Json.decode (objectText reply) host.depths.read = .ok (.obj fields) ∧ p.ReadFrom fields := by
  unfold read at h
  simp only at h
  split at h
  · cases h
  have htext := textRead (objectText reply) host
  rw [h] at htext
  cases htext with
  | plan hdecode _ hread => exact ⟨_, hdecode, ofFields_readFrom hread⟩

/-- A plan in a reply has a positive page and page size. -/
theorem read_positive {reply : String} {host : Host} {p : Plan}
    (h : read reply host = .ok p) : p.Positive := by
  obtain ⟨fields, -, hread⟩ := exists_decoded_of_read h
  exact hread.positive

end Plan

end QueryPlans
