import QueryPlans.Proofs.Plan.Limits
import QueryPlans.Proofs.Plan.Readers

/-!
# Nulls and fields that are left out

Null stands for a field that is left out, at any field but one: whether other tables are needed is a truth
value, and null is none.  The page size of the settings is for plans that leave out their own, and a null
page size counts as given: so it comes to the page size of a plan without settings.

* `Plan.NullOrOut` — what two objects have at a field that is left out of the first.
* `Plan.AddsNulls` — an object with nulls for fields that another leaves out, also inside of its ordering.
* `Plan.ReadSame` — two objects are both refused, or are the same plan with the same page size.

Principal results: `Field.reader_null` — null is read as the default; `AddsNulls.readIn_eq` — so each
field is read the same; `null_means_omitted_iff` — exactly when nulls make no difference;
`nulls_make_a_difference` — the two nulls that do.
-/

namespace QueryPlans

/-- A page size comes to that of the settings exactly if it is the same, or if that of the settings is the
greatest that they allow and the other is above it. -/
theorem PlannerSettings.Sound.capped_eq_iff {s : PlannerSettings} (hs : s.Sound) (n : Int) :
    s.capped n = s.capped s.defaultLimit ↔
      n = s.defaultLimit ∨ s.maxLimit = some s.defaultLimit ∧ s.defaultLimit ≤ n := by
  unfold capped
  cases hmost : s.maxLimit with
  | none => simp
  | some most =>
    have hordered := hs.ordered most hmost
    simp only [Option.some.injEq]
    by_cases hn : most < n
    · have hdefault : ¬ most < s.defaultLimit := by omega
      simp only [hn, hdefault, ↓reduceIte]
      omega
    · have hdefault : ¬ most < s.defaultLimit := by omega
      simp only [hn, hdefault, ↓reduceIte]
      omega

namespace Plan

variable {fields fields' : Json.Fields} {p p' : Plan}

/-! ## Nulls for what is left out -/

/-- What two objects have at a name: neither has it; the second has null for it; or both have it, with
values that are so related. -/
inductive NullOrOut (related : Json → Json → Prop) : Option Json → Option Json → Prop
  | out : NullOrOut related none none
  | null : NullOrOut related none (some .null)
  | kept {v w : Json} (h : related v w) : NullOrOut related (some v) (some w)

/-- An ordering with nulls for its column or its order, where these are left out. -/
inductive SortNulls : Json → Json → Prop
  | same (v : Json) : SortNulls v v
  | fields {s s' : Json.Fields} (hcolumn : NullOrOut Eq (s.get? "column") (s'.get? "column"))
      (horder : NullOrOut Eq (s.get? "order") (s'.get? "order")) : SortNulls (.obj s) (.obj s')

/-- How the values of a field are related that both objects have. -/
def Field.Kept : Field → Json → Json → Prop
  | sort => SortNulls
  | _ => Eq

/-- The second object has null for some fields that the first leaves out. -/
def AddsNulls (fields fields' : Json.Fields) : Prop :=
  ∀ f : Field, NullOrOut f.Kept (fields.get? f.name) (fields'.get? f.name)

/-- The field is left out of the first object and null in the second. -/
def Field.IsNulled (f : Field) (fields fields' : Json.Fields) : Prop :=
  fields.get? f.name = none ∧ fields'.get? f.name = some .null

/-- Null for each of some fields. -/
def nulls (fs : List Field) : Json.Fields := fs.map fun f => (f.name, .null)

theorem get?_append (fields more : Json.Fields) (name : String) :
    Json.Fields.get? (fields ++ more) name = (fields.get? name).or (Json.Fields.get? more name) := by
  induction fields with
  | nil => rfl
  | cons field fields ih =>
    by_cases h : field.1 = name
    · simp [Json.Fields.get?, h]
    · simpa [Json.Fields.get?, h] using ih

theorem get?_nulls (fs : List Field) (f : Field) :
    (nulls fs).get? f.name = if f ∈ fs then some .null else none := by
  induction fs with
  | nil => rfl
  | cons g fs ih =>
    unfold nulls at ih ⊢
    rw [List.map_cons, Json.Fields.get?]
    by_cases h : g = f
    · simp [h]
    · have hname : g.name ≠ f.name := fun heq => h (Field.name_inj heq)
      have hne : f ≠ g := fun heq => h heq.symm
      simp [hname, hne, ih]

theorem Field.Kept.refl (f : Field) (v : Json) : f.Kept v v := by
  cases f with
  | sort => exact .same v
  | _ => exact Eq.refl v

/-- Nulls may be put behind the other fields of an object; they count for those that are left out. -/
theorem addsNulls_append (fields : Json.Fields) (fs : List Field) :
    AddsNulls fields (fields ++ nulls fs) := by
  intro f
  rw [get?_append, get?_nulls]
  cases hf : fields.get? f.name with
  | some v => exact .kept (.refl f v)
  | none =>
    by_cases hmem : f ∈ fs
    · simp only [hmem, ↓reduceIte]
      exact .null
    · simp only [hmem, ↓reduceIte]
      exact .out

/-! ## Readers and nulls -/

/-- Null is read as the default, but where a truth value is asked for. -/
theorem Field.reader_null {f : Field} (hf : f ≠ .needOtherTables) : f.reader .null = .valid f.standard := by
  cases f with
  | needOtherTables => exact absurd rfl hf
  | _ => rfl

/-- Whether other tables are needed is not left open with null. -/
theorem needOtherTables_null (h : Field.needOtherTables.IsNulled fields fields')
    (c : Field.needOtherTables.Content) : Field.needOtherTables.readIn fields' ≠ .valid c := by
  intro hread
  unfold Field.readIn Reader.optional at hread
  rw [h.2] at hread
  cases Checked.under_eq_valid_iff.1 hread

/-- A field whose reader takes null for the default is read the same. -/
theorem optional_eq_of_null {α : Type} {name : String} {default : α} {read : Reader α}
    {related : Json → Json → Prop}
    (hnull : fields.get? name = none → fields'.get? name = some .null → read .null = .valid default)
    (hkept : ∀ {v w}, related v w → read v = read w)
    (h : NullOrOut related (fields.get? name) (fields'.get? name)) :
    Reader.optional fields name default read = Reader.optional fields' name default read := by
  unfold Reader.optional
  generalize fields.get? name = found at hnull h ⊢
  generalize fields'.get? name = found' at hnull h ⊢
  cases h with
  | out => rfl
  | null =>
    simp only [hnull rfl rfl]
    rfl
  | kept h => simp only [hkept h]

/-- An ordering is read the same with nulls for what it leaves out. -/
theorem readSort_eq_of_nulls {v w : Json} (h : SortNulls v w) : readSort v = readSort w := by
  cases h with
  | same => rfl
  | @fields s s' hcolumn horder =>
    have htext {name : String} (default : String)
        (h : NullOrOut Eq (s.get? name) (s'.get? name)) :
        Reader.optional s name default (fun v => Reader.text (nullTo (.str default) v)) =
          Reader.optional s' name default fun v => Reader.text (nullTo (.str default) v) :=
      optional_eq_of_null (fun _ _ => rfl) (fun heq => by rw [heq]) h
    have hsort : sortOfFields s = sortOfFields s' := by
      unfold sortOfFields
      simp only [htext _ hcolumn, htext _ horder]
    change (sortOfFields s).map some = (sortOfFields s').map some
    rw [hsort]

theorem Field.Kept.reader_eq {f : Field} {v w : Json} (h : f.Kept v w) : f.reader v = f.reader w := by
  cases f with
  | sort => exact readSort_eq_of_nulls h
  | _ => exact congrArg _ h

/-- Each field is read the same, unless null stands where a truth value is asked for. -/
theorem AddsNulls.readIn_eq (h : AddsNulls fields fields') {f : Field}
    (hf : f = .needOtherTables → ¬ f.IsNulled fields fields') : f.readIn fields = f.readIn fields' := by
  refine optional_eq_of_null (fun hout hnull => ?_) Field.Kept.reader_eq (h f)
  exact Field.reader_null fun heq => hf heq ⟨hout, hnull⟩

/-! ## Page sizes -/

theorem mem_givenIn_iff {f : Field} : f ∈ givenIn fields ↔ (fields.get? f.name).isSome = true := by
  unfold givenIn
  rw [List.mem_filter]
  exact and_iff_right (by cases f <;> decide)

theorem isGiven_iff (h : ofFields fields = .valid p) (f : Field) :
    p.isGiven f = (fields.get? f.name).isSome := by
  have hgiven := (ofFields_eq_valid_iff.1 h).2
  rw [Bool.eq_iff_iff]
  unfold isGiven
  rw [hgiven, List.contains_iff_mem]
  exact mem_givenIn_iff

/-- The page size of a plan that leaves it out. -/
theorem limitFor_of_out (s : PlannerSettings) (h : ofFields fields = .valid p)
    (hout : fields.get? "limit" = none) : s.limitFor p = s.capped s.defaultLimit := by
  have hgiven : p.isGiven .limit = false := by
    rw [isGiven_iff h]
    change (Json.Fields.get? fields "limit").isSome = false
    rw [hout]
    rfl
  rw [PlannerSettings.limitFor_eq, hgiven]
  rfl

/-- The page size of a plan that says it. -/
theorem limitFor_of_given (s : PlannerSettings) (h : ofFields fields = .valid p) {v : Json}
    (hv : fields.get? "limit" = some v) : s.limitFor p = s.capped p.limit := by
  have hgiven : p.isGiven .limit = true := by
    rw [isGiven_iff h]
    change (Json.Fields.get? fields "limit").isSome = true
    rw [hv]
    rfl
  rw [PlannerSettings.limitFor_eq, hgiven]
  rfl

/-! ## Objects -/

/-- Both objects are refused, or both are accepted, as plans with the same fields to which the settings
give the same page size. -/
structure ReadSame (s : PlannerSettings) (fields fields' : Json.Fields) : Prop where
  accepted : (∃ p, ofFields fields = .valid p) ↔ ∃ p', ofFields fields' = .valid p'
  content : ∀ p p', ofFields fields = .valid p → ofFields fields' = .valid p' →
    ∀ f : Field, p'.content f = p.content f
  limit : ∀ p p', ofFields fields = .valid p → ofFields fields' = .valid p' →
    (s.applyTo p').limit = (s.applyTo p).limit

/-- An object with more nulls is accepted only if the one without them is. -/
theorem AddsNulls.exists_ofFields (h : AddsNulls fields fields')
    (hread : ∃ p', ofFields fields' = .valid p') : ∃ p, ofFields fields = .valid p := by
  rw [exists_ofFields_iff] at hread ⊢
  intro f
  obtain ⟨c, hc⟩ := hread f
  have hsame : f.readIn fields = f.readIn fields' := by
    refine h.readIn_eq ?_
    rintro rfl hnulled
    exact needOtherTables_null hnulled c hc
  exact ⟨c, hsame.trans hc⟩

/-- A null page size is the one of a plan without settings. -/
theorem AddsNulls.limit_eq (h : AddsNulls fields fields') (hnulled : Field.limit.IsNulled fields fields')
    (hread : ofFields fields' = .valid p') : p'.limit = defaultLimit := by
  have hlimit := (ofFields_eq_valid_iff.1 hread).1 .limit
  have hsame : Field.limit.readIn fields = Field.limit.readIn fields' :=
    h.readIn_eq fun heq => nomatch heq
  have hout : Field.limit.readIn fields = .valid Field.limit.standard := by
    unfold Field.readIn Reader.optional
    rw [hnulled.1]
  exact Checked.valid.inj (hlimit.symm.trans (hsame.symm.trans hout))

/-- Settings give a plan the same page size with and without nulls, unless its own is null and theirs is
another. -/
theorem AddsNulls.limitFor_eq_iff (h : AddsNulls fields fields') (s : PlannerSettings)
    (hp : ofFields fields = .valid p) (hp' : ofFields fields' = .valid p')
    (hsame : p'.limit = p.limit) :
    s.limitFor p' = s.limitFor p ↔
      (Field.limit.IsNulled fields fields' → s.capped defaultLimit = s.capped s.defaultLimit) := by
  have hcase : NullOrOut Eq (fields.get? "limit") (fields'.get? "limit") := h .limit
  cases hv : fields.get? "limit" with
  | none =>
    rw [limitFor_of_out s hp hv]
    cases hw : fields'.get? "limit" with
    | none =>
      rw [limitFor_of_out s hp' hw]
      refine iff_of_true rfl fun hnulled => ?_
      exact nomatch hw.symm.trans hnulled.2
    | some w =>
      rw [hv, hw] at hcase
      cases hcase
      have hnulled : Field.limit.IsNulled fields fields' := ⟨hv, hw⟩
      rw [limitFor_of_given s hp' hw, h.limit_eq hnulled hp']
      exact ⟨fun heq _ => heq, fun heq => heq hnulled⟩
  | some v =>
    rw [hv] at hcase
    cases hw : fields'.get? "limit" with
    | none =>
      rw [hw] at hcase
      cases hcase
    | some w =>
      rw [limitFor_of_given s hp hv, limitFor_of_given s hp' hw, hsame]
      exact iff_of_true rfl fun hnulled => nomatch hv.symm.trans hnulled.1

/-- **Null for what is left out.** Nulls make no difference to an object that is refused without them.
Where it is accepted, they make none exactly if null does not stand for whether other tables are needed,
and, where the page size is null, that of the settings is the one of a plan without settings, or the
greatest that they allow and below it. -/
theorem null_means_omitted_iff (s : PlannerSettings) (hs : s.Sound) (h : AddsNulls fields fields') :
    ReadSame s fields fields' ↔
      ((∃ p, ofFields fields = .valid p) →
        ¬ Field.needOtherTables.IsNulled fields fields' ∧
        (Field.limit.IsNulled fields fields' → s.defaultLimit = defaultLimit ∨
          s.maxLimit = some s.defaultLimit ∧ s.defaultLimit ≤ defaultLimit)) := by
  have hcapped := hs.capped_eq_iff defaultLimit
  rw [eq_comm (a := defaultLimit)] at hcapped
  rw [← hcapped]
  constructor
  · rintro hsame ⟨p, hp⟩
    obtain ⟨p', hp'⟩ := hsame.accepted.1 ⟨p, hp⟩
    constructor
    · intro hnulled
      exact needOtherTables_null hnulled _ ((ofFields_eq_valid_iff.1 hp').1 .needOtherTables)
    · rw [← h.limitFor_eq_iff s hp hp' (hsame.content p p' hp hp' .limit)]
      simpa only [PlannerSettings.applyTo_limit] using hsame.limit p p' hp hp'
  · intro hcond
    by_cases hread : ∃ p, ofFields fields = .valid p
    · obtain ⟨hneed, hlimit⟩ := hcond hread
      obtain ⟨p, hp⟩ := hread
      have halike : ∀ f : Field, f.ReadAlike fields fields' := by
        intro f c
        rw [h.readIn_eq]
        rintro rfl
        exact hneed
      have hp' := ofFields_of_readAlike halike hp
      refine ⟨⟨fun _ => ⟨_, hp'⟩, fun _ => ⟨p, hp⟩⟩, ?_, ?_⟩
      · intro q q' hq hq' f
        obtain rfl := Checked.valid.inj (hp.symm.trans hq)
        obtain rfl := Checked.valid.inj (hp'.symm.trans hq')
        exact content_given _ f
      · intro q q' hq hq'
        obtain rfl := Checked.valid.inj (hp.symm.trans hq)
        obtain rfl := Checked.valid.inj (hp'.symm.trans hq')
        rw [PlannerSettings.applyTo_limit, PlannerSettings.applyTo_limit]
        exact (h.limitFor_eq_iff s hp hp' rfl).2 hlimit
    · have hread' : ¬ ∃ p', ofFields fields' = .valid p' := fun hnew => hread (h.exists_ofFields hnew)
      exact ⟨iff_of_false hread hread', fun p _ hp => absurd ⟨p, hp⟩ hread,
        fun p _ hp => absurd ⟨p, hp⟩ hread⟩

/-- A plan for a table that leaves out everything else. -/
def tableOnly : Json.Fields := [("tables", .arr [.str "t"])]

/-- Settings for pages of thirty-five rows. -/
def longPages : PlannerSettings := { defaultLimit := 35 }

/-- With pages of thirty-five rows, nulls for all fields but two make no difference. -/
theorem nulls_mean_omitted :
    longPages.Sound ∧
      ReadSame longPages tableOnly
        (tableOnly ++ nulls (Field.all.filter fun f => f != .needOtherTables && f != .limit)) := by
  have hsound : longPages.Sound := ⟨by decide, nofun⟩
  refine ⟨hsound, (null_means_omitted_iff _ hsound (addsNulls_append _ _)).2 fun _ => ⟨?_, ?_⟩⟩
  · rintro ⟨-, hnull⟩
    rw [get?_append, get?_nulls, if_neg (by decide)] at hnull
    cases hnull
  · rintro ⟨-, hnull⟩
    rw [get?_append, get?_nulls, if_neg (by decide)] at hnull
    cases hnull

/-- **Nulls that make a difference.** With null for whether other tables are needed, an object is refused
that is accepted without. With null for the page size, the page has twenty rows where the settings ask for
thirty-five. -/
theorem nulls_make_a_difference :
    (∃ p, ofFields tableOnly = .valid p) ∧
      (¬ ∃ p, ofFields (tableOnly ++ nulls [.needOtherTables]) = .valid p) ∧
      ∃ p p', ofFields tableOnly = .valid p ∧ ofFields (tableOnly ++ nulls [.limit]) = .valid p' ∧
        (longPages.applyTo p).limit = 35 ∧ (longPages.applyTo p').limit = 20 := by
  have hout : (ofFields tableOnly).value?.map (fun p => (longPages.applyTo p).limit) = some 35 := by
    decide +kernel
  have hnull : (ofFields (tableOnly ++ nulls [.limit])).value?.map
      (fun p => (longPages.applyTo p).limit) = some 20 := by
    decide +kernel
  have hrefused : (ofFields (tableOnly ++ nulls [.needOtherTables])).value? = none := by decide +kernel
  obtain ⟨p, hp, hlimit⟩ := Option.map_eq_some_iff.1 hout
  obtain ⟨p', hp', hlimit'⟩ := Option.map_eq_some_iff.1 hnull
  have hread := Checked.eq_valid_of_value? hp
  refine ⟨⟨p, hread⟩, ?_, p, p', hread, Checked.eq_valid_of_value? hp', hlimit, hlimit'⟩
  rintro ⟨q, hq⟩
  rw [hq] at hrefused
  cases hrefused

end Plan

end QueryPlans
