import QueryPlans.Plan.Statement
import QueryPlans.Proofs.Condition.Join

/-!
# What the filters of a plan mean together

The filters of a plan all have to hold.  In the WHERE clause they stand one after the other with `AND`
between them, each as it is, without parentheses.  So a filter that is a choice between alternatives
comes apart beside another filter: its first alternatives, or its last ones, no longer depend on the
other.

* `Plan.WhereMeansAll` — the condition of the clause is true exactly when all filters are.
* `Condition.IsChoice` — a text with an `OR` outside of parentheses.
* `Plan.EmbedsWhere` — a statement that has the clause as its condition.

Principal results: `whereMeansAll_iff` — the clause means all filters exactly when each of its
alternatives makes all of them true; so it does if there is only one filter, or none of them is a
choice, and where no atom stands in the filters twice, only then. `choice_escapes` — a plan whose clause
means something else.
-/

namespace QueryPlans

open Condition (Atom read? alternatives? all ofAlternatives joinAll IsSingle)

/-- The text is a choice between alternatives: it has an `OR` outside of parentheses. -/
def Condition.IsChoice (text : String) : Prop := ∃ as, alternatives? text = some as ∧ ¬ IsSingle as

namespace Plan

/-- The condition that the WHERE clause is read as is true exactly when all filters are. -/
def WhereMeansAll (p : Plan) : Prop :=
  ∀ (es : List (Condition Atom)) (text : String) (whole : Condition Atom),
    p.filters.map read? = es.map some → p.whereClause = "\nWHERE " ++ text →
      read? text = some whole → ∀ v, whole.eval v = true ↔ ∀ e ∈ es, e.eval v = true

/-- What may follow a condition in a statement. -/
def EndsCondition (tail : String) : Prop :=
  tail = "" ∨ ∃ rest, tail = "\nORDER BY " ++ rest ∨ tail = "\nLIMIT " ++ rest

/-- The statement has the WHERE clause of the plan, and the condition ends with it. -/
def EmbedsWhere (p : Plan) (sql : String) : Prop :=
  ∃ head tail, sql = head ++ p.whereClause ++ tail ∧ EndsCondition tail

variable {p : Plan} {sql : String}

/-! ## Statements with a condition -/

theorem orderClause_starts (p : Plan) :
    p.orderClause = "" ∨ ∃ rest, p.orderClause = "\nORDER BY " ++ rest := by
  unfold orderClause
  split
  · split
    · exact .inl rfl
    · rename_i s _ _
      exact .inr ⟨s.column ++ " " ++ s.direction, by simp only [String.append_assoc]⟩
  · exact .inl rfl

theorem limitClause_starts {limit : String} (h : p.limitClause = .ok limit) :
    ∃ rest, limit = "\nLIMIT " ++ rest := by
  unfold limitClause at h
  cases hlimit : digits p.limit with
  | error e => rw [hlimit] at h; cases h
  | ok n =>
    rw [hlimit] at h
    change (if 1 < p.page then _ else _) = _ at h
    split at h
    · cases hoffset : digits p.offset with
      | error e => rw [hoffset] at h; cases h
      | ok m =>
        rw [hoffset] at h
        cases h
        exact ⟨n ++ " OFFSET " ++ m, by simp only [String.append_assoc]⟩
    · cases h
      exact ⟨n, rfl⟩

theorem endsCondition_order_limit {limit : String} (h : p.limitClause = .ok limit) :
    EndsCondition (p.orderClause ++ limit) := by
  obtain ⟨rest, rfl⟩ := limitClause_starts h
  rcases p.orderClause_starts with horder | ⟨order, horder⟩
  · rw [horder, String.empty_append]
    exact .inr ⟨rest, .inr rfl⟩
  · rw [horder, String.append_assoc]
    exact .inr ⟨_, .inl rfl⟩

theorem selectStatement_embeds (h : p.selectStatement = .ok sql) : p.EmbedsWhere sql := by
  unfold selectStatement selectBody at h
  cases hfrom : p.fromClause with
  | error v => rw [hfrom] at h; cases h
  | ok tables =>
    rw [hfrom] at h
    cases hlimit : p.limitClause with
    | error e => rw [hlimit] at h; cases h
    | ok limit =>
      rw [hlimit] at h
      cases h
      refine ⟨"SELECT " ++ p.columnList ++ "\nFROM " ++ tables, p.orderClause ++ limit, ?_, ?_⟩
      · simp only [String.append_assoc]
      · exact endsCondition_order_limit hlimit

theorem countStatement?_embeds (h : p.countStatement? = some sql) : p.EmbedsWhere sql := by
  obtain ⟨tables, -, rfl⟩ := Option.map_eq_some_iff.1 h
  exact ⟨"SELECT count(*) FROM " ++ tables, "", by simp, .inl rfl⟩

theorem updateStatement_embeds (h : p.updateStatement = .ok sql) : p.EmbedsWhere sql := by
  unfold updateStatement at h
  split at h
  · cases h
  · cases h
  · cases h
    exact ⟨_, "", by rw [String.append_empty], .inl rfl⟩

theorem deleteStatement_embeds (h : p.deleteStatement = .ok sql) : p.EmbedsWhere sql := by
  unfold deleteStatement at h
  split at h
  · cases h
  · cases h
    exact ⟨_, "", by rw [String.append_empty], .inl rfl⟩

/-! ## Conditions together -/

/-- Texts that are read have alternatives. -/
theorem alternatives_of_read {text : String} {texts : List String} {es : List (Condition Atom)}
    (h : (text :: texts).map read? = es.map some) :
    ∃ fs : Chain (Chain (Chain (Condition Atom))),
      (text :: texts).map alternatives? = fs.toList.map some ∧
        es = fs.toList.map ofAlternatives := by
  induction texts generalizing text es with
  | nil =>
    cases es with
    | nil => cases h
    | cons e es =>
      simp only [List.map_cons, List.map_nil, List.cons.injEq] at h
      obtain ⟨as, has, rfl⟩ := Option.map_eq_some_iff.1 h.1
      have hnil : es = [] := by simpa using h.2.symm
      exact ⟨.one as, by simp [Chain.toList, has], by simp [Chain.toList, hnil]⟩
  | cons next texts ih =>
    cases es with
    | nil => cases h
    | cons e es =>
      obtain ⟨hfirst, hrest⟩ := List.cons.inj h
      obtain ⟨as, has, rfl⟩ := Option.map_eq_some_iff.1 hfirst
      obtain ⟨fs, hfs, rfl⟩ := ih hrest
      refine ⟨.cons as fs, ?_, rfl⟩
      rw [List.map_cons, hfs, has]
      rfl

theorem whereClause_of_filters {text : String} {texts : List String} (h : p.filters = text :: texts) :
    p.whereClause = "\nWHERE " ++ Text.joined Condition.conjunction (text :: texts) := by
  unfold whereClause
  rw [h]
  rfl

theorem isChoice_iff {text : String} {as : Chain (Chain (Condition Atom))}
    (h : alternatives? text = some as) : Condition.IsChoice text ↔ ¬ IsSingle as := by
  constructor
  · rintro ⟨bs, hbs, hmany⟩
    rw [h] at hbs
    cases hbs
    exact hmany
  · exact fun hmany => ⟨as, h, hmany⟩

/-- The filters hold a choice exactly when one of their chains has several alternatives. -/
theorem exists_isChoice_iff {texts : List String} {fs : List (Chain (Chain (Condition Atom)))}
    (h : texts.map alternatives? = fs.map some) :
    (∃ f ∈ texts, Condition.IsChoice f) ↔ ∃ as ∈ fs, ¬ IsSingle as := by
  constructor
  · rintro ⟨f, hf, as, has, hmany⟩
    have hmem : alternatives? f ∈ fs.map some := h ▸ List.mem_map_of_mem hf
    obtain ⟨bs, hbs, heq⟩ := List.mem_map.1 hmem
    rw [has] at heq
    cases heq
    exact ⟨as, hbs, hmany⟩
  · rintro ⟨as, has, hmany⟩
    have hmem : some as ∈ texts.map alternatives? := h ▸ List.mem_map_of_mem has
    obtain ⟨f, hf, heq⟩ := List.mem_map.1 hmem
    exact ⟨f, hf, as, heq, hmany⟩

/-! ## When the clause means all filters -/

/-- The clause of a plan can only be read in one way. -/
theorem whereMeansAll_of_reading {text : String} {as : Chain (Chain (Condition Atom))}
    {es : List (Condition Atom)} (hes : p.filters.map read? = es.map some)
    (htext : p.whereClause = "\nWHERE " ++ text) (has : alternatives? text = some as) :
    p.WhereMeansAll ↔ ∀ v, (ofAlternatives as).eval v = true ↔ ∀ e ∈ es, e.eval v = true := by
  have hwhole : read? text = some (ofAlternatives as) := by
    unfold read?
    rw [has]
    rfl
  constructor
  · intro h
    exact h es text _ hes htext hwhole
  · intro h es' text' whole' hes' htext' hwhole'
    rw [htext] at htext'
    obtain rfl := (String.append_right_inj _).1 htext'
    rw [hwhole] at hwhole'
    cases hwhole'
    rw [hes] at hes'
    obtain rfl := (List.map_inj_right fun _ _ => Option.some.inj).1 hes'
    exact h

/-- The clause of filters that can be read can be read, and has their alternatives. -/
theorem exists_reading {text : String} {texts : List String} {es : List (Condition Atom)}
    (hfilters : p.filters = text :: texts) (hread : p.filters.map read? = es.map some) :
    ∃ fs : Chain (Chain (Chain (Condition Atom))),
      p.filters.map alternatives? = fs.toList.map some ∧ es = fs.toList.map ofAlternatives ∧
        p.whereClause = "\nWHERE " ++ Text.joined Condition.conjunction (text :: texts) ∧
        alternatives? (Text.joined Condition.conjunction (text :: texts)) = some (joinAll fs) := by
  rw [hfilters] at hread ⊢
  obtain ⟨fs, hfs, hes⟩ := alternatives_of_read hread
  exact ⟨fs, hfs, hes, whereClause_of_filters hfilters, Condition.alternatives?_joined hfs⟩

/-- What is true if all filters are means them exactly when each of its alternatives makes all of them
true. -/
theorem means_iff_alternatives {as : Chain (Chain (Condition Atom))} {es : List (Condition Atom)}
    (hall : ∀ v, (∀ e ∈ es, e.eval v = true) → (ofAlternatives as).eval v = true) :
    (∀ v, (ofAlternatives as).eval v = true ↔ ∀ e ∈ es, e.eval v = true) ↔
      ∀ t ∈ as.toList, ∀ v, (all t).eval v = true → ∀ e ∈ es, e.eval v = true := by
  constructor
  · intro h t ht v hv
    exact (h v).1 (Condition.eval_ofAlternatives_iff.2 ⟨t, ht, hv⟩)
  · intro h v
    refine ⟨fun hv => ?_, hall v⟩
    obtain ⟨t, ht, htrue⟩ := Condition.eval_ofAlternatives_iff.1 hv
    exact h t ht v htrue

theorem whereMeansAll_of_nil (h : p.filters = []) : p.whereClause = "" ∧ p.WhereMeansAll := by
  have hnone : p.whereClause = "" := by
    unfold whereClause
    rw [h]
  refine ⟨hnone, fun es text whole _ htext => ?_⟩
  rw [hnone] at htext
  exact absurd (String.append_eq_empty_iff.1 htext.symm).1 (by decide)

/-- One filter, or filters of which none is a choice, are meant by the clause. -/
theorem whereMeansAll_of_single
    (hsingle : p.filters.length ≤ 1 ∨ ¬ ∃ f ∈ p.filters, Condition.IsChoice f)
    {es : List (Condition Atom)} (hread : p.filters.map read? = es.map some) : p.WhereMeansAll := by
  cases hfilters : p.filters with
  | nil => exact (whereMeansAll_of_nil hfilters).2
  | cons text texts =>
    obtain ⟨fs, hfs, rfl, htext, hwhole⟩ := exists_reading hfilters hread
    rw [whereMeansAll_of_reading hread htext hwhole]
    intro v
    rw [List.forall_mem_map]
    refine ⟨fun hv => ?_, Condition.eval_joinAll_of_forall⟩
    rcases hsingle with hlength | hnone
    · have hlengths := congrArg List.length hfs
      rw [List.length_map, List.length_map] at hlengths
      cases fs with
      | one as =>
        intro bs hbs
        obtain rfl := List.mem_singleton.1 hbs
        exact hv
      | cons as rest =>
        have hrest := rest.length_toList_pos
        rw [Chain.toList, List.length_cons] at hlengths
        omega
    · rw [exists_isChoice_iff hfs] at hnone
      refine (Condition.eval_joinAll_of_single fun as has => ?_).2 hv
      exact Classical.byContradiction fun hmany => hnone ⟨as, has, hmany⟩

/-- Beside another filter a choice comes apart. -/
theorem not_whereMeansAll {es : List (Condition Atom)}
    (hread : p.filters.map read? = es.map some) (hfree : (es.flatMap Condition.atoms).Nodup)
    (hlength : 1 < p.filters.length) (hchoice : ∃ f ∈ p.filters, Condition.IsChoice f) :
    ¬ p.WhereMeansAll := by
  cases hfilters : p.filters with
  | nil => rw [hfilters] at hlength; cases hlength
  | cons text texts =>
    obtain ⟨fs, hfs, rfl, htext, hwhole⟩ := exists_reading hfilters hread
    rw [whereMeansAll_of_reading hread htext hwhole]
    rw [exists_isChoice_iff hfs] at hchoice
    cases fs with
    | one as =>
      have hlengths := congrArg List.length hfs
      rw [List.length_map, List.length_map] at hlengths
      rw [hlengths] at hlength
      exact absurd hlength (Nat.lt_irrefl 1)
    | cons as rest =>
      rw [List.flatMap_map] at hfree
      obtain ⟨v, htrue, bs, hbs, hfalse⟩ := Condition.exists_joinAll_escapes hchoice hfree
      intro hmeans
      have hall := (hmeans v).1 htrue (ofAlternatives bs) (List.mem_map_of_mem hbs)
      rw [hfalse] at hall
      cases hall

/-- **When the WHERE clause means all filters.** The clause of filters that can be read can be read,
and is true if all filters are. It means all filters exactly when each of its alternatives makes all of
them true; that is so if there is one filter only, or none of them is a choice between alternatives, and
if no atom stands in the filters twice, in no other case. Every statement with a condition has this
clause. -/
theorem whereMeansAll_iff (p : Plan) (es : List (Condition Atom))
    (hread : p.filters.map read? = es.map some) :
    (p.filters = [] ∧ p.whereClause = "" ∨
      ∃ text as, p.whereClause = "\nWHERE " ++ text ∧ alternatives? text = some as ∧
        (∀ v, (∀ e ∈ es, e.eval v = true) → (ofAlternatives as).eval v = true) ∧
        (p.WhereMeansAll ↔
          ∀ t ∈ as.toList, ∀ v, (all t).eval v = true → ∀ e ∈ es, e.eval v = true)) ∧
    ((p.filters.length ≤ 1 ∨ ¬ ∃ f ∈ p.filters, Condition.IsChoice f) → p.WhereMeansAll) ∧
    ((es.flatMap Condition.atoms).Nodup →
      (p.WhereMeansAll ↔ p.filters.length ≤ 1 ∨ ¬ ∃ f ∈ p.filters, Condition.IsChoice f)) ∧
    (∀ sql, (p.selectStatement = .ok sql ∨ p.countStatement? = some sql ∨
      p.updateStatement = .ok sql ∨ p.deleteStatement = .ok sql) → p.EmbedsWhere sql) := by
  refine ⟨?_, fun hsingle => whereMeansAll_of_single hsingle hread, fun hfree => ⟨fun hmeans => ?_,
    fun hsingle => whereMeansAll_of_single hsingle hread⟩, ?_⟩
  · cases hfilters : p.filters with
    | nil => exact .inl ⟨rfl, (whereMeansAll_of_nil hfilters).1⟩
    | cons text texts =>
      obtain ⟨fs, -, rfl, htext, has⟩ := exists_reading hfilters hread
      have hall : ∀ v, (∀ e ∈ fs.toList.map ofAlternatives, e.eval v = true) →
          (ofAlternatives (joinAll fs)).eval v = true := by
        intro v hv
        rw [List.forall_mem_map] at hv
        exact Condition.eval_joinAll_of_forall hv
      refine .inr ⟨_, _, htext, has, hall, ?_⟩
      rw [whereMeansAll_of_reading hread htext has]
      exact means_iff_alternatives hall
  · refine Classical.byContradiction fun h => ?_
    rw [not_or, Classical.not_not] at h
    exact not_whereMeansAll hread hfree (by omega) h.2 hmeans
  · rintro sql (h | h | h | h)
    · exact selectStatement_embeds h
    · exact countStatement?_embeds h
    · exact updateStatement_embeds h
    · exact deleteStatement_embeds h

/-- The atom of a column that is compared with a number. -/
def sampleAtom (column number : Char) : Condition Atom :=
  .atom [.word [column], .symbol '=', .word [number]]

/-- In parentheses a choice stays together. -/
theorem whereMeansAll_parentheses :
    WhereMeansAll { Plan.empty with tables := ["t"], filters := ["(a = 1 OR b = 2)", "c = 3"] } := by
  have hread : ["(a = 1 OR b = 2)", "c = 3"].map read? =
      [.or (sampleAtom 'a' '1') (sampleAtom 'b' '2'), sampleAtom 'c' '3'].map some := by
    decide +kernel
  obtain ⟨-, hmeans, -⟩ := whereMeansAll_iff
    { Plan.empty with tables := ["t"], filters := ["(a = 1 OR b = 2)", "c = 3"] } _ hread
  refine hmeans (.inr ?_)
  have hfirst : alternatives? "(a = 1 OR b = 2)" =
      some (.one (.one (.or (sampleAtom 'a' '1') (sampleAtom 'b' '2')))) := by
    decide +kernel
  have hsecond : alternatives? "c = 3" = some (.one (.one (sampleAtom 'c' '3'))) := by
    decide +kernel
  rintro ⟨f, hf, hchoice⟩
  simp only [List.mem_cons, List.not_mem_nil, or_false] at hf
  rcases hf with rfl | rfl
  · exact (isChoice_iff hfirst).1 hchoice ⟨_, rfl⟩
  · exact (isChoice_iff hsecond).1 hchoice ⟨_, rfl⟩

/-- Without them it does not: the clause can be true while a filter is false. -/
theorem choice_escapes :
    ¬ WhereMeansAll { Plan.empty with tables := ["t"], filters := ["a = 1 OR b = 2", "c = 3"] } := by
  intro hmeans
  have hread : ["a = 1 OR b = 2", "c = 3"].map read? =
      [.or (sampleAtom 'a' '1') (sampleAtom 'b' '2'), sampleAtom 'c' '3'].map some := by
    decide +kernel
  have hwhole : read? "a = 1 OR b = 2\n  AND c = 3" =
      some (.or (sampleAtom 'a' '1') (.and (sampleAtom 'b' '2') (sampleAtom 'c' '3'))) := by
    decide +kernel
  have hall := (hmeans _ _ _ hread (by decide +kernel) hwhole
    fun a => a == [.word ['a'], .symbol '=', .word ['1']]).1 (by decide)
  exact absurd (hall (sampleAtom 'c' '3') (by simp)) (by decide)

end Plan

end QueryPlans
