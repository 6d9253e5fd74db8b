import QueryPlans.Proofs.Condition.Basic
import QueryPlans.Proofs.Condition.Chain

/-!
# Alternatives

A condition without its outermost parentheses is one alternative of several, and each of them is
several conditions at once.  Texts of conditions that are written one after the other with `AND`
between them join the last alternative of one text to the first of the next.

* `Condition.ofAlternatives` — the condition of a chain of chains.
* `Condition.joinAll` — the alternatives of several texts with `AND` between them.

Principal results: `eval_joinAll_of_forall` — if every text is true, so is the whole;
`eval_joinAll_of_single` — it is true only then, if no text has several alternatives;
`exists_joinAll_escapes` — otherwise the whole can be true while one of the texts is false.
-/

namespace QueryPlans

namespace Condition

variable {α : Type}

/-- All conditions at once. -/
def all : Chain (Condition α) → Condition α
  | .one c => c
  | .cons c rest => .and c (all rest)

/-- One of several alternatives. -/
def ofAlternatives : Chain (Chain (Condition α)) → Condition α
  | .one t => all t
  | .cons t ts => .or (all t) (ofAlternatives ts)

/-- Texts one after the other with `AND` between them. -/
def joinAll : Chain (Chain (Chain (Condition α))) → Chain (Chain (Condition α))
  | .one ts => ts
  | .cons ts rest => ts.join (joinAll rest)

/-- The condition is no choice between alternatives. -/
def IsSingle (ts : Chain (Chain (Condition α))) : Prop := ∃ t, ts = .one t

/-! ## Truth -/

theorem eval_all_append (v : α → Bool) (t u : Chain (Condition α)) :
    (all (t.append u)).eval v = ((all t).eval v && (all u).eval v) := by
  induction t with
  | one c => rfl
  | cons c rest ih => simp only [Chain.append, all, eval, ih, Bool.and_assoc]

/-- The condition is true if one of its alternatives is. -/
theorem eval_ofAlternatives_iff {v : α → Bool} {ts : Chain (Chain (Condition α))} :
    (ofAlternatives ts).eval v = true ↔ ∃ t ∈ ts.toList, (all t).eval v = true := by
  induction ts with
  | one t => simp [Chain.toList, ofAlternatives]
  | cons t rest ih => simp [Chain.toList, ofAlternatives, eval, ih]

/-- If two texts are true, so are both with `AND` between them. -/
theorem eval_join_of_true {v : α → Bool} {ts us : Chain (Chain (Condition α))}
    (hts : (ofAlternatives ts).eval v = true) (hus : (ofAlternatives us).eval v = true) :
    (ofAlternatives (ts.join us)).eval v = true := by
  induction ts with
  | one t =>
    change (all t).eval v = true at hts
    cases us with
    | one u =>
      change (all u).eval v = true at hus
      change (all (t.append u)).eval v = true
      rw [eval_all_append, hts, hus]
      rfl
    | cons u us =>
      change ((all u).eval v || (ofAlternatives us).eval v) = true at hus
      change ((all (t.append u)).eval v || (ofAlternatives us).eval v) = true
      rw [eval_all_append, hts, Bool.true_and]
      exact hus
  | cons t ts ih =>
    change ((all t).eval v || (ofAlternatives ts).eval v) = true at hts
    change ((all t).eval v || (ofAlternatives (ts.join us)).eval v) = true
    rw [Bool.or_eq_true] at hts ⊢
    exact hts.imp id ih

/-- If every text is true, so is the whole. -/
theorem eval_joinAll_of_forall {v : α → Bool} {fs : Chain (Chain (Chain (Condition α)))}
    (h : ∀ ts ∈ fs.toList, (ofAlternatives ts).eval v = true) :
    (ofAlternatives (joinAll fs)).eval v = true := by
  induction fs with
  | one ts => exact h ts (by simp [Chain.toList])
  | cons ts rest ih =>
    exact eval_join_of_true (h ts (by simp [Chain.toList]))
      (ih fun us hus => h us (by simp [Chain.toList, hus]))

/-- Without alternatives the whole is true only if every text is. -/
theorem eval_joinAll_of_single {v : α → Bool} {fs : Chain (Chain (Chain (Condition α)))}
    (hsingle : ∀ ts ∈ fs.toList, IsSingle ts) :
    IsSingle (joinAll fs) ∧ ((ofAlternatives (joinAll fs)).eval v = true →
      ∀ ts ∈ fs.toList, (ofAlternatives ts).eval v = true) := by
  induction fs with
  | one ts =>
    refine ⟨hsingle ts (by simp [Chain.toList]), fun h us hus => ?_⟩
    obtain rfl := List.mem_singleton.1 hus
    exact h
  | cons ts rest ih =>
    obtain ⟨⟨u, hu⟩, hrest⟩ := ih fun us hus => hsingle us (by simp [Chain.toList, hus])
    obtain ⟨t, rfl⟩ := hsingle ts (by simp [Chain.toList])
    rw [joinAll, hu]
    rw [hu] at hrest
    refine ⟨⟨t.append u, rfl⟩, fun h us hus => ?_⟩
    change (all (t.append u)).eval v = true at h
    rw [eval_all_append, Bool.and_eq_true] at h
    rcases List.mem_cons.1 hus with rfl | hus
    · exact h.1
    · exact hrest h.2 us hus

/-! ## Alternatives that escape -/

theorem atoms_all_append (t u : Chain (Condition α)) :
    (all (t.append u)).atoms = (all t).atoms ++ (all u).atoms := by
  induction t with
  | one c => rfl
  | cons c rest ih => simp only [Chain.append, all, atoms, ih, List.append_assoc]

theorem atoms_join (ts us : Chain (Chain (Condition α))) :
    (ofAlternatives (ts.join us)).atoms = (ofAlternatives ts).atoms ++ (ofAlternatives us).atoms := by
  induction ts with
  | one t =>
    cases us with
    | one u => exact atoms_all_append t u
    | cons u us =>
      change (all (t.append u)).atoms ++ (ofAlternatives us).atoms = _
      rw [atoms_all_append, List.append_assoc]
      rfl
  | cons t ts ih =>
    change (all t).atoms ++ (ofAlternatives (ts.join us)).atoms = _
    rw [ih, ← List.append_assoc]
    rfl

/-- The whole has the atoms of the texts, in order. -/
theorem atoms_joinAll (fs : Chain (Chain (Chain (Condition α)))) :
    (ofAlternatives (joinAll fs)).atoms =
      fs.toList.flatMap fun ts => (ofAlternatives ts).atoms := by
  induction fs with
  | one ts => simp [joinAll, Chain.toList]
  | cons ts rest ih => rw [joinAll, atoms_join, ih, Chain.toList, List.flatMap_cons]

/-- If a text has several alternatives, so has the whole. -/
theorem not_isSingle_joinAll {fs : Chain (Chain (Chain (Condition α)))}
    (h : ∃ ts ∈ fs.toList, ¬ IsSingle ts) : ¬ IsSingle (joinAll fs) := by
  induction fs with
  | one ts =>
    obtain ⟨us, hus, hmany⟩ := h
    rw [List.mem_singleton.1 hus] at hmany
    exact hmany
  | cons ts rest ih =>
    rintro ⟨w, hw⟩
    rw [joinAll] at hw
    cases ts with
    | cons t ts => cases hw
    | one t =>
      obtain ⟨us, hus, hmany⟩ := h
      rcases List.mem_cons.1 hus with rfl | hus
      · exact hmany ⟨t, rfl⟩
      · cases hjoin : joinAll rest with
        | one u => exact ih ⟨us, hus, hmany⟩ ⟨u, hjoin⟩
        | cons u us =>
          rw [hjoin] at hw
          cases hw

variable [DecidableEq α]

/-- If one of several texts has several alternatives, and no atom stands in them twice, the whole can
be true while one of the texts is false. -/
theorem exists_joinAll_escapes {f : Chain (Chain (Condition α))}
    {rest : Chain (Chain (Chain (Condition α)))}
    (hmany : ∃ ts ∈ (Chain.cons f rest).toList, ¬ IsSingle ts)
    (hfree : ((Chain.cons f rest).toList.flatMap fun ts => (ofAlternatives ts).atoms).Nodup) :
    ∃ v, (ofAlternatives (joinAll (.cons f rest))).eval v = true ∧
      ∃ ts ∈ (Chain.cons f rest).toList, (ofAlternatives ts).eval v = false := by
  rw [Chain.toList, List.flatMap_cons, ← atoms_joinAll] at hfree
  cases f with
  | cons t ts =>
    -- The first alternative of the first text stands alone in the whole: the rest may be false.
    have hboth : ((all t).atoms ++ (ofAlternatives (joinAll rest)).atoms).Nodup := by
      refine hfree.sublist (List.Sublist.append ?_ (List.Sublist.refl _))
      exact List.sublist_append_left _ _
    obtain ⟨v, ht, hrest⟩ := exists_true_false hboth
    refine ⟨v, ?_, ?_⟩
    · change ((all t).eval v || _) = true
      rw [ht, Bool.true_or]
    · refine Classical.byContradiction fun hall => ?_
      simp only [not_exists, not_and, Bool.not_eq_false] at hall
      have hwhole := eval_joinAll_of_forall fun us hus => hall us (List.mem_cons_of_mem _ hus)
      rw [hrest] at hwhole
      cases hwhole
  | one t =>
    -- The whole has further alternatives after the one that holds the first text.
    have hrest : ∃ ts ∈ rest.toList, ¬ IsSingle ts := by
      obtain ⟨us, hus, hmany⟩ := hmany
      rcases List.mem_cons.1 hus with rfl | hus
      · exact absurd ⟨t, rfl⟩ hmany
      · exact ⟨us, hus, hmany⟩
    cases hjoin : joinAll rest with
    | one u => exact absurd ⟨u, hjoin⟩ (not_isSingle_joinAll hrest)
    | cons u us =>
      rw [hjoin] at hfree
      have hboth : ((ofAlternatives us).atoms ++ (all t).atoms).Nodup := by
        refine (List.perm_append_comm.nodup_iff).1 (hfree.sublist ?_)
        refine List.Sublist.append (List.Sublist.refl _) ?_
        exact List.sublist_append_right _ _
      obtain ⟨v, hus, ht⟩ := exists_true_false hboth
      refine ⟨v, ?_, .one t, by simp [Chain.toList], ht⟩
      rw [joinAll, hjoin]
      change ((all (t.append u)).eval v || (ofAlternatives us).eval v) = true
      rw [hus, Bool.or_true]

end Condition

end QueryPlans
