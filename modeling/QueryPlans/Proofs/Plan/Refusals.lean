import QueryPlans.Proofs.Plan.Turns

/-!
# Pages that the database refuses

A plan is retained at the page that was asked for before the database is asked.  So a page that the
database refuses counts as a step, although nothing of it was shown: after it, the next page is one
further than what was seen last.

* `Plan.SaysSame` — two plans are equal, but for a note on which fields were given.

Principal results: `Plan.step_saysSame_iff` — only a step back from the first page leads nowhere;
`Retained.stand_of_refused` — where refused turns lead; `refused_turns_keep_iff` — exactly when a
refused turn keeps the plan, and when the page after refused turns is the one after the page that was
shown; `refused_turn_skips_page` — a page is passed over.
-/

namespace QueryPlans

variable {σ : Type}

namespace Plan

/-- The plans are equal, but for the note on which fields were given. -/
def SaysSame (p q : Plan) : Prop := { p with given := q.given } = q

theorem atPage_saysSame_iff (p : Plan) (page : Int) : (p.atPage page).SaysSame p ↔ page = p.page := by
  constructor
  · intro h
    exact congrArg Plan.page h
  · rintro rfl
    rfl

/-- Only a step back from the first page leads nowhere. -/
theorem step_saysSame_iff (p : Plan) (direction : Navigation) :
    (p.step direction).SaysSame p ↔ direction = .previous ∧ p.page = 1 := by
  rw [step_eq, atPage_saysSame_iff]
  cases direction with
  | next =>
    have hne : p.page + 1 ≠ p.page := by omega
    simp [Navigation.target, hne]
  | previous =>
    have hfirst : max 1 (p.page - 1) = p.page ↔ p.page = 1 := by omega
    simp [Navigation.target, hfirst]

end Plan

/-- Two pages have the same next page only if they are the same; they have the same previous page
also if that is the first for both. -/
theorem Navigation.target_eq_iff (a b : Int) (direction : Navigation) :
    target a direction = target b direction ↔
      a = b ∨ direction = .previous ∧ a ≤ 2 ∧ b ≤ 2 := by
  cases direction with
  | next => simp [target]
  | previous =>
    have hprevious : max 1 (a - 1) = max 1 (b - 1) ↔ a = b ∨ a ≤ 2 ∧ b ≤ 2 := by omega
    simpa [target] using hprevious

namespace Turn

variable {t : Turn} {o : Outcome}

/-- A turn with an outcome shows what it retains. -/
theorem Possible.retains_shown (h : t.Possible) (ho : t.result = .ok o) : t.after = some o.plan := by
  obtain ⟨current, sql, summary, _, _, _, _, hsql, hafter, _, hexec⟩ := h.shows ho
  obtain ⟨_, -, -, hreports⟩ := Plan.execute_shows (Plan.tables_ne_nil_of_statement hsql) hexec
  rw [hafter, hreports.plan]

end Turn

namespace Retained

/-- So does a plan that is accepted and run. -/
theorem accept_retains_shown {retained after : Retained} {p : Plan} {sql? : Option String}
    {es : List (Event Database.interface)} {o : Outcome} (ho : o.isExecuted = true)
    (h : (retained.accept p sql?).Trace es (.ok o, after)) : after = some o.plan := by
  rcases accept_trace h with ⟨-, -, hwhy⟩ | ⟨summary, sql, -, -, -, hafter, hcarry⟩
  · rcases hwhy with ⟨e, -, hr⟩ | ⟨summary, -, hr⟩ | ⟨e, -, hr⟩
    · cases hr
    · cases hr
      cases ho
    · cases hr
  · rw [hafter]
    unfold Plan.carryOut at hcarry
    split at hcarry
    · rcases Plan.execute_trace hcarry with ⟨_, _, -, -, hr⟩ | ⟨rows, _, total, _, -, -, -, hr⟩
      · cases hr
      · cases total <;> cases hr
        rfl
    · rcases (Plan.holdForReview_trace hcarry).2 with hr | ⟨_, hr⟩
      · cases hr
        rfl
      · cases hr

/-- Refused turns lead from page to page all the same. -/
theorem stand_of_refused {world : World Database.interface σ} {last : Turn} {rest : List Turn} :
    ∀ {refused : List Turn} {directions : List Navigation} {q : Plan} {st : σ},
      turns world (some q) st directions = refused ++ last :: rest →
      (∀ t ∈ refused, t.Refused) → ∃ current, last.before = some current ∧
        current.page = Navigation.walk q.page (refused.map (·.direction))
  | refused, [], q, st, h, _ => by
    rw [turns] at h
    cases refused <;> cases h
  | [], direction :: directions, q, st, h, _ => by
    rw [turns, List.nil_append, List.cons.injEq] at h
    obtain ⟨rfl, -⟩ := h
    exact ⟨q, rfl, rfl⟩
  | t :: refused, direction :: directions, q, st, h, hrefused => by
    rw [turns, List.cons_append, List.cons.injEq] at h
    obtain ⟨rfl, h⟩ := h
    have hpossible := turn_possible world (some q) st direction
    obtain ⟨_, hbefore, hafter⟩ := hpossible.moved (hrefused _ List.mem_cons_self)
    cases hbefore
    change _ = some (q.step direction) at hafter
    rw [hafter] at h
    have hstand := stand_of_refused h fun t ht => hrefused t (List.mem_cons_of_mem _ ht)
    rw [Plan.step_page] at hstand
    exact hstand

/-- **When a refused turn keeps the position.** A refused turn retains the plan at the page that was
asked for: this is the plan as it was exactly when the turn went back from the first page. The plan
that is shown is the one that is retained, by an accepted plan as by a turn. So the page that is shown
after refused turns is one step from where these lead; it is one step from the page that was shown
before them exactly when they lead back to that page, or it is the first page and was asked for by a
step back. -/
theorem refused_turns_keep_iff (world : World Database.interface σ) (st : σ) (p : Plan)
    (directions : List Navigation) :
    (∀ t : Turn, t.Possible → t.Refused → ∃ current moved, t.before = some current ∧
      t.after = some moved ∧ (moved.SaysSame current ↔ t.direction = .previous ∧ current.page = 1)) ∧
    (∀ (t : Turn) (o : Outcome), t.Possible → t.result = .ok o → t.after = some o.plan) ∧
    (∀ (retained after : Retained) (q : Plan) (sql? : Option String) es (o : Outcome),
      (retained.accept q sql?).Trace es (.ok o, after) → o.isExecuted = true →
        after = some o.plan) ∧
    ∀ (refused : List Turn) (last : Turn) (rest : List Turn) (o : Outcome),
      turns world (some p) st directions = refused ++ last :: rest →
      (∀ t ∈ refused, t.Refused) → last.result = .ok o →
      let stand := Navigation.walk p.page (refused.map (·.direction))
      o.plan.page = Navigation.target stand last.direction ∧
        (o.plan.page = Navigation.target p.page last.direction ↔
          stand = p.page ∨ last.direction = .previous ∧ stand ≤ 2 ∧ p.page ≤ 2) := by
  refine ⟨fun t hpossible hrefused => ?_, fun t o hpossible ho => hpossible.retains_shown ho,
    fun _ _ _ _ _ _ haccept ho => accept_retains_shown ho haccept, ?_⟩
  · obtain ⟨current, hbefore, hafter⟩ := hpossible.moved hrefused
    exact ⟨current, _, hbefore, hafter, current.step_saysSame_iff t.direction⟩
  · intro refused last rest o hrun hrefused ho stand
    obtain ⟨current, hbefore, hpage⟩ := stand_of_refused hrun hrefused
    have hpossible : last.Possible :=
      possible_of_mem_turns (hrun ▸ List.mem_append_right _ List.mem_cons_self)
    obtain ⟨_, _, _, _, _, heq, _, _, hafter, _, _⟩ := hpossible.shows ho
    rw [hbefore] at heq
    cases heq
    have hshown : o.plan.page = Navigation.target stand last.direction := by
      have hplan := hpossible.retains_shown ho
      rw [hafter] at hplan
      rw [← Option.some.inj hplan, Plan.step_page, hpage]
    exact ⟨hshown, by rw [hshown]; exact Navigation.target_eq_iff stand p.page last.direction⟩

/-- The replies of a database that answers one statement, refuses the next, and answers again. -/
def oneRefusal : List (Except Fault Rows) :=
  [.ok ⟨[], [], 0⟩, .error (.raised .query "connection is closed"), .ok ⟨[], [], 0⟩]

/-- After a refused step back from the first page, the next page is the second. -/
theorem refused_turns_keep_first :
    ∃ refused last o, turns scripted (some firstRows) oneRefusal.tail [.previous, .next] =
        [refused, last] ∧ refused.Refused ∧ last.result = .ok o ∧
      o.plan.page = Navigation.target firstRows.page .next := by
  obtain ⟨refused, last, hrun⟩ : ∃ refused last,
      turns scripted (some firstRows) oneRefusal.tail [.previous, .next] = [refused, last] :=
    ⟨_, _, rfl⟩
  have hturns : (turns scripted (some firstRows) oneRefusal.tail [.previous, .next]).map
      (fun t => (decide t.Refused, t.direction, t.result.toOption.map Outcome.isExecuted)) =
        [(true, .previous, none), (false, .next, some true)] := by
    decide +kernel
  rw [hrun] at hturns
  simp only [List.map_cons, List.map_nil, List.cons.injEq, Prod.mk.injEq, decide_eq_true_eq] at hturns
  obtain ⟨⟨hrefused, hback, -⟩, ⟨-, hnext, hshown⟩, -⟩ := hturns
  obtain ⟨o, ho, -⟩ := exists_ok_of_toOption hshown
  have hall : ∀ t ∈ [refused], t.Refused := fun t ht => List.mem_singleton.1 ht ▸ hrefused
  obtain ⟨-, -, -, hkeep⟩ :=
    refused_turns_keep_iff scripted oneRefusal.tail firstRows [.previous, .next]
  obtain ⟨-, hpage⟩ := hkeep [refused] last [] o hrun hall ho
  rw [hnext] at hpage
  refine ⟨refused, last, o, hrun, hrefused, ho, hpage.2 (.inl ?_)⟩
  rw [List.map_singleton, hback]
  rfl

/-- **A page is passed over.** The first page is shown, the second is refused, and the third is shown
in its place. -/
theorem refused_turn_skips_page :
    ∃ first refused last shown,
      ((Retained.accept none firstRows).run scripted oneRefusal).value = (.ok first, some firstRows) ∧
      first.isExecuted = true ∧ first.plan.page = 1 ∧
      turns scripted (some firstRows)
        ((Retained.accept none firstRows).run scripted oneRefusal).state [.next, .next] =
          [refused, last] ∧
      refused.Refused ∧ refused.before = some firstRows ∧ refused.after = some (firstRows.atPage 2) ∧
      last.result = .ok shown ∧ shown.plan.page = 3 := by
  obtain ⟨refused, last, hrun⟩ : ∃ refused last,
      turns scripted (some firstRows)
        ((Retained.accept none firstRows).run scripted oneRefusal).state [.next, .next] =
          [refused, last] :=
    ⟨_, _, rfl⟩
  have hturns : (turns scripted (some firstRows)
      ((Retained.accept none firstRows).run scripted oneRefusal).state [.next, .next]).map
      (fun t => (decide t.Refused, t.before, t.after, t.result.toOption.map fun o => o.plan.page)) =
        [(true, some firstRows, some (firstRows.atPage 2), none),
          (false, some (firstRows.atPage 2), some (firstRows.atPage 3), some 3)] := by
    decide +kernel
  rw [hrun] at hturns
  simp only [List.map_cons, List.map_nil, List.cons.injEq, Prod.mk.injEq, decide_eq_true_eq] at hturns
  obtain ⟨⟨hrefused, hbefore, hafter, -⟩, ⟨-, -, -, hshown⟩, -⟩ := hturns
  obtain ⟨shown, hlast, hthird⟩ := exists_ok_of_toOption hshown
  have haccepted : ((Retained.accept none firstRows).run scripted oneRefusal).value.1.toOption.map
      (fun o => (o.isExecuted, o.plan.page)) = some (true, 1) := by
    decide +kernel
  have hretained :
      ((Retained.accept none firstRows).run scripted oneRefusal).value.2 = some firstRows := by
    decide +kernel
  obtain ⟨first, hfirst, hpage⟩ := exists_ok_of_toOption haccepted
  obtain ⟨hexecuted, hone⟩ := Prod.mk.inj hpage
  exact ⟨first, refused, last, shown, Prod.ext hfirst hretained, hexecuted, hone, hrun, hrefused,
    hbefore, hafter, hlast, hthird⟩

end Retained

end QueryPlans
