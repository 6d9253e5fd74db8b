import QueryPlans.Proofs.Plan.Naming
import QueryPlans.Proofs.Session.Answered

/-!
# Requests that fail before a statement is sent

A request may fail before it reaches the rows: there is no plan to page through, the table cannot be
described, the model fails, or its reply holds no plan that has a statement.  Such a request leaves the
session as it was.  There is one exception.  A page may be within reach of its statement, which holds
the rows before it, while its own number has one digit too many to be written; the plan is then
retained at that page, and only after that the request fails.

* `Step.Unsent` — no statement that fetches rows was sent.
* `Step.AsksUnwritable` — the exception, by what was asked and retained.

Principal results: `asksUnwritable_iff` — the exception is the page whose number is the least that cannot
be written, with pages of one row; `failures_leave_no_trace` — in every other case the retained plan
stays, and so does all that happens later; `unwritable_page_is_retained` — the exception does occur.
-/

namespace QueryPlans

namespace Session

variable {σ : Type} {s : Session} {step : Step}

/-- No statement that fetches rows was sent. -/
def Step.Unsent (step : Step) : Prop :=
  ∀ sql reply, .answered (.database (.execute sql)) reply ∉ step.events

/-- The request is for a page that has a statement, but whose number cannot be written. -/
def Step.AsksUnwritable (step : Step) : Prop :=
  ∃ direction current sql, step.request.turn? = some direction ∧ step.before = some current ∧
    current.isReadOnly = true ∧ (current.step direction).statement = .ok sql ∧
    ¬ Numeral.IsWritable (current.step direction).page

/-- **The pages that cannot be named.** There is one: with pages of one row, that whose number has one
digit more than can be written. The rows before it are one less. -/
theorem Step.asksUnwritable_iff {current : Plan} (hbefore : step.before = some current)
    (hpage : 1 ≤ current.page) (hlimit : 1 ≤ current.limit) :
    step.AsksUnwritable ↔ current.isReadOnly = true ∧ current.tables ≠ [] ∧ current.limit = 1 ∧
      ∃ direction, step.request.turn? = some direction ∧
        Navigation.target current.page direction = Numeral.unwritable := by
  have hunnamed (direction : Navigation) (hread : current.isReadOnly = true) :
      ((∃ sql, (current.step direction).statement = .ok sql) ∧
        ¬ Numeral.IsWritable (current.step direction).page) ↔ current.tables ≠ [] ∧
          current.limit = 1 ∧
          Navigation.target current.page direction = Numeral.unwritable := by
    have hfirst : 1 ≤ (current.step direction).page := by
      rw [Plan.step_page]
      exact Navigation.one_le_target hpage direction
    rw [Plan.exists_statement_iff (by simpa using hread), and_assoc,
      Plan.writable_but_unnamed_iff hfirst (by simpa using hlimit), Plan.step_limit, Plan.step_page,
      Plan.step_eq]
    rfl
  constructor
  · rintro ⟨direction, _, sql, hturn, heq, hread, hsql, hpage⟩
    obtain rfl : current = _ := Option.some.inj (hbefore.symm.trans heq)
    obtain ⟨htables, hone, hlast⟩ := (hunnamed direction hread).1 ⟨⟨sql, hsql⟩, hpage⟩
    exact ⟨hread, htables, hone, direction, hturn, hlast⟩
  · rintro ⟨hread, htables, hone, direction, hturn, hlast⟩
    obtain ⟨⟨sql, hsql⟩, hpage⟩ := (hunnamed direction hread).2 ⟨htables, hone, hlast⟩
    exact ⟨direction, current, sql, hturn, hbefore, hread, hsql, hpage⟩

/-! ## Requests that fail -/

/-- A question that fails without a statement changes nothing. -/
theorem question_fails {retained after : Retained} {table question : String} {f : Failure}
    {es : List (Event Session.interface)}
    (h : (s.planAndAccept retained table question).Trace es (.error f, after))
    (hunsent : ∀ sql reply, .answered (.database (.execute sql)) reply ∉ es) :
    DataFree es ∧ after = retained := by
  obtain ⟨early, rest, reply, rfl, hreply, hsettles⟩ := planAndAccept_trace h
  obtain ⟨hfree, -⟩ := replyFor_trace hreply
  cases hsettles with
  | unanswered f => exact ⟨by simpa using hfree, rfl⟩
  | rejected _ hnotes => exact ⟨dataFree_append.2 ⟨hfree, dataFree_of_callFree hnotes⟩, rfl⟩
  | accepted hplan haccept hnotes =>
    rcases Retained.accept_trace haccept with
      ⟨hcalls, hkept, -⟩ | ⟨summary, sql, -, hhere, hor, -, hcarry⟩
    · refine ⟨dataFree_append.2 ⟨hfree, dataFree_append.2 ⟨?_, dataFree_of_callFree hnotes⟩⟩, hkept⟩
      exact dataFree_liftDatabase_of_callFree hcalls
    · -- The plan has a statement, so that it fails only once that is sent.
      obtain ⟨-, ⟨hother, -⟩ | ⟨-, sql', rfl, hsql⟩⟩ := planOf_eq_ok hplan
      · rw [hhere] at hother
        cases hother
      rw [statementOr_of_statement hsql] at hor
      cases hor
      obtain ⟨reply, hsent⟩ := Plan.carryOut_fails hsql hcarry
      refine absurd ?_ (hunsent sql reply)
      refine List.mem_append_right _ (List.mem_append_left _ ?_)
      exact answered_mem_map_liftDatabase.2 hsent

/-- A request for another page that fails without a statement changes nothing, unless it is for the
page that cannot be named. -/
theorem turn_fails {direction : Navigation} (hstep : step.Possible s)
    (hturn : step.request.turn? = some direction) (hunsent : step.Unsent) :
    DataFree step.events ∧ (step.after = step.before ↔ ¬ step.AsksUnwritable) := by
  unfold Step.Possible at hstep
  rw [answer_of_turn hturn] at hstep
  obtain ⟨ds, hds, hevents⟩ := onDatabase_trace_iff.1 hstep
  rcases Retained.navigate_trace hds with
    ⟨rfl, hkept, -⟩ | ⟨current, sql, hbefore, hread, hsql, hafter, hshow⟩
  · refine ⟨by simp [hevents], iff_of_true hkept ?_⟩
    rintro ⟨direction', current, sql, hturn', hbefore, hread, hsql, hpage⟩
    obtain rfl : direction = direction' := Option.some.inj (hturn.symm.trans hturn')
    rw [hbefore, Retained.navigate_of_unwritable hread hsql hpage] at hds
    have hmoved := (Prod.mk.inj (Program.trace_done_iff.1 hds).2).2
    rw [hkept, hbefore] at hmoved
    exact Plan.step_ne_self hpage (Option.some.inj hmoved).symm
  · have hpage : ¬ Numeral.IsWritable (current.step direction).page := by
      intro hpage
      obtain ⟨-, hwindow⟩ := (Plan.exists_statement_iff (by simpa using hread)).1 ⟨sql, hsql⟩
      obtain ⟨reply, hsent⟩ := Retained.showPage_sends hwindow.limit hpage hshow
      apply hunsent sql reply
      rw [hevents]
      exact answered_mem_map_liftDatabase.2 hsent
    rw [Retained.showPage_of_unwritable hpage] at hshow
    obtain ⟨rfl, -⟩ := Program.trace_done_iff.1 hshow
    refine ⟨by simp [hevents], iff_of_false ?_ ?_⟩
    · intro hkept
      rw [hafter, hbefore] at hkept
      exact Plan.step_ne_self hpage (Option.some.inj hkept)
    · exact not_not_intro ⟨direction, current, sql, hturn, hbefore, hread, hsql, hpage⟩

/-- A request that fails without a statement keeps the retained plan, unless it is for the page that
cannot be named. -/
theorem Step.Possible.fails {f : Failure} (hstep : step.Possible s) (hfailed : step.result = .error f)
    (hunsent : step.Unsent) :
    DataFree step.events ∧ (step.after = step.before ↔ ¬ step.AsksUnwritable) := by
  cases hturn : step.request.turn? with
  | some direction => exact turn_fails hstep hturn hunsent
  | none =>
    have hquestion : DataFree step.events ∧ step.after = step.before := by
      unfold Step.Possible at hstep
      rw [hfailed] at hstep
      cases hrequest : step.request with
      | navigate direction =>
        rw [hrequest] at hturn
        cases hturn
      | ask table question =>
        rw [hrequest] at hstep hturn
        change Navigation.ofRequest? question = none at hturn
        simp only [answer, ask, hturn] at hstep
        exact question_fails hstep hunsent
    refine ⟨hquestion.1, iff_of_true hquestion.2 ?_⟩
    rintro ⟨direction, _, _, hturn', -⟩
    rw [hturn] at hturn'
    cases hturn'

/-- **Requests that fail without a statement.** Such a request sends no statement at all, not even a
count. It keeps the retained plan, and so leaves all later requests as they would be without it,
unless it is for the page that cannot be named: that whose number is one too large to be written, with
pages of one row. -/
theorem failures_leave_no_trace (s : Session) (step : Step) (hstep : step.Possible s) (f : Failure)
    (hfailed : step.result = .error f) (hunsent : step.Unsent) :
    DataFree step.events ∧ (step.after = step.before ↔ ¬ step.AsksUnwritable) ∧
      (¬ step.AsksUnwritable → ∀ {σ : Type} (world : World Session.interface σ) (st : σ)
        (requests : List Request),
          s.steps world step.after st requests = s.steps world step.before st requests) ∧
      ∀ current, step.before = some current → 1 ≤ current.page → 1 ≤ current.limit →
        (step.AsksUnwritable ↔ current.isReadOnly = true ∧ current.tables ≠ [] ∧ current.limit = 1 ∧
          ∃ direction, step.request.turn? = some direction ∧
            Navigation.target current.page direction = Numeral.unwritable) := by
  obtain ⟨hfree, hkeeps⟩ := hstep.fails hfailed hunsent
  refine ⟨hfree, hkeeps, fun hnot _ world st requests => ?_, ?_⟩
  · rw [hkeeps.2 hnot]
  · intro current hbefore hpage hlimit
    exact step.asksUnwritable_iff hbefore hpage hlimit

/-- A plan that is held for review. -/
def heldPlan : Plan := { samplePlan with action := .delete }

/-- A plan that is held for review cannot be paged through. It stays as it is. -/
theorem failures_leave_no_trace_held :
    ∃ step f, sample.steps sampleWorld (some heldPlan) () [.navigate .next] = [step] ∧
      step.result = .error f ∧ step.Unsent ∧ DataFree step.events ∧ step.after = some heldPlan ∧
      ∀ requests, sample.steps sampleWorld step.after () requests =
        sample.steps sampleWorld (some heldPlan) () requests := by
  let refusal := Failure.plan (Plan.Violation.notPaginable .delete).toPlanError
  let step : Step := ⟨.navigate .next, some heldPlan, [], .error refusal, some heldPlan⟩
  have hrun : sample.steps sampleWorld (some heldPlan) () [.navigate .next] = [step] := rfl
  have hpossible : step.Possible sample := possible_of_mem_steps (hrun ▸ List.mem_singleton_self step)
  have hunsent : step.Unsent := fun _ _ hmem => nomatch hmem
  have hnamed : ¬ step.AsksUnwritable := by
    rintro ⟨_, _, _, -, hbefore, hread, -⟩
    cases hbefore
    exact absurd hread (by decide)
  obtain ⟨hfree, hkeeps, hlater, -⟩ :=
    failures_leave_no_trace sample step hpossible refusal rfl hunsent
  exact ⟨step, refusal, hrun, rfl, hunsent, hfree, hkeeps.2 hnamed, hlater hnamed sampleWorld ()⟩

/-! ## The page that cannot be named -/

/-- Where nothing fails, a page that can be named is shown. -/
theorem showPage_run {p : Plan} (sql : String) (hlimit : Numeral.IsWritable p.limit)
    (hpage : Numeral.IsWritable p.page) :
    ∃ o, ((onDatabase (Retained.showPage p sql)).run sampleWorld ()).value = .ok o ∧ o.plan = p := by
  obtain ⟨summary, hsummary⟩ := Plan.exists_summary hlimit hpage
  unfold Retained.showPage
  rw [Numeral.write?_eq_ok hpage]
  simp only [hsummary]
  unfold Plan.execute Plan.countAll
  cases hcount : p.countStatement? with
  | none => exact ⟨_, rfl, rfl⟩
  | some count => exact ⟨_, rfl, rfl⟩

theorem navigate_run {current : Plan} (direction : Navigation) (hread : current.isReadOnly = true)
    (htables : current.tables ≠ []) (hwindow : (current.step direction).WritableWindow)
    (hpage : Numeral.IsWritable (current.step direction).page) :
    ∃ o, ((Session.navigate (some current) direction).run sampleWorld ()).value.1 = .ok o ∧
      o.plan = current.step direction := by
  have hstep : (current.step direction).tables ≠ [] := by rwa [Plan.step_tables]
  obtain ⟨sql, hsql⟩ := (Plan.exists_statement_iff (by simpa using hread)).2 ⟨hstep, hwindow⟩
  obtain ⟨o, hrun, hplan⟩ := showPage_run sql hwindow.limit hpage
  refine ⟨o, ?_, hplan⟩
  unfold Session.navigate
  rw [Retained.navigate_of_statement hread hsql]
  unfold onDatabase at hrun ⊢
  rw [Program.interpret_bind, Program.run_bind]
  simp only [hrun, Program.interpret_done, Program.run_done]

-- What follows is said of any plan at that page: of one plan it would evaluate a number of 4300 digits.
/-- The plan is at the last page that can be named, with pages of one row. -/
structure LastNamed (p : Plan) : Prop where
  reads : p.isReadOnly = true
  tables : p.tables ≠ []
  limit : p.limit = 1
  page : p.page = Numeral.unwritable - 1

namespace LastNamed

variable {p : Plan}

theorem step_page (h : LastNamed p) :
    (p.step .next).page = Numeral.unwritable ∧
      ((p.step .next).step .previous).page = Numeral.unwritable - 1 ∧
      (p.step .previous).page = Numeral.unwritable - 2 := by
  have hbound := Numeral.three_le_unwritable
  have hpage := h.page
  simp only [Plan.step_page, Navigation.target]
  omega

theorem unnamed (h : LastNamed p) : ¬ Numeral.IsWritable (p.step .next).page := by
  have hbound := Numeral.three_le_unwritable
  rw [h.step_page.1, Numeral.isWritable_iff (by omega)]
  omega

theorem selects (h : LastNamed p) : (p.step .next).isReadOnly = true ∧ (p.step .next).tables ≠ [] := by
  rw [Plan.step_isReadOnly, Plan.step_tables]
  exact ⟨h.reads, h.tables⟩

/-- The next page has a statement. -/
theorem exists_statement (h : LastNamed p) : ∃ sql, (p.step .next).statement = .ok sql := by
  obtain ⟨hread, htables⟩ := h.selects
  refine (Plan.exists_statement_iff hread).2 ⟨htables, ?_⟩
  apply Plan.writableWindow_of_limit
  · rw [Plan.step_limit, h.limit]
  · exact Int.le_of_eq h.step_page.1

/-- So it is retained. -/
theorem navigate_next (h : LastNamed p) : Retained.navigate (some p) .next =
    .done (.error (.ofNumeral .tooLongToWrite), some (p.step .next)) := by
  obtain ⟨sql, hsql⟩ := h.exists_statement
  exact Retained.navigate_of_unwritable h.reads hsql h.unnamed

theorem lost (h : LastNamed p) : (Session.navigate (some p) .next).run sampleWorld () =
    ⟨(.error (.ofNumeral .tooLongToWrite), some (p.step .next)), [], ()⟩ := by
  unfold Session.navigate
  rw [h.navigate_next]
  rfl

/-- From there the next page cannot be named, and is retained all the same. A step back then shows the
last page that can be named; without the failed request it shows the one before. -/
theorem turned (h : LastNamed p) :
    ∃ lost later alone shown expected,
      sample.steps sampleWorld (some p) () [.navigate .next, .navigate .previous] = [lost, later] ∧
      sample.steps sampleWorld (some p) () [.navigate .previous] = [alone] ∧
      (∃ f, lost.result = .error f) ∧ lost.events = [] ∧ lost.after ≠ lost.before ∧
      later.result = .ok shown ∧ alone.result = .ok expected ∧
      shown.plan.page = expected.plan.page + 1 := by
  have hbound := Numeral.three_le_unwritable
  obtain ⟨-, hlater, halone⟩ := h.step_page
  obtain ⟨hread, htables⟩ := h.selects
  have hone (direction : Navigation) : (p.step direction).limit = 1 := by
    rw [Plan.step_limit, h.limit]
  obtain ⟨shown, hshown, hshownPlan⟩ := navigate_run .previous hread htables
    (Plan.writableWindow_of_limit (by rw [Plan.step_limit, hone]) (by omega))
    ((Numeral.isWritable_iff (by omega)).2 (by omega))
  obtain ⟨expected, hexpected, hexpectedPlan⟩ := navigate_run .previous h.reads h.tables
    (Plan.writableWindow_of_limit (hone .previous) (by omega))
    ((Numeral.isWritable_iff (by omega)).2 (by omega))
  simp only [steps, answer, h.lost]
  refine ⟨_, _, _, shown, expected, rfl, rfl, ⟨_, rfl⟩, rfl, ?_, hshown, hexpected, ?_⟩
  · intro heq
    exact Plan.step_ne_self h.unnamed (Option.some.inj heq)
  · rw [hshownPlan, hexpectedPlan]
    omega

end LastNamed

/-- The last page of a table that can be named. -/
def lastRow : Plan :=
  { Plan.empty with tables := ["t"], limit := 1, page := Numeral.unwritable - 1 }

/-- **A page that cannot be named is retained.** The request fails before anything is sent, but the
retained plan is another, and so is the page that a later request shows. -/
theorem unwritable_page_is_retained :
    ∃ lost later alone shown expected,
      sample.steps sampleWorld (some lastRow) () [.navigate .next, .navigate .previous] =
        [lost, later] ∧
      sample.steps sampleWorld (some lastRow) () [.navigate .previous] = [alone] ∧
      (∃ f, lost.result = .error f) ∧ lost.events = [] ∧ lost.after ≠ lost.before ∧
      later.result = .ok shown ∧ alone.result = .ok expected ∧
      shown.plan.page = expected.plan.page + 1 := by
  have hlast : LastNamed lastRow := ⟨rfl, List.cons_ne_nil _ _, rfl, rfl⟩
  exact hlast.turned

end Session

end QueryPlans
