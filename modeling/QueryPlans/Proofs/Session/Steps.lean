import QueryPlans.Proofs.Session.Calls

/-!
# Sessions step by step

A session answers one request after another.  Its state is the retained plan; the catalogue, the
rows, the counts and the replies of the model come from a world that may answer, or fail, as it
likes.

* `Session.Request` — a question about a table, or a request for another page.
* `Session.Step` — a request with the plan retained before and after it, what happened, and how it
  ended.
* `Session.steps` — the steps of a run.
* `Step.Proposes`, `Step.Accepts` — the plan that the model replied with, and such a plan that is to be
  carried out: it needs no other tables, and has a statement and a summary.

Principal results: `Step.Possible.effect` — all that a step can do; `steps_invariant` — what every
step keeps, a whole run keeps.
-/

namespace QueryPlans.Session

variable {σ : Type}

/-- A request to a session. -/
inductive Request where
  | ask (table question : String)
  | navigate (direction : Navigation)
  deriving DecidableEq, Repr

/-- The direction of a request for another page. -/
def Request.turn? : Request → Option Navigation
  | ask _ question => Navigation.ofRequest? question
  | navigate direction => some direction

/-- Answer a request. -/
def answer (s : Session) (retained : Retained) :
    Request → SessionProgram (Except Failure Outcome × Retained)
  | .ask table question => s.ask retained table question
  | .navigate direction => Session.navigate retained direction

/-- A request with what was done for it. -/
structure Step where
  request : Request
  before : Retained
  events : List (Event Session.interface)
  result : Except Failure Outcome
  after : Retained

/-- The steps of a run: each request is answered where the one before it ended. -/
def steps (s : Session) (world : World Session.interface σ) :
    Retained → σ → List Request → List Step
  | _, _, [] => []
  | retained, st, request :: rest =>
    let r := (s.answer retained request).run world st
    ⟨request, retained, r.events, r.value.1, r.value.2⟩ :: steps s world r.value.2 r.state rest

namespace Step

/-- The step is one that the session may make, however its calls are answered. -/
def Possible (s : Session) (step : Step) : Prop :=
  (s.answer step.before step.request).Trace step.events (step.result, step.after)

/-- The model replied with the plan. -/
def Proposes (s : Session) (step : Step) (p : Plan) : Prop :=
  ∃ request response, .answered (.model (.generate request)) (.ok response) ∈ step.events ∧
    s.readPlan response.content = .ok p

/-- The model replied with the plan, and it is to be carried out. -/
structure Accepts (s : Session) (step : Step) (p : Plan) : Prop where
  proposed : step.Proposes s p
  here : p.needOtherTables = false
  statement : ∃ sql, p.statement = .ok sql
  summary : ∃ summary, p.summary = .ok summary

/-- All that a step can do. -/
inductive Effect (s : Session) (step : Step) : Prop
  /-- No statement is sent and the retained plan stays. -/
  | idle (free : DataFree step.events) (kept : step.after = step.before)
      (result : ∀ o, step.result = .ok o → o.isExecuted = false)
      (refused : ∀ p, ¬ step.Accepts s p)
  /-- The plan of the model is retained and carried out. -/
  | accepted (p : Plan) (sql summary : String) (accepts : step.Accepts s p)
      (only : ∀ q, step.Proposes s q → q = p) (statement : p.statement = .ok sql)
      (retained : step.after = some p) (early : List (Event Session.interface))
      (free : DataFree early) (ds : List (Event Database.interface))
      (notes : List (Event Session.interface)) (silent : CallFree notes)
      (events : step.events = early ++ ds.map liftDatabase ++ notes)
      (carried : (p.carryOut sql summary).Trace ds step.result)
  /-- The retained plan is shown at another page. -/
  | turned (current : Plan) (direction : Navigation) (sql : String)
      (unproposed : ∀ q, ¬ step.Proposes s q) (retained : step.before = some current)
      (reads : current.isReadOnly = true) (statement : (current.step direction).statement = .ok sql)
      (moved : step.after = some (current.step direction)) (ds : List (Event Database.interface))
      (events : step.events = ds.map liftDatabase)
      (shown : (Retained.showPage (current.step direction) sql).Trace ds step.result)

end Step

/-! ## Plans of replies -/

/-- The plan of a reply comes with its statement, unless it needs other tables. -/
theorem planOf_eq_ok {s : Session} {reply : String} {p : Plan} {sql? : Option String}
    (h : s.planOf reply = .ok (p, sql?)) :
    s.readPlan reply = .ok p ∧
      ((p.needOtherTables = true ∧ sql? = none) ∨
        (p.needOtherTables = false ∧ ∃ sql, sql? = some sql ∧ p.statement = .ok sql)) := by
  unfold planOf at h
  cases hread : s.readPlan reply with
  | error f => rw [hread] at h; cases h
  | ok q =>
    rw [hread] at h
    change (if q.needOtherTables = true then _ else _) = _ at h
    split at h
    · rename_i hother
      cases h
      exact ⟨rfl, .inl ⟨hother, rfl⟩⟩
    · rename_i hother
      cases hsql : q.statement with
      | error e => rw [hsql] at h; cases h
      | ok sql =>
        rw [hsql] at h
        cases h
        exact ⟨rfl, .inr ⟨by simpa using hother, sql, rfl, hsql⟩⟩

/-- A reply without a usable plan holds none that has a statement. -/
theorem planOf_eq_error {s : Session} {reply : String} {f : Failure} (h : s.planOf reply = .error f)
    {p : Plan} (hread : s.readPlan reply = .ok p) : ∀ sql, p.statement ≠ .ok sql := by
  intro sql hsql
  unfold planOf at h
  rw [hread] at h
  change (if p.needOtherTables = true then _ else _) = _ at h
  split at h
  · cases h
  · rw [hsql] at h
    cases h

/-- The statement of a plan is used whether it is given or not. -/
theorem statementOr_of_statement {p : Plan} {sql : String} (h : p.statement = .ok sql) :
    p.statementOr (some sql) = .ok sql := by
  unfold Plan.statementOr
  by_cases hsql : sql = "" <;> simp [Option.filter, hsql, h]

/-! ## All that a step can do -/

theorem not_proposes_of_database {s : Session} {step : Step} {ds : List (Event Database.interface)}
    (h : step.events = ds.map liftDatabase) (p : Plan) : ¬ step.Proposes s p := by
  rintro ⟨request, response, hmem, -⟩
  rw [h] at hmem
  exact model_not_mem_map_liftDatabase hmem

/-- Every request for another page is answered in one way. -/
theorem answer_of_turn {s : Session} {retained : Retained} {request : Request}
    {direction : Navigation} (h : request.turn? = some direction) :
    s.answer retained request = Session.navigate retained direction := by
  cases request with
  | navigate d =>
    cases h
    rfl
  | ask table question =>
    change Navigation.ofRequest? question = some direction at h
    simp only [answer, ask, h]

theorem turn_effect {s : Session} {step : Step} {direction : Navigation}
    (h : (Session.navigate step.before direction).Trace step.events (step.result, step.after)) :
    step.Effect s := by
  obtain ⟨ds, hds, hevents⟩ := onDatabase_trace_iff.1 h
  have hnone := not_proposes_of_database (s := s) hevents
  rcases Retained.navigate_trace hds with
    ⟨rfl, hkept, f, hresult⟩ | ⟨current, sql, hbefore, hread, hsql, hafter, hshow⟩
  · exact .idle (by simp [hevents]) hkept (fun o ho => by rw [hresult] at ho; cases ho)
      (fun p hp => hnone p hp.proposed)
  · exact .turned current direction sql hnone hbefore hread hsql hafter ds hevents hshow

/-- The model replies with plans only where it is asked, before anything is sent to the database. -/
theorem proposes_iff {s : Session} {step : Step} {reply : Except Failure String}
    {early rest : List (Event Session.interface)}
    (hmodel : ∀ text, reply = .ok text ↔ ∃ request response,
      .answered (.model (.generate request)) (.ok response) ∈ early ∧ response.content = text)
    (hevents : step.events = early ++ rest)
    (hrest : ∀ c r, .answered (.model c) r ∉ rest) (p : Plan) :
    step.Proposes s p ↔ ∃ text, reply = .ok text ∧ s.readPlan text = .ok p := by
  constructor
  · rintro ⟨request, response, hmem, hp⟩
    rw [hevents, List.mem_append] at hmem
    rcases hmem with hmem | hmem
    · exact ⟨response.content, (hmodel _).2 ⟨request, response, hmem, rfl⟩, hp⟩
    · exact absurd hmem (hrest _ _)
  · rintro ⟨text, htext, hp⟩
    obtain ⟨request, response, hmem, rfl⟩ := (hmodel text).1 htext
    refine ⟨request, response, ?_, hp⟩
    rw [hevents]
    exact List.mem_append_left _ hmem

theorem failed_effect {s : Session} {step : Step} {f : Failure} (hfree : DataFree step.events)
    (hend : (step.result, step.after) = (.error f, step.before))
    (hnone : ∀ p, ¬ step.Accepts s p) : step.Effect s := by
  obtain ⟨hresult, hkept⟩ := Prod.mk.inj hend
  refine .idle hfree hkept (fun o ho => ?_) hnone
  rw [hresult] at ho
  cases ho

theorem plan_effect {s : Session} {step : Step} {p : Plan} {sql? : Option String}
    {early notes : List (Event Session.interface)} {ds : List (Event Database.interface)}
    (hproposes : ∀ q, step.Proposes s q ↔ q = p)
    (hsql : (p.needOtherTables = true ∧ sql? = none) ∨
      (p.needOtherTables = false ∧ ∃ sql, sql? = some sql ∧ p.statement = .ok sql))
    (hfree : DataFree early) (hnotes : CallFree notes)
    (hevents : step.events = early ++ ds.map liftDatabase ++ notes)
    (haccept : (step.before.accept p sql?).Trace ds (step.result, step.after)) :
    step.Effect s := by
  rcases Retained.accept_trace haccept with
    ⟨hcalls, hkept, hwhy⟩ | ⟨summary, sql, hsum, hhere, hor, hafter, hcarry⟩
  · have hdata : DataFree step.events := by
      rw [hevents, dataFree_append, dataFree_append]
      exact ⟨⟨hfree, dataFree_liftDatabase_of_callFree hcalls⟩, dataFree_of_callFree hnotes⟩
    refine .idle hdata hkept (fun o ho => ?_) fun q hq => ?_
    · rcases hwhy with ⟨e, -, hr⟩ | ⟨summary, -, hr⟩ | ⟨e, -, hr⟩
      · rw [hr] at ho
        cases ho
      · rw [hr] at ho
        cases ho
        rfl
      · rw [hr] at ho
        cases ho
    · obtain rfl := (hproposes q).1 hq.proposed
      rcases hwhy with ⟨e, hsum, -⟩ | ⟨summary, hother, -⟩ | ⟨e, hor, -⟩
      · obtain ⟨summary, hsummary⟩ := hq.summary
        rw [hsum] at hsummary
        cases hsummary
      · rw [hq.here] at hother
        cases hother
      · rcases hsql with ⟨hother, -⟩ | ⟨-, sql, rfl, hstatement⟩
        · rw [hq.here] at hother
          cases hother
        · rw [statementOr_of_statement hstatement] at hor
          cases hor
  · rcases hsql with ⟨hother, -⟩ | ⟨-, _, rfl, hstatement⟩
    · rw [hhere] at hother
      cases hother
    · rw [statementOr_of_statement hstatement] at hor
      cases hor
      exact .accepted p sql summary ⟨(hproposes p).2 rfl, hhere, ⟨_, hstatement⟩, ⟨_, hsum⟩⟩
        (fun q hq => (hproposes q).1 hq) hstatement hafter early hfree ds notes hnotes
        hevents hcarry

theorem question_effect {s : Session} {step : Step} {table question : String}
    (h : (s.planAndAccept step.before table question).Trace step.events (step.result, step.after)) :
    step.Effect s := by
  obtain ⟨early, rest, reply, hevents, hreply, hsettles⟩ := planAndAccept_trace h
  obtain ⟨hfree, hmodel⟩ := replyFor_trace hreply
  generalize hresult : step.result = result at hsettles
  generalize hafter : step.after = after at hsettles
  cases hsettles with
  | unanswered f =>
    refine failed_effect (by simpa [hevents] using hfree) (by rw [hresult, hafter]) fun p hp => ?_
    obtain ⟨text, htext, -⟩ := (proposes_iff hmodel hevents (by simp) p).1 hp.proposed
    cases htext
  | rejected hplan hnotes =>
    have hdata : DataFree step.events :=
      hevents ▸ dataFree_append.2 ⟨hfree, dataFree_of_callFree hnotes⟩
    refine failed_effect hdata (by rw [hresult, hafter]) fun p hp => ?_
    obtain ⟨_, htext, hread⟩ :=
      (proposes_iff hmodel hevents (fun c r => hnotes.not_mem _ _) p).1 hp.proposed
    cases htext
    obtain ⟨sql, hsql⟩ := hp.statement
    exact planOf_eq_error hplan hread sql hsql
  | @accepted text p sql? ds notes _ _ hplan haccept hnotes =>
    obtain ⟨hread, hsql⟩ := planOf_eq_ok hplan
    have hquiet (c : Chat.Call) (r : Except Fault c.Value) :
        .answered (.model c) r ∉ ds.map liftDatabase ++ notes := by
      rw [List.mem_append, not_or]
      exact ⟨model_not_mem_map_liftDatabase, hnotes.not_mem (.model c) r⟩
    rw [← hresult, ← hafter] at haccept
    refine plan_effect (fun q => ?_) hsql hfree hnotes (by rw [hevents, List.append_assoc]) haccept
    rw [proposes_iff hmodel hevents hquiet]
    constructor
    · rintro ⟨_, htext, hq⟩
      cases htext
      rw [hread] at hq
      cases hq
      rfl
    · rintro rfl
      exact ⟨text, rfl, hread⟩

theorem Step.Possible.effect {s : Session} {step : Step} (h : step.Possible s) : step.Effect s := by
  unfold Step.Possible at h
  cases hturn : step.request.turn? with
  | some direction =>
    rw [answer_of_turn hturn] at h
    exact turn_effect h
  | none =>
    cases hreq : step.request with
    | navigate direction => rw [hreq] at hturn; cases hturn
    | ask table question =>
      rw [hreq] at hturn h
      change Navigation.ofRequest? question = none at hturn
      simp only [answer, ask, hturn] at h
      exact question_effect h

/-- A request for another page is answered without the model. -/
theorem not_proposes_of_turn {s : Session} {step : Step} {direction : Navigation}
    (h : step.Possible s) (hturn : step.request.turn? = some direction) (p : Plan) :
    ¬ step.Proposes s p := by
  unfold Step.Possible at h
  rw [answer_of_turn hturn] at h
  obtain ⟨ds, -, hevents⟩ := onDatabase_trace_iff.1 h
  exact not_proposes_of_database hevents p

/-! ## Runs -/

theorem possible_of_mem_steps {s : Session} {world : World Session.interface σ} {step : Step}
    {requests : List Request} {retained : Retained} {st : σ}
    (h : step ∈ s.steps world retained st requests) : step.Possible s := by
  induction requests generalizing retained st with
  | nil => cases h
  | cons request rest ih =>
    rw [steps] at h
    rcases List.mem_cons.1 h with rfl | h
    · exact Program.run_trace world (s.answer retained request) st
    · exact ih h

/-- What every step keeps, a whole run keeps. -/
theorem steps_induction {s : Session} {world : World Session.interface σ}
    {P : List Step → Retained → Prop}
    (hstep : ∀ past step, step.Possible s → P past step.before → P (past ++ [step]) step.after) :
    ∀ (requests : List Request) {past : List Step} {retained : Retained} {st : σ},
      P past retained → ∀ {before step after},
        s.steps world retained st requests = before ++ step :: after →
          step.Possible s ∧ P (past ++ before) step.before ∧ P (past ++ before ++ [step]) step.after
  | [], _, _, _, _, before, step, after, heq => by
    rw [steps] at heq
    simp at heq
  | request :: rest, past, retained, st, hpast, before, step, after, heq => by
    rw [steps] at heq
    have hfirst : Step.Possible s ⟨request, retained, _, _, _⟩ :=
      Program.run_trace world (s.answer retained request) st
    cases before with
    | nil =>
      simp only [List.nil_append, List.cons.injEq] at heq
      obtain ⟨rfl, -⟩ := heq
      rw [List.append_nil]
      exact ⟨hfirst, hpast, hstep past _ hfirst hpast⟩
    | cons first before =>
      simp only [List.cons_append, List.cons.injEq] at heq
      obtain ⟨rfl, heq⟩ := heq
      have := steps_induction hstep rest (hstep past _ hfirst hpast) heq
      simpa using this

/-- An invariant of a session that starts without a retained plan. It may speak of the steps so
far. -/
theorem steps_invariant {s : Session} {world : World Session.interface σ} {st : σ}
    {requests : List Request} {before after : List Step} {step : Step}
    {P : List Step → Retained → Prop} (hstart : P [] none)
    (hstep : ∀ past step, step.Possible s → P past step.before → P (past ++ [step]) step.after)
    (h : s.steps world none st requests = before ++ step :: after) :
    step.Possible s ∧ P before step.before ∧ P (before ++ [step]) step.after := by
  simpa using steps_induction hstep requests hstart h

end QueryPlans.Session
