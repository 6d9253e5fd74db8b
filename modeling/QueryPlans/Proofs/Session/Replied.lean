import QueryPlans.Proofs.Database.Counting
import QueryPlans.Proofs.Plan.Decided
import QueryPlans.Proofs.Session.Answered

/-!
# A session after the reply of the model

Once the model has replied, a session with the default settings either fails for want of a plan and its
statement, or accepts the plan as it was read.

* `Session.dataCalls` — the statements that a session sends.
* `Session.Replied` — a run in which the model replies, the rows come and the count tells a total.

Principal results: `ask_of_reply` — what a session does with a reply; `readPlan_default` — the default
settings change no plan; `asks_model` — a question about a table that can be described is put to the model;
`Replied.fails`, `Replied.accepts`, `Replied.carriesOut` — what a session does then.
-/

namespace QueryPlans.Session

variable {reply sql summary table question : String} {p : Plan} {s : Session}
  {retained after : Retained} {es : List (Event Session.interface)}
  {ds : List (Event Database.interface)} {result : Except Failure Outcome}
  {request : Chat.Request} {response : Chat.Response} {σ : Type}

/-- The call, if it sends a statement. -/
def dataCall? : Session.Call → Option Database.Call
  | .database c => if c.isData then some c else none
  | .model _ => none

/-- The statements among events. -/
def dataCalls (es : List (Event Session.interface)) : List Database.Call :=
  (sent es).filterMap dataCall?

theorem dataCalls_append (es es' : List (Event Session.interface)) :
    dataCalls (es ++ es') = dataCalls es ++ dataCalls es' := by
  unfold dataCalls
  rw [sent_append]
  exact List.filterMap_append

theorem dataCalls_of_dataFree (h : DataFree es) : dataCalls es = [] := by
  refine List.filterMap_eq_nil_iff.2 fun c hc => ?_
  obtain ⟨r, hmem⟩ := exists_of_mem_sent hc
  cases c with
  | database c => exact if_neg (by rw [h c r hmem]; decide)
  | model c => rfl

/-! ## The reply -/

/-- Once the model has replied, the reply has no usable plan, or the plan is accepted. -/
theorem ask_of_reply (h : (s.ask retained table question).Trace es (result, after))
    (hquestion : Navigation.ofRequest? question = none)
    (hreply : .answered (.model (.generate request)) (.ok response) ∈ es) :
    (∃ f, s.planOf response.content = .error f ∧ DataFree es ∧ result = .error f) ∨
      ∃ p sql? early ds notes, s.planOf response.content = .ok (p, sql?) ∧ DataFree early ∧
        CallFree notes ∧ es = early ++ (ds.map liftDatabase ++ notes) ∧
        (retained.accept p sql?).Trace ds (result, after) := by
  unfold ask at h
  rw [hquestion] at h
  obtain ⟨early, rest, reply, rfl, hmodel, hsettles⟩ := planAndAccept_trace h
  obtain ⟨hfree, htext⟩ := replyFor_trace hmodel
  have hcontent (hearly : .answered (.model (.generate request)) (.ok response) ∈ early) :
      reply = .ok response.content := (htext _).2 ⟨request, response, hearly, rfl⟩
  cases hsettles with
  | unanswered f =>
    rw [List.append_nil] at hreply
    cases hcontent hreply
  | @rejected _ f _ hplan hnotes =>
    cases hcontent ((List.mem_append.1 hreply).resolve_right (hnotes.not_mem _ _))
    exact .inl ⟨f, hplan, dataFree_append.2 ⟨hfree, dataFree_of_callFree hnotes⟩, rfl⟩
  | @accepted _ p sql? ds notes _ _ hplan haccept hnotes =>
    have hlate : .answered (.model (.generate request)) (.ok response) ∉ ds.map liftDatabase ++ notes := by
      rw [List.mem_append, not_or]
      exact ⟨model_not_mem_map_liftDatabase, hnotes.not_mem (.model _) _⟩
    cases hcontent ((List.mem_append.1 hreply).resolve_right hlate)
    exact .inr ⟨p, sql?, early, ds, notes, hplan, hfree, hnotes, rfl, haccept⟩

/-- The default settings leave the page size of a plan that was read as it is. -/
theorem applyTo_default {fields : Json.Fields} (h : p.ReadFrom fields) :
    ({} : PlannerSettings).applyTo p = p := by
  refine if_pos ?_
  unfold PlannerSettings.limitFor
  by_cases hgiven : p.isGiven .limit = true
  · exact if_pos hgiven
  · -- A page size that was not given is the default.
    have habsent : fields.get? "limit" = none := by
      rw [Plan.isGiven, h.given, Plan.givenIn, List.contains_iff_mem, List.mem_filter] at hgiven
      simpa [Plan.Field.all, Plan.Field.name] using hgiven
    have hlimit := h.limit
    unfold Reader.optional at hlimit
    rw [habsent] at hlimit
    exact (if_neg hgiven).trans (Checked.valid.inj hlimit)

theorem readPlan_default (hs : s.settings = {}) (hread : Plan.read reply s.host = .ok p) :
    s.readPlan reply = .ok p := by
  obtain ⟨fields, -, hfields⟩ := Plan.exists_fields_of_read hread
  unfold readPlan
  rw [hread, hs]
  exact congrArg Except.ok (applyTo_default hfields)

theorem planOf_unreadable {e : Plan.ReadError} (hread : Plan.read reply s.host = .error e) :
    s.planOf reply = .error (.unreadable e) := by
  unfold planOf readPlan
  rw [hread]
  rfl

theorem planOf_otherTables (hread : s.readPlan reply = .ok p) (hother : p.needOtherTables = true) :
    s.planOf reply = .ok (p, none) := by
  unfold planOf
  rw [hread]
  exact if_pos hother

theorem planOf_here (hread : s.readPlan reply = .ok p) (hhere : p.needOtherTables = false) :
    s.planOf reply = (p.statement.mapError .ofStatement).map fun sql => (p, some sql) := by
  have hhere' : ¬ p.needOtherTables = true := by simp [hhere]
  unfold planOf
  rw [hread]
  refine (if_neg hhere').trans ?_
  cases p.statement <;> rfl

/-! ## Plans that are accepted -/

/-- A plan that needs other tables is handed back without a call. -/
theorem accept_otherTables {sql? : Option String} (hother : p.needOtherTables = true)
    (h : (retained.accept p sql?).Trace ds (result, after)) :
    CallFree ds ∧ result = .ok (.needOtherTables p Plan.needOtherTablesMessage) := by
  unfold Retained.accept at h
  rw [Plan.summary_of_otherTables hother] at h
  simp only [hother, ↓reduceIte] at h
  obtain ⟨rest, rfl, hend⟩ := Program.trace_log_bind_iff.1 h
  obtain ⟨rfl, heq⟩ := Program.trace_done_iff.1 hend
  exact ⟨by simp, (Prod.mk.inj heq).1⟩

/-- A plan with a statement is carried out. -/
theorem accept_here (hnamed : p.summary = .ok summary) (hhere : p.needOtherTables = false)
    (hsql : p.statement = .ok sql) (h : (retained.accept p (some sql)).Trace ds (result, after)) :
    (p.carryOut sql summary).Trace ds result := by
  rcases Retained.accept_trace h with
    ⟨-, -, ⟨e, hunnamed, -⟩ | ⟨_, hother, -⟩ | ⟨e, hunstated, -⟩⟩ |
      ⟨summary', sql', hnamed', -, hsql', -, hcarry⟩
  · rw [hnamed] at hunnamed
    cases hunnamed
  · rw [hhere] at hother
    cases hother
  · rw [statementOr_of_statement hsql] at hunstated
    cases hunstated
  · rw [hnamed] at hnamed'
    rw [statementOr_of_statement hsql] at hsql'
    cases hnamed'
    cases hsql'
    exact hcarry

/-- If the rows come and the answer to the count tells a total, both statements are sent, and the plan is
run. -/
theorem execute_answered {count : String} (hcount : p.countStatement? = some count)
    (hrows : ∀ sent answer, .answered (.execute sent) answer ∈ ds → ∃ rows, answer = .ok rows)
    (htotal : ∀ sent answer, .answered (.fetchValue sent) answer ∈ ds →
      ∃ total, Plan.Tells answer total)
    (h : (p.execute sql summary).Trace ds result) :
    dataCalls (ds.map liftDatabase) = [.execute sql, .fetchValue count] ∧
      ∃ rows page, result = .ok (.executed p summary sql (some count) rows page) := by
  rcases Plan.execute_trace h with ⟨f, notes, rfl, -⟩ | ⟨rows, counting, total, notes, rfl, hcounting,
    hnotes, rfl⟩
  · obtain ⟨rows, hfault⟩ := hrows sql _ List.mem_cons_self
    cases hfault
  rcases Plan.countAll_trace hcounting with ⟨hnone, -⟩ | ⟨sent, answer, more, hsent, rfl, hmore, rfl⟩
  · rw [hcount] at hnone
    cases hnone
  rw [hcount] at hsent
  cases hsent
  obtain ⟨number, htells⟩ := htotal count answer (by simp)
  refine ⟨?_, rows, ⟨p.page, p.limit, rows.rowCount, number⟩, ?_⟩
  · have hrest : dataCalls ((more ++ notes).map liftDatabase) = [] := by
      rw [List.map_append, dataCalls_append,
        dataCalls_of_dataFree (dataFree_liftDatabase_of_callFree hmore),
        dataCalls_of_dataFree (dataFree_liftDatabase_of_callFree hnotes), List.append_nil]
    change _ :: _ :: dataCalls ((more ++ notes).map liftDatabase) = _
    rw [hrest]
  · rw [htells.countTotal_eq, ← hcount]
    rfl

/-- A plan with a statement that changes data is held for review. -/
theorem carryOut_review (hsql : p.statement = .ok sql) (hwrites : p.isReadOnly = false)
    (h : (p.carryOut sql summary).Trace ds result) :
    CallFree ds ∧ result = .ok (.review p summary sql) := by
  unfold Plan.carryOut at h
  rw [if_neg (by simp [hwrites])] at h
  exact ⟨(Plan.holdForReview_trace h).1, Plan.holdForReview_ok hsql h⟩

/-! ## Questions that are put to the model -/

/-- A request that can be made is put to the model. -/
theorem generateText_asks (provider : Provider) {prompt : String} {system : Option String}
    {json : Bool} {request : Chat.Request} (w : World Session.interface σ) (st : σ)
    (hrequest : Chat.Request.ofPrompt prompt system json = .valid request) :
    (.answered (.model (.generate request)) (w st (.model (.generate request))).1 :
      Event Session.interface) ∈
        ((onModel (Chat.generateText provider prompt system json)).run w st).events := by
  unfold Chat.generateText
  rw [hrequest]
  simp only [onModel, Program.interpret_bind, Program.run_bind]
  refine List.mem_append_left _ ?_
  exact List.mem_cons_self

theorem replyTo_asks {prompt : String} {request : Chat.Request} (w : World Session.interface σ) (st : σ)
    (hrequest : Chat.Request.ofPrompt prompt (some Plan.systemPrompt) s.settings.jsonOutput =
      .valid request) :
    (.answered (.model (.generate request)) (w st (.model (.generate request))).1 :
      Event Session.interface) ∈ ((s.replyTo table prompt).run w st).events := by
  have hasked := generateText_asks s.provider w st hrequest
  unfold replyTo
  generalize some Plan.systemPrompt = system at hasked ⊢
  rw [Program.run_bind]
  refine List.mem_append_right _ ?_
  rw [Program.run_bind]
  exact List.mem_append_left _ hasked

theorem replyFor_asks {prompt : String} {request : Chat.Request} {w : World Session.interface σ} {st : σ}
    (hprompt : ((s.promptFor retained table question).run w st).value = .ok prompt)
    (hrequest : Chat.Request.ofPrompt prompt (some Plan.systemPrompt) s.settings.jsonOutput =
      .valid request) :
    ∃ st', (.answered (.model (.generate request)) (w st' (.model (.generate request))).1 :
      Event Session.interface) ∈ ((s.replyFor retained table question).run w st).events := by
  refine ⟨((s.promptFor retained table question).run w st).state, ?_⟩
  unfold replyFor
  rw [Program.run_bind]
  simp only [hprompt]
  exact List.mem_append_right _ (replyTo_asks w _ hrequest)

/-- A question about a table that can be described is put to the model, if the position can be told. -/
theorem asks_model {schema state : String} {w : World Session.interface σ} {st : σ}
    (hquestion : Navigation.ofRequest? question = none)
    (hschema : ((s.schemaText table).run w st).value = .ok schema)
    (hstate : retained.viewState (some table) s.settings.defaultLimit = .ok state) :
    ∃ request st', (.answered (.model (.generate request)) (w st' (.model (.generate request))).1 :
      Event Session.interface) ∈ ((s.ask retained table question).run w st).events := by
  have hprompt : ((s.promptFor retained table question).run w st).value =
      .ok (Plan.prompt schema state question) := by
    unfold promptFor
    simp only [Program.run_bind, hschema, hstate]
    rfl
  obtain ⟨st', hmem⟩ := replyFor_asks hprompt (ofPrompt_prompt s schema state question)
  refine ⟨s.requestFor schema state question, st', ?_⟩
  unfold ask
  rw [hquestion]
  unfold planAndAccept
  rw [Program.run_bind]
  exact List.mem_append_left _ hmem

/-! ## Sessions that have a reply -/

/-- A run of a session with the default settings, in which the model replied, the rows of the statement
came, and the answer to its count told a total. -/
structure Replied (s : Session) (retained : Retained) (table question reply : String)
    (es : List (Event Session.interface)) (result : Except Failure Outcome) : Prop where
  settings : s.settings = {}
  run : ∃ after, (s.ask retained table question).Trace es (result, after)
  question : Navigation.ofRequest? question = none
  replied : ∃ request response, .answered (.model (.generate request)) (.ok response) ∈ es ∧
    response.content = reply
  rows : ∀ sql answer, .answered (.database (.execute sql)) answer ∈ es → ∃ rows, answer = .ok rows
  total : ∀ sql answer, .answered (.database (.fetchValue sql)) answer ∈ es →
    ∃ total, Plan.Tells answer total

/-- There is a reply in a world that does its part: the table can be described, the position can be told, the
model replies, the rows come and the counts tell a total. -/
theorem Replied.of_run {schema state : String} {w : World Session.interface σ} {st : σ}
    (hsettings : s.settings = {}) (hquestion : Navigation.ofRequest? question = none)
    (hschema : ((s.schemaText table).run w st).value = .ok schema)
    (hstate : retained.viewState (some table) s.settings.defaultLimit = .ok state)
    (hreply : ∀ st request, ∃ response, (w st (.model (.generate request))).1 = .ok response ∧
      response.content = reply)
    (hrows : ∀ st sql, ∃ rows, (w st (.database (.execute sql))).1 = .ok rows)
    (htotal : ∀ st sql, ∃ total, Plan.Tells (w st (.database (.fetchValue sql))).1 total) :
    Replied s retained table question reply ((s.ask retained table question).run w st).events
      ((s.ask retained table question).run w st).value.1 where
  settings := hsettings
  run := by
    refine ⟨((s.ask retained table question).run w st).value.2, ?_⟩
    rw [Prod.eta]
    exact Program.run_trace w _ st
  question := hquestion
  replied := by
    obtain ⟨request, st', hmem⟩ := asks_model (w := w) hquestion hschema hstate
    obtain ⟨response, hanswer, hcontent⟩ := hreply st' request
    rw [hanswer] at hmem
    exact ⟨request, response, hmem, hcontent⟩
  rows sql answer hmem := by
    obtain ⟨st', rfl⟩ := Program.answered_of_mem_run hmem
    exact hrows st' sql
  total sql answer hmem := by
    obtain ⟨st', rfl⟩ := Program.answered_of_mem_run hmem
    exact htotal st' sql

namespace Replied

/-- Without a plan and its statement the session fails. -/
theorem fails {f : Failure} (h : Replied s retained table question reply es result)
    (hplan : s.planOf reply = .error f) : result = .error f := by
  obtain ⟨after, hrun⟩ := h.run
  obtain ⟨request, response, hreply, rfl⟩ := h.replied
  rcases ask_of_reply hrun h.question hreply with
    ⟨g, hfailed, -, hresult⟩ | ⟨p, sql?, -, -, -, haccepted, -⟩
  · rw [hplan] at hfailed
    cases hfailed
    exact hresult
  · rw [hplan] at haccepted
    cases haccepted

/-- With a plan and its statement the session accepts it, and sends no statement before. -/
theorem accepts {sql? : Option String} (h : Replied s retained table question reply es result)
    (hplan : s.planOf reply = .ok (p, sql?)) :
    ∃ ds after, (retained.accept p sql?).Trace ds (result, after) ∧
      dataCalls es = dataCalls (ds.map liftDatabase) ∧ ∀ d ∈ ds, liftDatabase d ∈ es := by
  obtain ⟨after, hrun⟩ := h.run
  obtain ⟨request, response, hreply, rfl⟩ := h.replied
  rcases ask_of_reply hrun h.question hreply with
    ⟨g, hfailed, -⟩ | ⟨q, given, early, ds, notes, haccepted, hfree, hnotes, rfl, haccept⟩
  · rw [hplan] at hfailed
    cases hfailed
  · rw [hplan] at haccepted
    cases haccepted
    refine ⟨ds, after, haccept, ?_, fun d hd => ?_⟩
    · rw [dataCalls_append, dataCalls_append, dataCalls_of_dataFree hfree,
        dataCalls_of_dataFree (dataFree_of_callFree hnotes), List.nil_append, List.append_nil]
    · exact List.mem_append_right _ (List.mem_append_left _ (List.mem_map_of_mem hd))

/-- A plan with a statement is carried out. -/
theorem carriesOut (h : Replied s retained table question reply es result)
    (hread : Plan.read reply s.host = .ok p) (hhere : p.needOtherTables = false)
    (hnamed : p.summary = .ok summary) (hsql : p.statement = .ok sql) :
    ∃ ds, (p.carryOut sql summary).Trace ds result ∧
      dataCalls es = dataCalls (ds.map liftDatabase) ∧ ∀ d ∈ ds, liftDatabase d ∈ es := by
  have hplan := planOf_here (readPlan_default h.settings hread) hhere
  rw [hsql] at hplan
  obtain ⟨ds, after, haccept, hsent, hmem⟩ := h.accepts hplan
  exact ⟨ds, accept_here hnamed hhere hsql haccept, hsent, hmem⟩

end Replied

end QueryPlans.Session
