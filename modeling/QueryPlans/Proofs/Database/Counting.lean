import QueryPlans.Proofs.Database.Layers

/-!
# Counts that fail

A page is shown once its rows are there.  The statement that counts all rows comes after it, and whatever
becomes of the count, the page is shown with the same plan, statements and rows; only the total may be
missing.

* `Retained.Request`, `Retained.answer` — a plan to accept, or a request for another page.
* `Plan.Tells` — the total that an answer to a count tells; `Plan.Counted` — the total of a run.
* `Connector.MayAnswer` — an answer of a connector, in whatever state it is and whatever the driver does.

Principal results: `answer_counted` — a request with rows shows its page with the total;
`count_costs_no_page` — two requests that differ in their counts only show the same page.
-/

namespace QueryPlans

variable {es ds₁ ds₂ : List (Event Database.interface)} {p : Plan} {sql summary : String} {rows : Rows}
  {total total₁ total₂ : Option Int} {retained after after₁ after₂ : Retained}
  {r r₁ r₂ : Except Failure Outcome}

/-! ## Totals -/

namespace Plan

/-- The total that an answer to a count tells: none for null and for a fault of the connector. -/
inductive Tells : Except Fault Json → Option Int → Prop
  | number (n : Int) : Tells (.ok (.int n)) (some n)
  | null : Tells (.ok .null) none
  | failed (f : Fault) (h : f.isConnector = true) : Tells (.error f) none

theorem Tells.countTotal_eq {reply : Except Fault Json} (h : Tells reply total) :
    countTotal reply = .ok total := by
  cases h with
  | number n => rfl
  | null => rfl
  | failed f hf => exact countTotal_of_connector hf

/-- The total that the count among the events tells; none without a count. -/
def Counted (es : List (Event Database.interface)) (total : Option Int) : Prop :=
  (∃ sql reply, (.answered (.fetchValue sql) reply : Event Database.interface) ∈ es ∧
      Tells reply total) ∨
    (∀ sql reply, (.answered (.fetchValue sql) reply : Event Database.interface) ∉ es) ∧ total = none

/-- The count is the only call that is made to count. -/
theorem countAll_calls {t : Except Fault (Option Int)} (h : p.countAll.Trace es t) {c : Database.Call}
    {reply : Except Fault c.Value} (hmem : .answered c reply ∈ es) : ∃ count, c = .fetchValue count := by
  rcases countAll_trace h with ⟨-, rfl, -⟩ | ⟨count, reply', notes, -, rfl, hnotes, -⟩
  · cases hmem
  · rcases List.mem_cons.1 hmem with heq | hlate
    · cases heq
      exact ⟨count, rfl⟩
    · exact absurd hlate (hnotes.not_mem _ _)

theorem countAll_counted {t : Except Fault (Option Int)} (h : p.countAll.Trace es t)
    (hcount : Counted es total) : t = .ok total := by
  rcases countAll_trace h with ⟨-, rfl, rfl⟩ | ⟨count, reply, notes, -, rfl, hnotes, rfl⟩
  · rcases hcount with ⟨count, reply, hmem, -⟩ | ⟨-, rfl⟩
    · cases hmem
    · rfl
  · rcases hcount with ⟨count', reply', hmem, htells⟩ | ⟨hnone, -⟩
    · rcases List.mem_cons.1 hmem with heq | hlate
      · cases heq
        exact htells.countTotal_eq
      · exact absurd hlate (hnotes.not_mem _ _)
    · exact absurd List.mem_cons_self (hnone count reply)

/-- The count is found among the events that are not the statement's. -/
theorem Counted.of_run {statement : Event Database.interface}
    {counting notes : List (Event Database.interface)} (hnotes : CallFree notes)
    (hstatement : ∀ count reply,
      (.answered (.fetchValue count) reply : Event Database.interface) ≠ statement)
    (h : Counted (statement :: (counting ++ notes)) total) : Counted counting total := by
  rcases h with ⟨count, reply, hmem, htells⟩ | ⟨hnone, rfl⟩
  · refine .inl ⟨count, reply, ?_, htells⟩
    rcases List.mem_cons.1 hmem with heq | hlate
    · exact absurd heq (hstatement count reply)
    · exact (List.mem_append.1 hlate).resolve_right (hnotes.not_mem _ _)
  · refine .inr ⟨fun count reply hmem => hnone count reply ?_, rfl⟩
    exact List.mem_cons_of_mem _ (List.mem_append_left _ hmem)

/-- A plan with rows is shown with them and with the total. -/
theorem execute_counted {sent : String} (h : (p.execute sql summary).Trace es r)
    (hrows : .answered (.execute sent) (.ok rows) ∈ es) (hcount : Counted es total) :
    r = p.executedWith sql summary rows (.ok total) := by
  rcases execute_trace h with
    ⟨f, notes, rfl, hnotes, -⟩ | ⟨shown, counting, counted, notes, rfl, hcounting, hnotes, rfl⟩
  · rcases List.mem_cons.1 hrows with heq | hlate
    · cases heq
    · exact absurd hlate (hnotes.not_mem _ _)
  obtain rfl := countAll_counted hcounting (hcount.of_run hnotes fun _ _ heq => by cases heq)
  rcases List.mem_cons.1 hrows with heq | hlate
  · cases heq
    rfl
  · rcases List.mem_append.1 hlate with hcount' | hnote
    · obtain ⟨_, heq⟩ := countAll_calls hcounting hcount'
      cases heq
    · exact absurd hnote (hnotes.not_mem _ _)

end Plan

/-! ## Requests -/

namespace Retained

/-- A plan to accept, with its statement if that is known, or a request for another page. -/
inductive Request where
  | accept (p : Plan) (sql? : Option String)
  | navigate (direction : Navigation)

/-- Answer a request. -/
def answer (retained : Retained) : Request → DatabaseProgram (Except Failure Outcome × Retained)
  | .accept p sql? => retained.accept p sql?
  | .navigate direction => retained.navigate direction

/-- The plan that a request asks for. -/
def Request.plan? (retained : Retained) : Request → Option Plan
  | accept p _ => some p
  | navigate direction => retained.map (·.step direction)

/-- The statement that comes with a request. -/
def Request.given : Request → Option String
  | accept _ sql? => sql?
  | navigate _ => none

variable {q : Request}

/-- A request with rows runs the plan that it asks for, with its statement and summary. -/
theorem answer_runs {sent : String} (h : (retained.answer q).Trace es (r, after))
    (hrows : .answered (.execute sent) (.ok rows) ∈ es) :
    ∃ p sql summary early late, q.plan? retained = some p ∧ p.statementOr q.given = .ok sql ∧
      p.summary = .ok summary ∧ after = some p ∧ es = early ++ late ∧ CallFree early ∧
      (p.execute sql summary).Trace late r := by
  cases q with
  | accept p sql? =>
    rcases accept_trace h with ⟨hfree, -⟩ | ⟨summary, sql, hsummary, -, hsql, hafter, hcarry⟩
    · exact absurd hrows (hfree.not_mem _ _)
    unfold Plan.carryOut at hcarry
    split at hcarry
    · exact ⟨p, sql, summary, [], es, rfl, hsql, hsummary, hafter, rfl, callFree_nil, hcarry⟩
    · exact absurd hrows ((Plan.holdForReview_trace hcarry).1.not_mem _ _)
  | navigate direction =>
    rcases navigate_trace h with ⟨rfl, -⟩ | ⟨current, sql, rfl, -, hsql, hafter, hshow⟩
    · cases hrows
    rcases showPage_trace hshow with ⟨hfree, -⟩ | ⟨entry, tail, summary, rfl, hsummary, hexec⟩
    · exact absurd hrows (hfree.not_mem _ _)
    · exact ⟨_, sql, summary, [.noted entry], tail, rfl, hsql, hsummary, hafter, rfl, by simp, hexec⟩

/-- A request with rows shows its page with the total, and retains its plan. -/
theorem answer_counted {sent : String} (h : (retained.answer q).Trace es (r, after))
    (hrows : .answered (.execute sent) (.ok rows) ∈ es) (hcount : Plan.Counted es total) :
    ∃ p sql summary, q.plan? retained = some p ∧ p.statementOr q.given = .ok sql ∧
      p.summary = .ok summary ∧ after = some p ∧
      r = .ok (.executed p summary sql p.countStatement? rows
        ⟨p.page, p.limit, rows.rowCount, total⟩) := by
  obtain ⟨p, sql, summary, early, late, hplan, hsql, hsummary, hafter, rfl, hearly, hexec⟩ :=
    answer_runs h hrows
  have hlate {c : Database.Call} {reply : Except Fault c.Value}
      (hmem : .answered c reply ∈ early ++ late) : .answered c reply ∈ late :=
    (List.mem_append.1 hmem).resolve_left (hearly.not_mem _ _)
  have hcounted : Plan.Counted late total := by
    rcases hcount with ⟨count, reply, hmem, htells⟩ | ⟨hnone, rfl⟩
    · exact .inl ⟨count, reply, hlate hmem, htells⟩
    · exact .inr ⟨fun count reply hmem => hnone count reply (List.mem_append_right _ hmem), rfl⟩
  exact ⟨p, sql, summary, hplan, hsql, hsummary, hafter,
    Plan.execute_counted hexec (hlate hrows) hcounted⟩

/-- Two requests show the same page: they end alike, but for the total, and retain the same plan. -/
def SamePage (rows : Rows) (total₁ total₂ : Option Int) (r₁ r₂ : Except Failure Outcome)
    (after₁ after₂ : Retained) : Prop :=
  ∃ p summary sql countSql, after₁ = some p ∧ after₂ = some p ∧
    r₁ = .ok (.executed p summary sql countSql rows ⟨p.page, p.limit, rows.rowCount, total₁⟩) ∧
    r₂ = .ok (.executed p summary sql countSql rows ⟨p.page, p.limit, rows.rowCount, total₂⟩)

theorem samePage_of_counted {sent₁ sent₂ : String}
    (h₁ : (retained.answer q).Trace ds₁ (r₁, after₁))
    (h₂ : (retained.answer q).Trace ds₂ (r₂, after₂))
    (hrows₁ : .answered (.execute sent₁) (.ok rows) ∈ ds₁)
    (hrows₂ : .answered (.execute sent₂) (.ok rows) ∈ ds₂)
    (hcount₁ : Plan.Counted ds₁ total₁) (hcount₂ : Plan.Counted ds₂ total₂) :
    SamePage rows total₁ total₂ r₁ r₂ after₁ after₂ := by
  obtain ⟨p, sql, summary, hplan, hsql, hsummary, hafter₁, hr₁⟩ := answer_counted h₁ hrows₁ hcount₁
  obtain ⟨p', sql', summary', hplan', hsql', hsummary', hafter₂, hr₂⟩ :=
    answer_counted h₂ hrows₂ hcount₂
  obtain rfl : p = p' := Option.some.inj (hplan.symm.trans hplan')
  obtain rfl : sql = sql' := Except.ok.inj (hsql.symm.trans hsql')
  obtain rfl : summary = summary' := Except.ok.inj (hsummary.symm.trans hsummary')
  exact ⟨p, summary, sql, p.countStatement?, hafter₁, hafter₂, hr₁, hr₂⟩

end Retained

/-! ## Counts over a connector -/

namespace Connector

open Pool (Uncancelled CountsTyped)

variable {t : Target}

/-- A connector may answer the call so, in whatever state it is: the driver may raise anything but a
cancellation, and counts with an integer or null. -/
def MayAnswer (t : Target) (c : Database.Call) (reply : Except Fault c.Value) : Prop :=
  ∃ s s' es, (answer t s c).Trace es (reply, s') ∧ Uncancelled es ∧ CountsTyped es

/-- Every call is answered as a connector may do. Its state may change from one call to the next. -/
def AnsweredBy (t : Target) (ds : List (Event Database.interface)) : Prop :=
  ∀ c reply, .answered c reply ∈ ds → MayAnswer t c reply

/-- Where statements are sent at all, a count tells a total or fails with a fault of the connector. -/
theorem MayAnswer.tells {count : String} {reply : Except Fault Json}
    (hrun : MayAnswer t (.execute sql) (.ok rows)) (h : MayAnswer t (.fetchValue count) reply) :
    ∃ total, Plan.Tells reply total := by
  obtain ⟨_, _, _, hexecute, -⟩ := hrun
  obtain ⟨_, hrows, heq⟩ := Program.trace_map_iff.1 hexecute
  cases heq
  have hwritable : Numeral.IsWritable t.timeout := execute_writable hrows
  obtain ⟨s, s', es, hcount, huncancelled, htyped⟩ := h
  obtain ⟨_, hvalue, heq⟩ := Program.trace_map_iff.1 hcount
  cases heq
  cases reply with
  | ok v =>
    obtain ⟨pool, hmem⟩ := fetchValue_value hvalue
    rcases htyped pool count v hmem with rfl | ⟨n, rfl⟩
    · exact ⟨none, .null⟩
    · exact ⟨some n, .number n⟩
  | error f =>
    have hreport := (fetchValue_translated hvalue).reported huncancelled
      (fun hlimit => hlimit.1 hwritable) f rfl
    exact ⟨none, .failed f (IsReport.isConnector (c := .fetchValue count) hreport)⟩

theorem AnsweredBy.counted (h : AnsweredBy t es)
    (hrows : .answered (.execute sql) (.ok rows) ∈ es) : ∃ total, Plan.Counted es total := by
  by_cases hcount : ∃ count reply,
      (.answered (.fetchValue count) reply : Event Database.interface) ∈ es
  · obtain ⟨count, reply, hmem⟩ := hcount
    obtain ⟨total, htells⟩ := (h _ _ hrows).tells (h _ _ hmem)
    exact ⟨total, .inl ⟨count, reply, hmem, htells⟩⟩
  · exact ⟨none, .inr ⟨fun count reply hmem => hcount ⟨count, reply, hmem⟩, rfl⟩⟩

end Connector

/-! ## Two requests -/

namespace Retained

open Connector (AnsweredBy MayAnswer localTarget opened)

variable {sent₁ sent₂ : String}

/-- **A count costs no page.** The same request is answered twice, from the same retained plan and with
the same rows. Whatever becomes of the counts, it shows the same page and retains the same plan; each
total is the integer of its count, or unknown. Over a connector this is so whatever the driver raises
during a count, and if the connection is lost meanwhile. -/
theorem count_costs_no_page {q : Request} (h₁ : (retained.answer q).Trace ds₁ (r₁, after₁))
    (h₂ : (retained.answer q).Trace ds₂ (r₂, after₂))
    (hrows₁ : .answered (.execute sent₁) (.ok rows) ∈ ds₁)
    (hrows₂ : .answered (.execute sent₂) (.ok rows) ∈ ds₂) :
    (∀ total₁ total₂, Plan.Counted ds₁ total₁ → Plan.Counted ds₂ total₂ →
      SamePage rows total₁ total₂ r₁ r₂ after₁ after₂) ∧
    ∀ t, AnsweredBy t ds₁ → AnsweredBy t ds₂ →
      ∃ total₁ total₂, Plan.Counted ds₁ total₁ ∧ Plan.Counted ds₂ total₂ ∧
        SamePage rows total₁ total₂ r₁ r₂ after₁ after₂ := by
  refine ⟨fun total₁ total₂ hcount₁ hcount₂ => ?_, fun t hanswered₁ hanswered₂ => ?_⟩
  · exact samePage_of_counted h₁ h₂ hrows₁ hrows₂ hcount₁ hcount₂
  · obtain ⟨total₁, hcount₁⟩ := hanswered₁.counted hrows₁
    obtain ⟨total₂, hcount₂⟩ := hanswered₂.counted hrows₂
    exact ⟨total₁, total₂, hcount₁, hcount₂,
      samePage_of_counted h₁ h₂ hrows₁ hrows₂ hcount₁ hcount₂⟩

/-! ### A count of a lost connection -/

/-- A database with rows and a count. -/
def counting (rows : Rows) (count : Except Fault Json) : World Database.interface Unit := fun _ c =>
  (match c with
    | .execute _ => .ok rows
    | .fetchValue _ => count
    | c => Session.databaseAnswer c, ())

/-- What a request asks of such a database, and what it is answered. -/
theorem counting_run {count : Except Fault Json} {α : Type} {p : DatabaseProgram α} {statement : String}
    (h : sent (p.run (counting rows count) ()).events = [.execute sql, .fetchValue statement]) :
    .answered (.execute sql) (.ok rows) ∈ (p.run (counting rows count) ()).events ∧
      (Plan.Tells count total → Plan.Counted (p.run (counting rows count) ()).events total) ∧
      ∀ t, MayAnswer t (.execute sql) (.ok rows) → MayAnswer t (.fetchValue statement) count →
        AnsweredBy t (p.run (counting rows count) ()).events := by
  have hrows : .answered (.execute sql) (.ok rows) ∈ (p.run (counting rows count) ()).events := by
    obtain ⟨reply, hmem⟩ := exists_of_mem_sent (h ▸ List.mem_cons_self)
    obtain ⟨_, rfl⟩ := Program.answered_of_mem_run hmem
    exact hmem
  have hcount : .answered (.fetchValue statement) count ∈
      (p.run (counting rows count) ()).events := by
    obtain ⟨reply, hmem⟩ := exists_of_mem_sent (h ▸ List.mem_cons_of_mem _ List.mem_cons_self)
    obtain ⟨_, rfl⟩ := Program.answered_of_mem_run hmem
    exact hmem
  refine ⟨hrows, fun htells => .inl ⟨statement, count, hcount, htells⟩, ?_⟩
  intro t hexecute hvalue c reply hmem
  have hsent : c ∈ sent (p.run (counting rows count) ()).events :=
    List.mem_filterMap.2 ⟨_, hmem, rfl⟩
  obtain ⟨_, rfl⟩ := Program.answered_of_mem_run hmem
  rw [h] at hsent
  rcases List.mem_cons.1 hsent with rfl | hlast
  · exact hexecute
  · obtain rfl := List.mem_singleton.1 hlast
    exact hvalue

/-- No rows. -/
def noRows : Rows := ⟨[], [], 0⟩

theorem mayAnswer_execute : MayAnswer localTarget (.execute sql) (.ok noRows) := by
  have hlimit : Connector.limitStatement (Connector.timeoutOr localTarget none) =
      .ok "SET statement_timeout = 30000" :=
    Session.eq_ok_of_toOption (by decide +kernel)
  have hrows : (opened.execute localTarget sql).Trace
      (Connector.exchanges ⟨0⟩ "SET statement_timeout = 30000" sql ⟨[]⟩ []) (.ok noRows) :=
    Connector.exchanges_trace rfl hlimit
  refine ⟨opened, opened, _, Program.trace_map_iff.2 ⟨_, hrows, rfl⟩, ?_, ?_⟩
  · rintro f ⟨c, hmem⟩
    nomatch hmem
  · exact fun pool sql' v hmem => nomatch hmem

theorem mayAnswer_count (n : Int) : MayAnswer localTarget (.fetchValue sql) (.ok (.int n)) := by
  have hcount : (opened.fetchValue localTarget sql).Trace
      [.answered (.acquire ⟨0⟩) (.ok ()), .answered (.fetchValue ⟨0⟩ sql []) (.ok (.int n)),
        .answered (.release ⟨0⟩) (.ok ())]
      (.ok (.int n)) := .ask _ (.ask _ (.ask _ (.done _)))
  refine ⟨opened, opened, _, Program.trace_map_iff.2 ⟨_, hcount, rfl⟩, ?_, fun pool sql' v hmem => ?_⟩
  · rintro f ⟨c, hmem⟩
    nomatch hmem
  · simp only [List.mem_cons, List.not_mem_nil, or_false] at hmem
    rcases hmem with heq | heq | heq
    · cases heq
    · cases heq
      exact .inr ⟨n, rfl⟩
    · cases heq

/-- The connection may be lost before a count. -/
theorem mayAnswer_lost :
    MayAnswer localTarget (.fetchValue sql) (.error Connector.notConnected) :=
  ⟨{}, {}, [], .done _, fun _ hraises => absurd hraises not_raises_nil, fun _ _ _ hmem => nomatch hmem⟩

instance : DecidableEq Database.interface.Call := inferInstanceAs (DecidableEq Database.Call)

/-- The first page of a table is asked for. -/
def firstPage : DatabaseProgram (Except Failure Outcome × Retained) :=
  Retained.answer none (.accept Session.samplePlan none)

theorem firstPage_trace (count : Except Fault Json) :
    (Retained.answer none (.accept Session.samplePlan none)).Trace
      (firstPage.run (counting noRows count) ()).events
      ((firstPage.run (counting noRows count) ()).value.1,
        (firstPage.run (counting noRows count) ()).value.2) := by
  unfold firstPage
  rw [Prod.eta]
  exact Program.run_trace _ _ _

/-- The first page is shown whether its rows are counted or the connection is lost before. -/
theorem lost_count_costs_no_page :
    let counted := firstPage.run (counting noRows (.ok (.int 7))) ()
    let lost := firstPage.run (counting noRows (.error Connector.notConnected)) ()
    SamePage noRows (some 7) none counted.value.1 lost.value.1 counted.value.2 lost.value.2 ∧
      ∃ total₁ total₂, Plan.Counted counted.events total₁ ∧ Plan.Counted lost.events total₂ ∧
        SamePage noRows total₁ total₂ counted.value.1 lost.value.1 counted.value.2 lost.value.2 := by
  have hsent₁ : sent (firstPage.run (counting noRows (.ok (.int 7))) ()).events =
      [.execute "SELECT *\nFROM t\nLIMIT 5", .fetchValue "SELECT count(*) FROM t"] := by
    decide +kernel
  have hsent₂ :
      sent (firstPage.run (counting noRows (.error Connector.notConnected)) ()).events =
        [.execute "SELECT *\nFROM t\nLIMIT 5", .fetchValue "SELECT count(*) FROM t"] := by
    decide +kernel
  obtain ⟨hrows₁, htotal₁, hanswered₁⟩ := counting_run (p := firstPage) hsent₁
  obtain ⟨hrows₂, htotal₂, hanswered₂⟩ := counting_run (p := firstPage) hsent₂
  obtain ⟨hsame, hconnector⟩ :=
    count_costs_no_page (firstPage_trace _) (firstPage_trace _) hrows₁ hrows₂
  refine ⟨hsame _ _ (htotal₁ (.number 7)) (htotal₂ (.failed _ rfl)), hconnector localTarget ?_ ?_⟩
  · exact hanswered₁ _ mayAnswer_execute (mayAnswer_count 7)
  · exact hanswered₂ _ mayAnswer_execute mayAnswer_lost

end Retained

end QueryPlans
