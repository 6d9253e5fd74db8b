import QueryPlans.Proofs.Database.Translation
import QueryPlans.Proofs.Plan.Faults
import QueryPlans.Proofs.Program.Serve
import QueryPlans.Proofs.Schema.Faults
import QueryPlans.Proofs.Session.Failures

/-!
# Faults of the driver, through all layers

Plans are run, and tables looked up, over a connector, which asks the driver.  A fault of the driver
becomes one of the connector, and that becomes an error of the plan or of the table; a cancellation comes
through all layers as it is.

* `Connector.serving` — a program over a connector.
* `Connector.Caught` — a request that ends in a cancellation as it is, and in other faults as described.

Principal results: `driver_faults_translated` — the faults of the driver in every layer, and exactly when
a request fails with anything but an error of the plan; `unwritable_page_escapes` — a page whose number
cannot be written does so, though the driver raised nothing.
-/

namespace QueryPlans.Connector

open Pool (ReleasedBut Uncancelled ServerCanceled LimitUnwritten CatalogueTyped CountsTyped)

variable {α : Type} {t : Target} {s s' : Connector} {ds : List (Event Database.interface)}
  {es : List (Event Pool.interface)} {f : Failure} {g : Fault} {p : Plan} {sql : String}

/-- The answers of a connector to the calls of a program, with the connector after each. -/
abbrev answering (t : Target) (s : Connector) (c : Database.interface.Call) :
    PoolProgram (Database.interface.Reply c × Connector) := s.answer t c

/-- Carry out a program over a connector. -/
def serving (t : Target) (s : Connector) (p : DatabaseProgram α) : PoolProgram (α × Connector) :=
  p.serve (answering t) s

/-- The calls of a program were answered by a connector. -/
abbrev Served (t : Target) (s : Connector) (ds : List (Event Database.interface))
    (es : List (Event Pool.interface)) (s' : Connector) : Prop :=
  Program.Serves (answering t) s ds es s'

theorem serving_trace_iff {p : DatabaseProgram α} {a : α} : (serving t s p).Trace es (a, s') ↔
    ∃ ds, p.Trace ds a ∧ Served t s ds es s' := Program.trace_serve_iff

/-- A request over a connector: a cancellation ends it as it is, if no other fault came in giving a connection
back, and when nothing was cancelled, its failures are as described. -/
structure Caught (described : Failure → Prop) (es : List (Event Pool.interface))
    (r : Except Failure α) : Prop where
  cancelled : ∀ g, ReleasedBut g es → Raises es g → g.isCancellation = true → r = .error (.fault g)
  failures : Uncancelled es → ∀ f, r = .error f → described f

/-! ## Answers to a program -/

theorem IsReport.isConnector {c : Database.Call} (h : s.IsReport c.faultKind g) :
    g.isConnector = true := by
  rcases h with ⟨message, rfl⟩ | ⟨-, rfl⟩
  · cases c <;> rfl
  · rfl

/-- The program meets every cancellation that the driver raises, if no other fault came in giving a connection
back. -/
theorem Served.raises_of_cancellation (h : Served t s ds es s') (htyped : CatalogueTyped es)
    (hreleased : ReleasedBut g es) (hraises : Raises es g) (hcancelled : g.isCancellation = true) : Raises ds g := by
  obtain ⟨c, hmem⟩ := hraises
  obtain ⟨c', reply, _, _, part, hasked, hcall, hpart, hsub⟩ := Program.Serves.of_mem h hmem
  obtain rfl := (answer_translated (htyped.mono hsub) hcall).cancelled g (hreleased.mono hsub)
    ⟨c, hpart⟩ hcancelled
  exact ⟨c', hasked⟩

/-- Each fault that the program meets is one of a connector, unless a time limit cannot be written. -/
theorem Served.isConnector (h : Served t s ds es s') (htyped : CatalogueTyped es)
    (huncancelled : Uncancelled es) (hlimit : ¬ LimitUnwritten t.timeout es) {c : Database.Call}
    (hmem : (.answered c (.error g) : Event Database.interface) ∈ ds) : g.isConnector = true := by
  obtain ⟨_, _, part, hcall, hsub⟩ := Program.Serves.of_answered h hmem
  have htranslated := answer_translated (htyped.mono hsub) hcall
  refine (htranslated.reported (huncancelled.mono hsub) (fun hpart => hlimit ?_) g rfl).isConnector
  exact ⟨hpart.2.1, hpart.2.2.mono hsub⟩

/-- If that is so, the one statement that was sent fails with the number. -/
theorem Served.unwritten (h : Served t s ds es s') (hlimit : LimitUnwritten t.timeout es)
    (honly : ∀ c reply, (.answered c reply : Event Database.interface) ∈ ds →
      (.answered c reply : Event Database.interface) = .answered (.execute sql) (.error g)) :
    g = .ofNumeral .tooLongToWrite := by
  obtain ⟨hlong, g', ⟨c, hraised⟩, hserver⟩ := hlimit
  obtain ⟨c', reply, _, _, part, hasked, hcall, hpart, hsub⟩ := Program.Serves.of_mem h hraised
  cases honly c' reply hasked
  obtain ⟨_, hexecute, heq⟩ := Program.trace_map_iff.1 hcall
  cases heq
  have hlimit : ¬ Numeral.IsWritable (timeoutOr t none) := hlong
  cases execute_unwritten hlimit hexecute ⟨g', ⟨c, hpart⟩, hserver⟩
  rfl

/-- A statement is answered with rows only within a time that can be written. -/
theorem Served.writable (h : Served t s ds es s') {rows : Rows}
    (hmem : (.answered (.execute sql) (.ok rows) : Event Database.interface) ∈ ds) :
    Numeral.IsWritable t.timeout := by
  obtain ⟨_, _, part, hcall, -⟩ := Program.Serves.of_answered h hmem
  obtain ⟨_, hexecute, heq⟩ := Program.trace_map_iff.1 hcall
  cases heq
  exact execute_writable hexecute

/-- The answer to a count is a number or none. -/
theorem Served.total (h : Served t s ds es s') (hcounts : CountsTyped es) {v : Json}
    (hmem : (.answered (.fetchValue sql) (.ok v) : Event Database.interface) ∈ ds) :
    ∃ total, Database.totalOf? v = .ok total := by
  obtain ⟨_, _, part, hcall, hsub⟩ := Program.Serves.of_answered h hmem
  obtain ⟨_, hvalue, heq⟩ := Program.trace_map_iff.1 hcall
  cases heq
  obtain ⟨pool, hasked⟩ := fetchValue_value hvalue
  rcases hcounts pool sql v (hsub hasked) with rfl | ⟨n, rfl⟩
  · exact ⟨none, rfl⟩
  · exact ⟨some n, rfl⟩

/-- The exchanges that served no call. -/
theorem Served.not_raises (h : Served t s [] es s') : ¬ Raises es g := by
  cases h
  exact not_raises_nil

/-! ## Plans -/

theorem executionFailure_isPlanError : (Plan.executionFailure sql g).isPlanError = g.isConnector := by
  unfold Plan.executionFailure
  split
  · rename_i hconnector
    rw [hconnector]
    rfl
  · rename_i hforeign
    rw [Bool.not_eq_true] at hforeign
    rw [hforeign]
    rfl

/-- A plan that is run over a connector fails with an error of the plan, unless a time limit cannot be
written. -/
theorem Served.isPlanError_iff (h : Served t s ds es s') (htyped : CatalogueTyped es)
    (hcounts : CountsTyped es) (huncancelled : Uncancelled es) (hfails : Plan.Fails sql ds f) :
    f.isPlanError = true ↔ ¬ LimitUnwritten t.timeout es := by
  cases hfails with
  | statement g mem only =>
    rw [executionFailure_isPlanError]
    refine ⟨fun hconnector hlimit => ?_, fun hlimit => h.isConnector htyped huncancelled hlimit mem⟩
    cases h.unwritten hlimit only
    cases hconnector
  | count rows counting g run mem foreign =>
    have hlimit : ¬ LimitUnwritten t.timeout es := fun hlimit => hlimit.1 (h.writable run)
    have hconnector := h.isConnector htyped huncancelled hlimit mem
    rw [foreign] at hconnector
    cases hconnector
  | number rows counting v g run mem total =>
    obtain ⟨n, hn⟩ := h.total hcounts mem
    rw [total] at hn
    cases hn

variable {retained after : Retained} {r : Except Failure Outcome}

/-- A plan with a statement that is accepted over a connector. -/
theorem accept_caught {sql? : Option String} {compiled : String} (hsql : p.statement = .ok compiled)
    (htyped : CatalogueTyped es) (hcounts : CountsTyped es)
    (h : (serving t s (retained.accept p sql?)).Trace es ((r, after), s')) :
    Caught (fun f => f.isPlanError = true ↔
      (∃ summary, p.summary = .ok summary) ∧ ¬ LimitUnwritten t.timeout es) es r := by
  obtain ⟨ds, hds, hserved⟩ := serving_trace_iff.1 h
  refine ⟨fun g hreleased hraises hcancelled => ?_, fun huncancelled f hf => ?_⟩
  · exact Retained.accept_stops hds
      (hserved.raises_of_cancellation htyped hreleased hraises hcancelled) hcancelled
  · subst hf
    rcases Retained.accept_fails hsql hds with ⟨e, hsummary, rfl, -⟩ | ⟨hsummary, sql, hfails⟩
    · refine iff_of_false (fun hplan => nomatch hplan) ?_
      rintro ⟨⟨summary, hok⟩, -⟩
      rw [hsummary] at hok
      cases hok
    · rw [hserved.isPlanError_iff htyped hcounts huncancelled hfails]
      exact ⟨fun hlimit => ⟨hsummary, hlimit⟩, fun hboth => hboth.2⟩

/-- A request for another page over a connector, where that page has a statement. -/
theorem navigate_caught {direction : Navigation}
    (hsql : ∀ current, retained = some current → current.isReadOnly = true →
      ∃ sql, (current.step direction).statement = .ok sql)
    (htyped : CatalogueTyped es) (hcounts : CountsTyped es)
    (h : (serving t s (retained.navigate direction)).Trace es ((r, after), s')) :
    Caught (fun f => f.isPlanError = true ↔
      (∀ current, retained = some current → current.isReadOnly = true →
        Numeral.IsWritable (current.step direction).page) ∧ ¬ LimitUnwritten t.timeout es) es r := by
  obtain ⟨ds, hds, hserved⟩ := serving_trace_iff.1 h
  refine ⟨fun g hreleased hraises hcancelled => ?_, fun huncancelled f hf => ?_⟩
  · exact Retained.navigate_stops hds
      (hserved.raises_of_cancellation htyped hreleased hraises hcancelled) hcancelled
  subst hf
  rcases Retained.navigate_fails hsql hds with
    ⟨rfl, hplan, hwrites⟩ | ⟨current, rfl, hread, ⟨rfl, rfl, hpage⟩ | ⟨hpage, sql, hfails⟩⟩
  · refine iff_of_true hplan ⟨fun current hcurrent hread => ?_, fun hlimit => ?_⟩
    · rw [hwrites current hcurrent] at hread
      cases hread
    · obtain ⟨-, g, hraises, -⟩ := hlimit
      exact hserved.not_raises hraises
  · refine iff_of_false (fun hplan => nomatch hplan) fun hboth => ?_
    exact hpage (hboth.1 current rfl hread)
  · rw [hserved.isPlanError_iff htyped hcounts huncancelled hfails]
    refine ⟨fun hlimit => ⟨fun other hother _ => ?_, hlimit⟩, fun hboth => hboth.2⟩
    cases hother
    exact hpage

/-! ## Tables -/

/-- A table that is looked up over a connector. -/
theorem fetch_caught {table : String} {found : Except Failure Schema} (htyped : CatalogueTyped es)
    (h : (serving t s (Schema.fetch table)).Trace es (found, s')) :
    Caught (fun f => ∃ message, f = .plan (.schema table message)) es found := by
  obtain ⟨ds, hds, hserved⟩ := serving_trace_iff.1 h
  refine ⟨fun g hreleased hraises hcancelled => ?_, fun huncancelled f hf => ?_⟩
  · rw [Schema.fetch_stops hds (hserved.raises_of_cancellation htyped hreleased hraises hcancelled)]
    unfold Schema.failure
    rw [Fault.isConnector_of_cancellation hcancelled]
    rfl
  · subst hf
    obtain ⟨g, ⟨c, hmem⟩, rfl⟩ := Schema.fetch_raised hds
    obtain ⟨_, _, part, hcall, hsub⟩ := Program.Serves.of_answered hserved hmem
    -- A table is looked up without a statement, so that no time limit is told.
    have hlookup : c.isData = false :=
      ((Schema.fetch_callsOnly table).of_trace hds hmem).isData_eq_false
    have hsilent : ¬ (c.isData = true ∧ LimitUnwritten t.timeout part) := by simp [hlookup]
    have hreport := (answer_translated (htyped.mono hsub) hcall).reported (huncancelled.mono hsub)
      hsilent g rfl
    unfold Schema.failure
    rw [if_pos hreport.isConnector]
    exact ⟨_, rfl⟩

/-! ## All layers -/

/-- **The faults of the driver in every layer.** A call on a connector ends in a value, in a fault of the
connector, or in a cancellation as it is, if no other fault came in giving a connection back; a plan with a
statement in an error of the plan, and a table in one of the table. There are two exceptions: the server
cancels a statement whose time limit is too long a number to be written, and a plan is asked for whose page
is. -/
theorem driver_faults_translated (t : Target) :
    (∀ (s s' : Connector) (c : Database.Call) es r, CatalogueTyped es →
      (s.answer t c).Trace es (r, s') →
        s.Translated c.faultKind (c.isData = true ∧ LimitUnwritten t.timeout es) es r) ∧
    (∀ (s : Connector) sql timeout es r, (s.execute t sql timeout).Trace es r →
      s.Translated .query (LimitUnwritten (timeoutOr t timeout) es) es r) ∧
    (∀ (s s' : Connector) (retained after : Retained) (p : Plan) sql? es r,
      (∃ sql, p.statement = .ok sql) → CatalogueTyped es → CountsTyped es →
      (serving t s (retained.accept p sql?)).Trace es ((r, after), s') →
        Caught (fun f => f.isPlanError = true ↔
          (∃ summary, p.summary = .ok summary) ∧ ¬ LimitUnwritten t.timeout es) es r) ∧
    (∀ (s s' : Connector) (retained after : Retained) direction es r,
      (∀ current, retained = some current → current.isReadOnly = true →
        ∃ sql, (current.step direction).statement = .ok sql) → CatalogueTyped es → CountsTyped es →
      (serving t s (retained.navigate direction)).Trace es ((r, after), s') →
        Caught (fun f => f.isPlanError = true ↔
          (∀ current, retained = some current → current.isReadOnly = true →
            Numeral.IsWritable (current.step direction).page) ∧
          ¬ LimitUnwritten t.timeout es) es r) ∧
    (∀ (s s' : Connector) table es found, CatalogueTyped es →
      (serving t s (Schema.fetch table)).Trace es (found, s') →
        Caught (fun f => ∃ message, f = .plan (.schema table message)) es found) := by
  refine ⟨?_, ?_, ?_, ?_, ?_⟩
  · intro s s' c es r htyped h
    exact answer_translated htyped h
  · intro s sql timeout es r h
    exact execute_translated h
  · rintro s s' retained after p sql? es r ⟨compiled, hsql⟩ htyped hcounts h
    exact accept_caught hsql htyped hcounts h
  · intro s s' retained after direction es r hsql htyped hcounts h
    exact navigate_caught hsql htyped hcounts h
  · intro s s' table es found htyped h
    exact fetch_caught htyped h

/-! ### A connection that is lost, and a page that cannot be named -/

/-- A database on this machine. -/
def localTarget : Target :=
  { host := "localhost", port := 5432, database := "shop", user := "reader", password := "" }

/-- A connector with a pool. -/
def opened : Connector := { pool := some ⟨0⟩, connected := true }

/-- What a driver without a connection answers with. -/
def connectionLost : Fault := .raised .driver "connection is closed"

/-- A driver that has lost its connections. -/
def lostDriver : World Pool.interface Unit := fun _ _ => (.error connectionLost, ())

theorem lostDriver_events {p : PoolProgram α} {c : Pool.Call} {reply : Except Fault c.Value}
    (h : .answered c reply ∈ (p.run lostDriver ()).events) : reply = .error connectionLost := by
  obtain ⟨-, rfl⟩ := Program.answered_of_mem_run h
  rfl

theorem lostDriver_run (p : PoolProgram α) :
    CatalogueTyped (p.run lostDriver ()).events ∧ CountsTyped (p.run lostDriver ()).events ∧
      Uncancelled (p.run lostDriver ()).events := by
  refine ⟨⟨fun _ _ _ hmem => ?_, fun _ _ _ hmem => ?_⟩, fun _ _ _ hmem => ?_, ?_⟩
  · exact nomatch lostDriver_events hmem
  · exact nomatch lostDriver_events hmem
  · exact nomatch lostDriver_events hmem
  · rintro f ⟨c, hmem⟩
    cases lostDriver_events hmem
    rfl

/-- Without its connections the driver fails to run a plan, and that is an error of the plan. -/
theorem lost_connection_is_plan_error :
    ∃ f, ((serving localTarget opened (Retained.accept none Session.samplePlan)).run lostDriver
      ()).value.1.1 = .error f ∧ f.isPlanError = true := by
  have hstatement : ∃ sql, Session.samplePlan.statement = .ok sql :=
    ⟨"SELECT *\nFROM t\nLIMIT 5", Session.eq_ok_of_toOption (by decide +kernel)⟩
  have hsummary : ∃ summary, Session.samplePlan.summary = .ok summary :=
    Plan.exists_summary (by decide +kernel) (by decide +kernel)
  have hfails : ((serving localTarget opened (Retained.accept none Session.samplePlan)).run
      lostDriver ()).value.1.1.isOk = false := by decide +kernel
  have htrace := Program.run_trace lostDriver
    (serving localTarget opened (Retained.accept none Session.samplePlan)) ()
  obtain ⟨htyped, hcounts, huncancelled⟩ :=
    lostDriver_run (serving localTarget opened (Retained.accept none Session.samplePlan))
  generalize Program.run lostDriver _ () = run at hfails htrace htyped hcounts huncancelled ⊢
  obtain ⟨⟨⟨result, after⟩, s'⟩, events, _⟩ := run
  have hcaught := (driver_faults_translated localTarget).2.2.1 opened s' none after
    Session.samplePlan none events result hstatement htyped hcounts htrace
  cases result with
  | ok outcome => cases hfails
  | error f =>
    refine ⟨f, rfl, (hcaught.failures huncancelled f rfl).2 ⟨hsummary, ?_⟩⟩
    rintro ⟨hlong, -⟩
    exact hlong (by decide +kernel)

/-- **A page that cannot be named fails with no error of the plan.** It has a statement, and the driver
is asked for nothing. -/
theorem unwritable_page_escapes :
    (∃ sql, (Session.lastRow.step .next).statement = .ok sql) ∧
      ∃ f after, (serving localTarget opened (Retained.navigate (some Session.lastRow) .next)).Trace
          [] ((.error f, after), opened) ∧ f.isPlanError = false ∧ f.isOrdinary = true := by
  have hlast : Session.LastNamed Session.lastRow := ⟨rfl, List.cons_ne_nil _ _, rfl, rfl⟩
  refine ⟨hlast.exists_statement, .ofNumeral .tooLongToWrite, some (Session.lastRow.step .next), ?_,
    rfl, rfl⟩
  rw [hlast.navigate_next]
  exact .done _

end QueryPlans.Connector
