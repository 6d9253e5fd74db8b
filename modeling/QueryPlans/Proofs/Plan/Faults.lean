import QueryPlans.Proofs.Plan.Naming
import QueryPlans.Proofs.Program.Forward

/-!
# Plans that cannot be run

Principal results: `execute_fails` — a plan that is run fails with its statement, or with its count if
that ends in a fault of no connector or in no number; `accept_fails`, `navigate_fails` — a request fails
so, or because a number cannot be written; `accept_stops`, `navigate_stops` — a cancellation ends a
request as it is.
-/

namespace QueryPlans

variable {es : List (Event Database.interface)} {f : Failure} {g : Fault} {p : Plan}
  {sql summary : String}

/-- A cancellation is no fault of a connector. -/
theorem Fault.isConnector_of_cancellation (h : g.isCancellation = true) : g.isConnector = false := by
  cases g with
  | raised kind message => cases kind <;> first | rfl | cases h
  | invalid issues => rfl

namespace Plan

/-- Why a plan that is run fails: its statement fails, and then nothing else is asked; or its count does,
with a fault of no connector; or the count is no number. -/
inductive Fails (sql : String) (es : List (Event Database.interface)) : Failure → Prop
  | statement (g : Fault)
      (mem : (.answered (.execute sql) (.error g) : Event Database.interface) ∈ es)
      (only : ∀ c reply, (.answered c reply : Event Database.interface) ∈ es →
        (.answered c reply : Event Database.interface) = .answered (.execute sql) (.error g)) :
      Fails sql es (executionFailure sql g)
  | count (rows : Rows) (counting : String) (g : Fault)
      (run : (.answered (.execute sql) (.ok rows) : Event Database.interface) ∈ es)
      (mem : (.answered (.fetchValue counting) (.error g) : Event Database.interface) ∈ es)
      (foreign : g.isConnector = false) : Fails sql es (.fault g)
  | number (rows : Rows) (counting : String) (v : Json) (g : Fault)
      (run : (.answered (.execute sql) (.ok rows) : Event Database.interface) ∈ es)
      (mem : (.answered (.fetchValue counting) (.ok v) : Event Database.interface) ∈ es)
      (total : Database.totalOf? v = .error g) : Fails sql es (.fault g)

theorem Fails.noted {entry : LogEntry} (h : Fails sql es f) : Fails sql (.noted entry :: es) f := by
  cases h with
  | statement g mem only =>
    exact .statement g (List.mem_cons_of_mem _ mem) fun c reply hmem => only c reply (by simpa using hmem)
  | count rows counting g run mem foreign =>
    exact .count rows counting g (List.mem_cons_of_mem _ run) (List.mem_cons_of_mem _ mem) foreign
  | number rows counting v g run mem total =>
    exact .number rows counting v g (List.mem_cons_of_mem _ run) (List.mem_cons_of_mem _ mem) total

theorem countTotal_of_connector (h : g.isConnector = true) : countTotal (.error g) = .ok none :=
  if_pos h

theorem countTotal_of_foreign (h : g.isConnector = false) : countTotal (.error g) = .error g :=
  if_neg (by simp [h])

/-- A plan that is run fails with its statement or with its count. -/
theorem execute_fails (h : (p.execute sql summary).Trace es (.error f)) : Fails sql es f := by
  rcases execute_trace h with
    ⟨g, notes, rfl, hnotes, heq⟩ | ⟨rows, counting, total, notes, rfl, hcount, -, heq⟩
  · cases heq
    refine .statement g List.mem_cons_self fun c reply hmem => ?_
    rcases List.mem_cons.1 hmem with hfirst | hlate
    · exact hfirst
    · exact absurd hlate (hnotes.not_mem c reply)
  rcases countAll_trace hcount with ⟨-, rfl, rfl⟩ | ⟨sql', reply, more, -, rfl, -, rfl⟩
  · cases heq
  cases reply with
  | ok v =>
    change _ = p.executedWith sql summary rows (Database.totalOf? v) at heq
    cases htotal : Database.totalOf? v with
    | error g =>
      rw [htotal] at heq
      cases heq
      exact .number rows sql' v g List.mem_cons_self (by simp) htotal
    | ok total =>
      rw [htotal] at heq
      cases heq
  | error g =>
    cases hconnector : g.isConnector with
    | true =>
      rw [countTotal_of_connector hconnector] at heq
      cases heq
    | false =>
      rw [countTotal_of_foreign hconnector] at heq
      cases heq
      exact .count rows sql' g List.mem_cons_self (by simp) hconnector

/-- A cancellation ends the run of a plan as it is. -/
theorem execute_stops {r : Except Failure Outcome} (h : (p.execute sql summary).Trace es r)
    (hraises : Raises es g) (hcancelled : g.isCancellation = true) : r = .error (.fault g) := by
  have hforeign := Fault.isConnector_of_cancellation hcancelled
  rcases execute_trace h with
    ⟨g', notes, rfl, hnotes, rfl⟩ | ⟨rows, counting, total, notes, rfl, hcount, hnotes, rfl⟩
  · rcases raises_error_cons.1 hraises with rfl | hlate
    · unfold executionFailure
      rw [if_neg (by simp [hforeign])]
    · exact absurd hlate hnotes.not_raises
  · rcases raises_append.1 (raises_ok_cons.1 hraises) with hcounting | hlate
    · rcases countAll_trace hcount with ⟨-, rfl, -⟩ | ⟨sql', reply, more, -, rfl, hmore, rfl⟩
      · exact absurd hcounting not_raises_nil
      · cases reply with
        | ok v => exact absurd (raises_ok_cons.1 hcounting) hmore.not_raises
        | error g' =>
          rcases raises_error_cons.1 hcounting with rfl | hlater
          · rw [countTotal_of_foreign hforeign]
            rfl
          · exact absurd hlater hmore.not_raises
    · exact absurd hlate hnotes.not_raises

theorem carryOut_stops {r : Except Failure Outcome} (h : (p.carryOut sql summary).Trace es r)
    (hraises : Raises es g) (hcancelled : g.isCancellation = true) : r = .error (.fault g) := by
  unfold carryOut at h
  split at h
  · exact execute_stops h hraises hcancelled
  · exact absurd hraises (holdForReview_trace h).1.not_raises

end Plan

namespace Retained

variable {retained after : Retained} {direction : Navigation} {r : Except Failure Outcome}

/-- A cancellation ends a request as it is. -/
theorem accept_stops {sql? : Option String} (h : (retained.accept p sql?).Trace es (r, after))
    (hraises : Raises es g) (hcancelled : g.isCancellation = true) : r = .error (.fault g) := by
  rcases accept_trace h with ⟨hfree, -⟩ | ⟨summary, sql, -, -, -, -, hcarry⟩
  · exact absurd hraises hfree.not_raises
  · exact Plan.carryOut_stops hcarry hraises hcancelled

theorem navigate_stops (h : (retained.navigate direction).Trace es (r, after))
    (hraises : Raises es g) (hcancelled : g.isCancellation = true) : r = .error (.fault g) := by
  rcases navigate_trace h with ⟨rfl, -⟩ | ⟨current, sql, -, -, -, -, hshow⟩
  · exact absurd hraises not_raises_nil
  rcases showPage_trace hshow with ⟨hfree, -⟩ | ⟨entry, tail, summary, rfl, -, hexec⟩
  · exact absurd hraises hfree.not_raises
  · exact Plan.execute_stops hexec (raises_noted_cons.1 hraises) hcancelled

/-- A plan with a statement fails to be accepted only if it cannot be summed up or cannot be run. -/
theorem accept_fails {sql? : Option String} {compiled : String} (hsql : p.statement = .ok compiled)
    (h : (retained.accept p sql?).Trace es (.error f, after)) :
    (∃ e, p.summary = .error e ∧ f = .ofNumeral e ∧ CallFree es) ∨
      (∃ summary, p.summary = .ok summary) ∧ ∃ sql, Plan.Fails sql es f := by
  rcases accept_trace h with ⟨hfree, -, hwhy⟩ | ⟨summary, sql, hsummary, -, -, -, hcarry⟩
  · rcases hwhy with ⟨e, hsummary, heq⟩ | ⟨summary, -, heq⟩ | ⟨e, hor, heq⟩
    · cases heq
      exact .inl ⟨e, hsummary, rfl, hfree⟩
    · cases heq
    · unfold Plan.statementOr at hor
      rw [hsql] at hor
      split at hor <;> cases hor
  · refine .inr ⟨⟨summary, hsummary⟩, sql, ?_⟩
    unfold Plan.carryOut at hcarry
    split at hcarry
    · exact Plan.execute_fails hcarry
    · cases Plan.holdForReview_ok hsql hcarry

/-- A request for a page that has a statement fails without a page to turn from, or because the number of
the page cannot be written, or because the page cannot be run. -/
theorem navigate_fails
    (hsql : ∀ current, retained = some current → current.isReadOnly = true →
      ∃ sql, (current.step direction).statement = .ok sql)
    (h : (retained.navigate direction).Trace es (.error f, after)) :
    (es = [] ∧ f.isPlanError = true ∧ ∀ current, retained = some current → current.isReadOnly = false) ∨
      ∃ current, retained = some current ∧ current.isReadOnly = true ∧
        ((es = [] ∧ f = .ofNumeral .tooLongToWrite ∧
            ¬ Numeral.IsWritable (current.step direction).page) ∨
          Numeral.IsWritable (current.step direction).page ∧ ∃ sql, Plan.Fails sql es f) := by
  cases retained with
  | none =>
    obtain ⟨rfl, heq⟩ := Program.trace_done_iff.1 h
    cases heq
    exact .inl ⟨rfl, rfl, fun _ hsome => nomatch hsome⟩
  | some current =>
    cases hread : current.isReadOnly with
    | false =>
      unfold navigate at h
      simp only [hread, Bool.false_eq_true, ↓reduceIte] at h
      obtain ⟨rfl, heq⟩ := Program.trace_done_iff.1 h
      cases heq
      exact .inl ⟨rfl, rfl, fun _ hsome => Option.some.inj hsome ▸ hread⟩
    | true =>
      obtain ⟨sql, hstatement⟩ := hsql current rfl hread
      refine .inr ⟨current, rfl, hread, ?_⟩
      rw [navigate_of_statement hread hstatement] at h
      obtain ⟨es₁, es₂, shown, hshow, hend, rfl⟩ := Program.trace_bind_iff.1 h
      obtain ⟨rfl, heq⟩ := Program.trace_done_iff.1 hend
      obtain ⟨rfl, -⟩ := Prod.mk.inj heq
      rw [List.append_nil]
      by_cases hpage : Numeral.IsWritable (current.step direction).page
      · obtain ⟨-, hwindow⟩ :=
          (Plan.exists_statement_iff (by simpa using hread)).1 ⟨sql, hstatement⟩
        obtain ⟨summary, hsummary⟩ := Plan.exists_summary hwindow.limit hpage
        refine .inr ⟨hpage, sql, ?_⟩
        unfold showPage at hshow
        rw [Numeral.write?_eq_ok hpage, hsummary] at hshow
        obtain ⟨tail, rfl, hexec⟩ := Program.trace_log_bind_iff.1 hshow
        exact (Plan.execute_fails hexec).noted
      · rw [showPage_of_unwritable hpage] at hshow
        obtain ⟨rfl, heq⟩ := Program.trace_done_iff.1 hshow
        cases heq
        exact .inl ⟨rfl, rfl, hpage⟩

end Retained

end QueryPlans
