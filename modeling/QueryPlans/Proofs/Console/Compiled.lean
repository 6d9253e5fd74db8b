import QueryPlans.Proofs.Console.Displayed
import QueryPlans.Proofs.Plan.Decided
import QueryPlans.Proofs.Plan.Turns

/-!
# Plans compiled offline

The plan in a reply can be compiled without a database: its summary is shown with its statement and the
statement of its count, or with the advice to review it.

* `Console.compileRead` — a text that was read is compiled.
* `Console.endOf` — what is to be shown in all, and how it ends.

Principal results: `compileRead_trace` — a run shows what was compiled, as far as it can be shown; `compile_unreadable`,
`compile_otherTables`, `compile_here` — what is compiled for each decision.
-/

namespace QueryPlans.Console

variable {reply sql summary : String} {p : Plan} {cs : List (Event Console.interface)}
  {es es' : List (Event Console.interface)} {ds : List Display} {ending : Ending} {host : Host}

/-- Compile a text that was read. -/
def compileRead (text : String) (host : Host) : ConsoleProgram Ending := do
  match ← report (compile text host) with
  | .ok () => return .finished
  | .error f => endCompile f

/-- The command reads a file with one kind of line ends. -/
theorem runCompile_eq (o : Origin) (file : String) :
    runCompile o file = compileRead (Text.unifyLineEnds file) o.host := rfl

/-- What is to be shown in all, and how it ends then. Only an error of the plan is shown. -/
def endOf (s : Shown) : List Display × Ending :=
  match s.failure with
  | none => (s.displays, .finished)
  | some f => if f.isPlanError then (s.displays ++ f.displays, .failed) else (s.displays, .uncaught f)

theorem endOf_of_none {s : Shown} (h : s.failure = none) : endOf s = (s.displays, .finished) := by
  unfold endOf
  rw [h]

/-- A failure to show is no error of the plan. -/
theorem endCompile_of_displayed {fault : Failure} (hshown : Displayed ds es (.error fault))
    (h : (endCompile fault).Trace es' ending) : es' = [] ∧ ending = .uncaught fault := by
  cases hshown
  exact Program.trace_done_iff.1 h

/-- What was compiled is shown, up to a display that cannot be shown: then the failure is uncaught. -/
theorem compileRead_trace {text : String} (h : (compileRead text host).Trace cs ending) :
    ∃ r, Displayed (endOf (compile text host)).1 cs r ∧
      ending = endUnless (endOf (compile text host)).2 r := by
  obtain ⟨es₁, es₂, r, hreport, hrest, rfl⟩ := Program.trace_bind_iff.1 h
  unfold endOf
  rcases report_trace hreport with ⟨rfl, rfl⟩ | ⟨fault, hshown, rfl⟩
  · cases hfailure : (compile text host).failure with
    | none =>
      rw [hfailure] at hrest
      obtain ⟨rfl, rfl⟩ := Program.trace_done_iff.1 hrest
      rw [List.append_nil]
      exact ⟨_, .all, rfl⟩
    | some f =>
      rw [hfailure] at hrest
      change (endCompile f).Trace es₂ ending at hrest
      unfold endCompile at hrest
      cases hplan : f.isPlanError with
      | true =>
        rw [hplan] at hrest
        obtain ⟨r, hshown, rfl⟩ := endShowing_trace hrest
        simp only [hplan, ↓reduceIte]
        exact ⟨r, Displayed.all.append hshown, rfl⟩
      | false =>
        rw [hplan] at hrest
        obtain ⟨rfl, rfl⟩ := Program.trace_done_iff.1 hrest
        simp only [hplan, Bool.false_eq_true, ↓reduceIte]
        rw [List.append_nil]
        exact ⟨_, .all, rfl⟩
  · obtain ⟨rfl, rfl⟩ := endCompile_of_displayed hshown hrest
    rw [List.append_nil]
    refine ⟨.error fault, ?_, rfl⟩
    split
    · exact hshown
    · split
      · exact hshown.append_right _
      · exact hshown

/-! ## Failures -/

/-- A failure without a statement is shown as its message. -/
theorem endOf_failure {early : List Display} {f : Failure} (hplan : f.isPlanError = true)
    (hstatement : f.statement? = none) :
    endOf ⟨early, some f⟩ = (early ++ [errorLine f.message], .failed) := by
  have hdisplays : f.displays = [errorLine f.message] := by
    unfold Failure.displays
    rw [hstatement]
    rfl
  rw [← hdisplays]
  exact if_pos hplan

theorem endOf_foreign {early : List Display} {f : Failure} (hforeign : f.isPlanError = false) :
    endOf ⟨early, some f⟩ = (early, .uncaught f) := by
  unfold endOf
  exact if_neg (by simp [hforeign])

/-- A reply without a plan, or a plan without a statement, has no statement that failed. -/
theorem statement?_unreadable (e : Plan.ReadError) : (Failure.unreadable e).statement? = none := by
  cases e <;> rfl

theorem statement?_ofStatement (e : Plan.StatementError) : (Failure.ofStatement e).statement? = none := by
  cases e <;> rfl

/-! ## What is compiled for a decision -/

theorem compile_unreadable {e : Plan.ReadError} (hread : Plan.read reply host = .error e) :
    compile reply host = ⟨[], some (.unreadable e)⟩ := by
  unfold compile
  rw [hread]

theorem compile_otherTables (hread : Plan.read reply host = .ok p)
    (hother : p.needOtherTables = true) :
    compile reply host = ⟨[.styledLine "bold green" Plan.needOtherTablesMessage], none⟩ := by
  unfold compile compilePlan
  rw [hread]
  simp only [Plan.summary_of_otherTables hother, hother, ↓reduceIte]
  rfl

/-- The plan is shown as its summary, then what was compiled. -/
theorem compile_here (hread : Plan.read reply host = .ok p) (hhere : p.needOtherTables = false)
    (hnamed : p.summary = .ok summary) :
    compile reply host =
      ⟨.styledLine "bold green" summary :: (compiled p).displays, (compiled p).failure⟩ := by
  unfold compile compilePlan
  rw [hread]
  simp only [hnamed, hhere]
  rfl

theorem compiled_unstated {e : Plan.StatementError} (hstatement : p.statement = .error e) :
    compiled p = ⟨[], some (.ofStatement e)⟩ := by
  unfold compiled
  rw [hstatement]

theorem compiled_query {count : String} (hsql : p.statement = .ok sql) (hreads : p.isReadOnly = true)
    (hcount : p.countStatement? = some count) :
    compiled p = ⟨[.statement sql, .statement count "Count SQL"], none⟩ := by
  unfold compiled companion
  rw [hsql, if_pos hreads, hcount]
  rfl

theorem compiled_review {action : String} (hsql : p.statement = .ok sql)
    (hwrites : p.isReadOnly = false) (hword : p.actionInCapitals = .ok action) :
    compiled p = ⟨[.statement sql, advice action], none⟩ := by
  unfold compiled companion
  rw [hsql, if_neg (by simp [hwrites]), hword]
  rfl

end QueryPlans.Console
