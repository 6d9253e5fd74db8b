import QueryPlans.Plan.Accept
import QueryPlans.Proofs.Program.Trace

/-!
# What accepting and paging through plans can do

One inversion lemma for each program of the coordinator; every later proof takes these and opens no
program.

* `CallFree` — events that are entries of the log only.
* `Plan.countTotal` — the number of rows, by the answer to the count.
* `Plan.execute_trace`, `Plan.carryOut_trace` — what running a plan, or holding it for review, can do.
* `Retained.accept_trace`, `Retained.navigate_trace` — what a plan that arrives and a request for
  another page can do, and which plan is retained then.
-/

namespace QueryPlans

variable {I : Interface}

/-- The events are entries of the log only. -/
def CallFree (es : List (Event I)) : Prop := ∀ e ∈ es, e.call? = none

@[simp] theorem callFree_nil : CallFree ([] : List (Event I)) := fun _ h => nomatch h

@[simp] theorem callFree_noted_cons {entry : LogEntry} {es : List (Event I)} :
    CallFree (.noted entry :: es) ↔ CallFree es := by
  simp [CallFree, Event.call?]

theorem CallFree.not_mem {es : List (Event I)} (h : CallFree es) (c : I.Call) (r : I.Reply c) :
    .answered c r ∉ es := by
  intro hmem
  have := h _ hmem
  simp [Event.call?] at this

namespace Plan

/-- The number of rows by the answer to the count: a fault of the connector leaves it unknown. -/
def countTotal : Except Fault Json → Except Fault (Option Int)
  | .ok value => Database.totalOf? value
  | .error f => if f.isConnector then .ok none else .error f

/-- Counting sends the count of the plan and nothing else. -/
theorem countAll_trace {p : Plan} {es : List (Event Database.interface)}
    {total : Except Fault (Option Int)} (h : p.countAll.Trace es total) :
    (p.countStatement? = none ∧ es = [] ∧ total = .ok none) ∨
      ∃ sql reply notes, p.countStatement? = some sql ∧
        es = .answered (.fetchValue sql) reply :: notes ∧ CallFree notes ∧
        total = countTotal reply := by
  unfold countAll at h
  cases hc : p.countStatement? with
  | none =>
    rw [hc] at h
    obtain ⟨rfl, rfl⟩ := Program.trace_done_iff.1 h
    exact .inl ⟨rfl, rfl, rfl⟩
  | some sql =>
    rw [hc] at h
    obtain ⟨reply, tail, rfl, hnext⟩ := Program.trace_call_bind_iff.1 h
    refine .inr ⟨sql, reply, tail, rfl, rfl, ?_⟩
    cases reply with
    | ok value =>
      obtain ⟨rfl, rfl⟩ := Program.trace_done_iff.1 hnext
      exact ⟨callFree_nil, rfl⟩
    | error f =>
      simp only at hnext
      split at hnext
      · rename_i hf
        obtain ⟨_, rfl, hend⟩ := Program.trace_log_bind_iff.1 hnext
        obtain ⟨rfl, rfl⟩ := Program.trace_done_iff.1 hend
        simp [countTotal, hf]
      · rename_i hf
        obtain ⟨rfl, rfl⟩ := Program.trace_done_iff.1 hnext
        simp [countTotal, hf]

/-- What running a plan ends in, once its rows are there and the count has ended. -/
def executedWith (p : Plan) (sql summary : String) (rows : Rows) :
    Except Fault (Option Int) → Except Failure Outcome
  | .error f => .error (.fault f)
  | .ok total =>
    .ok (.executed p summary sql p.countStatement? rows ⟨p.page, p.limit, rows.rowCount, total⟩)

/-- Running a plan sends its statement, then, if there are rows, its count. -/
theorem execute_trace {p : Plan} {sql summary : String} {es : List (Event Database.interface)}
    {r : Except Failure Outcome} (h : (p.execute sql summary).Trace es r) :
    (∃ f notes, es = .answered (.execute sql) (.error f) :: notes ∧ CallFree notes ∧
        r = .error (executionFailure sql f)) ∨
      ∃ rows counting total notes, es = .answered (.execute sql) (.ok rows) :: (counting ++ notes) ∧
        p.countAll.Trace counting total ∧ CallFree notes ∧
        r = p.executedWith sql summary rows total := by
  unfold execute at h
  obtain ⟨reply, tail, rfl, hnext⟩ := Program.trace_call_bind_iff.1 h
  cases reply with
  | error f =>
    refine .inl ⟨f, tail, rfl, ?_⟩
    simp only at hnext
    split at hnext
    · obtain ⟨_, rfl, hend⟩ := Program.trace_log_bind_iff.1 hnext
      obtain ⟨rfl, rfl⟩ := Program.trace_done_iff.1 hend
      exact ⟨by simp, rfl⟩
    · obtain ⟨rfl, rfl⟩ := Program.trace_done_iff.1 hnext
      exact ⟨callFree_nil, rfl⟩
  | ok rows =>
    obtain ⟨counting, notes, total, hcount, hend, rfl⟩ := Program.trace_bind_iff.1 hnext
    refine .inr ⟨rows, counting, total, notes, rfl, hcount, ?_⟩
    cases total with
    | error f =>
      obtain ⟨rfl, rfl⟩ := Program.trace_done_iff.1 hend
      exact ⟨callFree_nil, rfl⟩
    | ok total =>
      obtain ⟨_, rfl, hdone⟩ := Program.trace_log_bind_iff.1 hend
      obtain ⟨rfl, rfl⟩ := Program.trace_done_iff.1 hdone
      exact ⟨by simp, rfl⟩

/-- A plan that changes data is handed back without a call. -/
theorem holdForReview_trace {p : Plan} {sql summary : String}
    {es : List (Event Database.interface)} {r : Except Failure Outcome}
    (h : (p.holdForReview sql summary).Trace es r) :
    CallFree es ∧ (r = .ok (.review p summary sql) ∨ ∃ f, r = .error (.fault f)) := by
  unfold holdForReview at h
  split at h
  · obtain ⟨rfl, rfl⟩ := Program.trace_done_iff.1 h
    exact ⟨callFree_nil, .inr ⟨_, rfl⟩⟩
  · obtain ⟨_, rfl, hend⟩ := Program.trace_log_bind_iff.1 h
    obtain ⟨rfl, rfl⟩ := Program.trace_done_iff.1 hend
    exact ⟨by simp, .inl rfl⟩

end Plan

namespace Retained

/-- A plan that arrives leaves the retained one in place without a call, or it is retained and
carried out with its statement. -/
theorem accept_trace {retained after : Retained} {p : Plan} {sql? : Option String}
    {es : List (Event Database.interface)} {r : Except Failure Outcome}
    (h : (retained.accept p sql?).Trace es (r, after)) :
    (CallFree es ∧ after = retained ∧
        ((∃ e, p.summary = .error e ∧ r = .error (.ofNumeral e)) ∨
          (∃ summary, p.needOtherTables = true ∧ r = .ok (.needOtherTables p summary)) ∨
          ∃ e, p.statementOr sql? = .error e ∧ r = .error (.ofStatement e))) ∨
      ∃ summary sql, p.summary = .ok summary ∧ p.needOtherTables = false ∧
        p.statementOr sql? = .ok sql ∧ after = some p ∧ (p.carryOut sql summary).Trace es r := by
  unfold accept at h
  cases hsum : p.summary with
  | error e =>
    rw [hsum] at h
    obtain ⟨rfl, heq⟩ := Program.trace_done_iff.1 h
    obtain ⟨rfl, rfl⟩ := Prod.mk.inj heq
    exact .inl ⟨callFree_nil, rfl, .inl ⟨e, rfl, rfl⟩⟩
  | ok summary =>
    rw [hsum] at h
    simp only at h
    split at h
    · rename_i hother
      obtain ⟨_, rfl, hend⟩ := Program.trace_log_bind_iff.1 h
      obtain ⟨rfl, heq⟩ := Program.trace_done_iff.1 hend
      obtain ⟨rfl, rfl⟩ := Prod.mk.inj heq
      exact .inl ⟨by simp, rfl, .inr (.inl ⟨summary, hother, rfl⟩)⟩
    · rename_i hother
      cases hsql : p.statementOr sql? with
      | error e =>
        rw [hsql] at h
        obtain ⟨rfl, heq⟩ := Program.trace_done_iff.1 h
        obtain ⟨rfl, rfl⟩ := Prod.mk.inj heq
        exact .inl ⟨callFree_nil, rfl, .inr (.inr ⟨e, rfl, rfl⟩)⟩
      | ok sql =>
        rw [hsql] at h
        obtain ⟨es₁, es₂, a, hcarry, hend, rfl⟩ := Program.trace_bind_iff.1 h
        obtain ⟨rfl, heq⟩ := Program.trace_done_iff.1 hend
        obtain ⟨rfl, rfl⟩ := Prod.mk.inj heq
        exact .inr ⟨summary, sql, rfl, by simpa using hother, rfl, rfl, by simpa using hcarry⟩

/-- A plan at another page is shown by running it, unless a number in it cannot be written. -/
theorem showPage_trace {p : Plan} {sql : String} {es : List (Event Database.interface)}
    {r : Except Failure Outcome} (h : (showPage p sql).Trace es r) :
    (CallFree es ∧ ∃ e, r = .error (.ofNumeral e)) ∨
      ∃ entry tail summary, es = .noted entry :: tail ∧ p.summary = .ok summary ∧
        (p.execute sql summary).Trace tail r := by
  unfold showPage at h
  split at h
  · obtain ⟨rfl, rfl⟩ := Program.trace_done_iff.1 h
    exact .inl ⟨callFree_nil, _, rfl⟩
  · obtain ⟨tail, rfl, hnext⟩ := Program.trace_log_bind_iff.1 h
    split at hnext
    · obtain ⟨rfl, rfl⟩ := Program.trace_done_iff.1 hnext
      exact .inl ⟨by simp, _, rfl⟩
    · rename_i summary hsum
      exact .inr ⟨_, tail, summary, rfl, hsum, hnext⟩

/-- A request for another page fails at once and leaves the retained plan in place, or the retained
plan only reads, has a statement at that page, and is retained and shown there. -/
theorem navigate_trace {retained after : Retained} {direction : Navigation}
    {es : List (Event Database.interface)} {r : Except Failure Outcome}
    (h : (retained.navigate direction).Trace es (r, after)) :
    (es = [] ∧ after = retained ∧ ∃ f, r = .error f) ∨
      ∃ current sql, retained = some current ∧ current.isReadOnly = true ∧
        (current.step direction).statement = .ok sql ∧ after = some (current.step direction) ∧
        (showPage (current.step direction) sql).Trace es r := by
  unfold navigate at h
  cases retained with
  | none =>
    obtain ⟨rfl, heq⟩ := Program.trace_done_iff.1 h
    obtain ⟨rfl, rfl⟩ := Prod.mk.inj heq
    exact .inl ⟨rfl, rfl, _, rfl⟩
  | some current =>
    simp only at h
    split at h
    · rename_i hread
      cases hsql : (current.step direction).statement with
      | error e =>
        rw [hsql] at h
        obtain ⟨rfl, heq⟩ := Program.trace_done_iff.1 h
        obtain ⟨rfl, rfl⟩ := Prod.mk.inj heq
        exact .inl ⟨rfl, rfl, _, rfl⟩
      | ok sql =>
        rw [hsql] at h
        obtain ⟨es₁, es₂, a, hshow, hend, rfl⟩ := Program.trace_bind_iff.1 h
        obtain ⟨rfl, heq⟩ := Program.trace_done_iff.1 hend
        obtain ⟨rfl, rfl⟩ := Prod.mk.inj heq
        exact .inr ⟨current, sql, rfl, hread, hsql, rfl, by simpa using hshow⟩
    · obtain ⟨rfl, heq⟩ := Program.trace_done_iff.1 h
      obtain ⟨rfl, rfl⟩ := Prod.mk.inj heq
      exact .inl ⟨rfl, rfl, _, rfl⟩

end Retained

end QueryPlans
