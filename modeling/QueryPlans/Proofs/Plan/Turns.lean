import QueryPlans.Program.Run
import QueryPlans.Proofs.Plan.Paging
import QueryPlans.Proofs.Plan.Retention

/-!
# Turning pages

Requests for another page are answered one after the other.  What is handed on from one to the next
is the retained plan; the database may answer each call, or fail, as it likes.

* `Navigation.target`, `Navigation.walk` — the page that one step, or several, lead to.
* `sent` — the calls among events, in order.
* `Turn` — a request for another page with what was done for it; `Retained.turn` — such a request in a
  world; `Retained.turns` — those of a run.
* `scripted` — a database that answers its statements from a list; `firstRows` — a plan to page through.

Principal results: `Plan.execute_shows` — a plan with an outcome has sent its statement and its count;
`Turn.Possible.shows` — a turn with an outcome did this for the plan that it retained;
`Turn.Possible.moved` — so did one that the database refused, up to the refusal.
-/

namespace QueryPlans

variable {σ : Type}

/-! ## Pages -/

namespace Navigation

/-- The page that a step leads to from a page. -/
def target (page : Int) : Navigation → Int
  | next => page + 1
  | previous => max 1 (page - 1)

theorem one_le_target {page : Int} (h : 1 ≤ page) (direction : Navigation) :
    1 ≤ target page direction := by
  cases direction with
  | next => exact Int.le_add_one h
  | previous => exact Int.le_max_left 1 _

/-- The page that several steps lead to. -/
def walk (page : Int) (directions : List Navigation) : Int := directions.foldl target page

end Navigation

namespace Plan

theorem step_eq (p : Plan) (direction : Navigation) :
    p.step direction = p.atPage (Navigation.target p.page direction) := by
  cases direction <;> rfl

@[simp] theorem step_page (p : Plan) (direction : Navigation) :
    (p.step direction).page = Navigation.target p.page direction := by
  rw [step_eq]
  rfl

@[simp] theorem step_tables (p : Plan) (direction : Navigation) :
    (p.step direction).tables = p.tables := by
  rw [step_eq]
  rfl

@[simp] theorem step_atPage (p : Plan) (direction : Navigation) (page : Int) :
    (p.step direction).atPage page = p.atPage page := by
  rw [step_eq, atPage_atPage]

end Plan

/-! ## Calls among events -/

section
variable {I : Interface}

def sent (es : List (Event I)) : List I.Call := es.filterMap Event.call?

@[simp] theorem sent_append (es fs : List (Event I)) : sent (es ++ fs) = sent es ++ sent fs := by
  simp [sent]

theorem exists_of_mem_sent {es : List (Event I)} {c : I.Call} (h : c ∈ sent es) :
    ∃ r, .answered c r ∈ es := by
  obtain ⟨e, hmem, he⟩ := List.mem_filterMap.1 h
  cases e with
  | answered c' r =>
    cases he
    exact ⟨r, hmem⟩
  | noted entry => cases he

theorem CallFree.sent_eq_nil {es : List (Event I)} (h : CallFree es) : sent es = [] := by
  unfold sent
  rw [List.filterMap_eq_nil_iff]
  exact h

end

/-! ## Plans with an outcome -/

namespace Plan

variable {p : Plan} {sql summary : String} {es : List (Event Database.interface)} {o : Outcome}

/-- The outcome is that the plan was run, and it reports the statements. -/
structure Reports (p : Plan) (sql count : String) (o : Outcome) : Prop where
  executed : o.isExecuted = true
  plan : o.plan = p
  sql : o.sql? = some sql
  count : o.countSql? = some count

theorem exists_countStatement (htables : p.tables ≠ []) : ∃ count, p.countStatement? = some count := by
  unfold countStatement? fromClause
  cases h : p.tables with
  | nil => exact absurd h htables
  | cons anchor others => exact ⟨_, rfl⟩

theorem execute_shows (htables : p.tables ≠ []) (h : (p.execute sql summary).Trace es (.ok o)) :
    ∃ count, p.countStatement? = some count ∧ sent es = [.execute sql, .fetchValue count] ∧
      p.Reports sql count o := by
  obtain ⟨count, hcount⟩ := p.exists_countStatement htables
  refine ⟨count, hcount, ?_⟩
  rcases execute_trace h with ⟨f, -, -, -, hr⟩ | ⟨rows, counting, total, notes, rfl, hc, hnotes, hr⟩
  · cases hr
  have hsent : sent counting = [.fetchValue count] := by
    rcases countAll_trace hc with ⟨hnone, -, -⟩ | ⟨sql', reply, more, hsome, rfl, hmore, -⟩
    · rw [hcount] at hnone
      cases hnone
    · rw [hcount] at hsome
      cases hsome
      change Database.Call.fetchValue count :: sent more = _
      rw [hmore.sent_eq_nil]
      rfl
  cases total with
  | error f => cases hr
  | ok total =>
    cases hr
    refine ⟨?_, ⟨rfl, rfl, rfl, hcount⟩⟩
    change Database.Call.execute sql :: sent (counting ++ notes) = _
    rw [sent_append, hsent, hnotes.sent_eq_nil]
    rfl

end Plan

/-! ## Turns -/

/-- A request for another page with what was done for it. -/
structure Turn where
  direction : Navigation
  before : Retained
  events : List (Event Database.interface)
  result : Except Failure Outcome
  after : Retained

namespace Retained

/-- A request for another page of the retained plan. -/
def turn (world : World Database.interface σ) (retained : Retained) (st : σ)
    (direction : Navigation) : Turn :=
  let r := (retained.navigate direction).run world st
  ⟨direction, retained, r.events, r.value.1, r.value.2⟩

/-- The turns of a run: each starts from the plan that the one before it retained. -/
def turns (world : World Database.interface σ) : Retained → σ → List Navigation → List Turn
  | _, _, [] => []
  | retained, st, direction :: rest =>
    retained.turn world st direction ::
      turns world (retained.turn world st direction).after
        ((retained.navigate direction).run world st).state rest

end Retained

namespace Turn

variable {t : Turn} {o : Outcome}

/-- The turn is one that can be made, however its calls are answered. -/
def Possible (t : Turn) : Prop :=
  (t.before.navigate t.direction).Trace t.events (t.result, t.after)

/-- The database refused the statement of the page. -/
def Refused (t : Turn) : Prop := ∃ message sql, t.result = .error (.plan (.execution message sql))

/-- The error that a request ends in is that of a refused statement. -/
def isRefusal : Except Failure Outcome → Bool
  | .error (.plan (.execution _ _)) => true
  | _ => false

theorem isRefusal_iff {result : Except Failure Outcome} :
    isRefusal result = true ↔ ∃ message sql, result = .error (.plan (.execution message sql)) := by
  unfold isRefusal
  split
  · simp
  · rename_i h
    simpa using h

instance (t : Turn) : Decidable t.Refused := decidable_of_iff _ isRefusal_iff

end Turn

namespace Retained

theorem turn_possible (world : World Database.interface σ) (retained : Retained) (st : σ)
    (direction : Navigation) : (retained.turn world st direction).Possible :=
  Program.run_trace world (retained.navigate direction) st

theorem possible_of_mem_turns {world : World Database.interface σ} {t : Turn}
    {directions : List Navigation} {retained : Retained} {st : σ}
    (h : t ∈ retained.turns world st directions) : t.Possible := by
  induction directions generalizing retained st with
  | nil => cases h
  | cons direction rest ih =>
    rw [turns] at h
    rcases List.mem_cons.1 h with rfl | h
    · exact turn_possible world retained st direction
    · exact ih h

/-- Without a call the database refuses nothing. -/
theorem navigate_not_refused {retained after : Retained} {direction : Navigation}
    {r : Except Failure Outcome} (h : (retained.navigate direction).Trace [] (r, after))
    (message sql : String) : r ≠ .error (.plan (.execution message sql)) := by
  rintro rfl
  unfold navigate at h
  cases retained with
  | none => cases (Program.trace_done_iff.1 h).2
  | some current =>
    simp only at h
    split at h
    · cases hsql : (current.step direction).statement with
      | error e =>
        rw [hsql] at h
        cases e <;> cases (Program.trace_done_iff.1 h).2
      | ok sql' =>
        rw [hsql] at h
        obtain ⟨es₁, es₂, a, hshow, hend, hnil⟩ := Program.trace_bind_iff.1 h
        obtain ⟨rfl, rfl⟩ := List.nil_eq_append_iff.1 hnil
        cases (Program.trace_done_iff.1 hend).2
        rcases showPage_trace hshow with ⟨-, e, he⟩ | ⟨_, _, _, hcons, -⟩
        · cases he
        · cases hcons
    · cases (Program.trace_done_iff.1 h).2

end Retained

namespace Turn

variable {t : Turn} {o : Outcome}

/-- A turn with an outcome has run the plan that it retained. -/
theorem Possible.shows (h : t.Possible) (ho : t.result = .ok o) :
    ∃ current sql summary entry tail, t.before = some current ∧ current.isReadOnly = true ∧
      (current.step t.direction).statement = .ok sql ∧
      t.after = some (current.step t.direction) ∧ t.events = .noted entry :: tail ∧
      ((current.step t.direction).execute sql summary).Trace tail (.ok o) := by
  unfold Possible at h
  rw [ho] at h
  rcases Retained.navigate_trace h with
    ⟨-, -, f, hf⟩ | ⟨current, sql, hbefore, hread, hsql, hafter, hshow⟩
  · cases hf
  rcases Retained.showPage_trace hshow with ⟨-, e, he⟩ | ⟨entry, tail, summary, hevents, -, hexec⟩
  · cases he
  · exact ⟨current, sql, summary, entry, tail, hbefore, hread, hsql, hafter, hevents, hexec⟩

/-- A turn that the database refused retains the plan at the page that it did not show. -/
theorem Possible.moved (h : t.Possible) (hrefused : t.Refused) :
    ∃ current, t.before = some current ∧ t.after = some (current.step t.direction) := by
  obtain ⟨message, sql, hresult⟩ := hrefused
  unfold Possible at h
  rcases Retained.navigate_trace h with ⟨hnil, -, -⟩ | ⟨current, _, hbefore, -, -, hafter, -⟩
  · rw [hnil] at h
    exact absurd hresult (Retained.navigate_not_refused h message sql)
  · exact ⟨current, hbefore, hafter⟩

end Turn

/-! ## A database that answers from a list -/

/-- A database that answers each statement with the next reply, and counts no rows. -/
def scripted : World Database.interface (List (Except Fault Rows))
  | [], .execute _ => (.ok ⟨[], [], 0⟩, [])
  | reply :: rest, .execute _ => (reply, rest)
  | replies, .fetchValue _ => (.ok (.int 0), replies)
  | replies, .connect => (.ok (), replies)
  | replies, .close => (.ok (), replies)
  | replies, .describeColumns _ => (.ok [], replies)
  | replies, .describeForeignKeys _ => (.ok [], replies)
  | replies, .tableExists _ => (.ok false, replies)

/-- The first rows of a table. -/
def firstRows : Plan := { Plan.empty with tables := ["t"], limit := 10 }

theorem exists_ok_of_toOption {ε α β : Type} {x : Except ε α} {f : α → β} {b : β}
    (h : x.toOption.map f = some b) : ∃ a, x = .ok a ∧ f a = b := by
  cases x with
  | error e => cases h
  | ok a => exact ⟨a, rfl, Option.some.inj h⟩

end QueryPlans
