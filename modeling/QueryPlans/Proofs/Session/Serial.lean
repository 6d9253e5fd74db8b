import QueryPlans.Proofs.Program.Lock
import QueryPlans.Proofs.Session.Answered
import QueryPlans.Proofs.Session.Shared

/-!
# Requests one after the other

The requests of a session that are under way at the same time take turns by a lock.  So each is answered
from the plan that the one before it left, as if it had come when that one had ended.

* `Session.Keeps` — which plan is retained after an event.
* `Session.exchange?` — the exchange with the database or the model in an event.
* `Session.beside` — a world together with the retained plan.
* `Session.FixedLookups` — a world with a catalogue that stays as it is.

Principal results: `answer_of_alone` — a request that is alone is answered as by `Session.answer`;
`requests_are_serialised` — requests under way at the same time are answered one after the other.
-/

namespace QueryPlans.Session

variable {α σ ι : Type} {s : Session} {requests : ι → Request} {world : World Session.interface σ}
  {retained retained' : Retained} {st st' : σ} {es : List (Event sharing)}

/-- Which plan is retained after an event. -/
inductive Keeps (retained : Retained) : Event sharing → Retained → Prop
  | noted (entry : LogEntry) : Keeps retained (.noted entry) retained
  | collaborator (c : Call) (r : Except Fault c.Value) :
    Keeps retained (.answered (I := sharing) (.collaborator c) r) retained
  | look : Keeps retained (.answered (I := sharing) .look retained) retained
  | retain (p : Plan) : Keeps retained (.answered (I := sharing) (.retain p) ()) (some p)

/-- The exchange with the database or the model, or the entry in the log. -/
def exchange? : Event sharing → Option (Event Session.interface)
  | .answered (.collaborator c) r => some (.answered c r)
  | .answered .look _ => none
  | .answered (.retain _) _ => none
  | .noted entry => some (.noted entry)

/-- A world together with the retained plan. -/
def beside (world : World Session.interface σ) : World sharing (Retained × σ)
  | (retained, st), .collaborator c => ((world st c).1, (retained, (world st c).2))
  | (retained, st), .look => (retained, (retained, st))
  | (_, st), .retain p => ((), (some p, st))

/-- The catalogue of the world stays as it is. -/
def FixedLookups (world : World Session.interface σ) (catalogue : Schema.FixedCatalogue) : Prop :=
  ∀ st c, Schema.IsLookup c → world st (.database c) = (catalogue c, st)

/-- The answers of a catalogue; the other answers do not matter. -/
def catalogueAnswers (catalogue : Schema.FixedCatalogue) : (c : sharing.Call) → sharing.Reply c
  | .collaborator (.database c) => catalogue c
  | .collaborator (.model _) => .error (.raised .cancelled "")
  | .look => none
  | .retain _ => ()

theorem FixedLookups.steady {catalogue : Schema.FixedCatalogue} (h : FixedLookups world catalogue) :
    Steady (beside world) SharedCall.IsLookup (catalogueAnswers catalogue) := by
  rintro ⟨retained, st⟩ c hc
  cases c with
  | look => cases hc
  | retain p => cases hc
  | collaborator c =>
    cases c with
    | model c => cases hc
    | database c =>
      change ((world st (.database c)).1, (retained, (world st (.database c)).2)) = _
      rw [h st c hc]
      rfl

/-! ## A request that is alone -/

theorem run_serve_remember (world : World Session.interface σ) (p : Program sharing α) :
    ∀ retained st, ((p.serve remember retained).run world st).value =
        ((p.run (beside world) (retained, st)).value, (p.run (beside world) (retained, st)).state.1) ∧
      ((p.serve remember retained).run world st).state =
        (p.run (beside world) (retained, st)).state.2 := by
  induction p with
  | done a => exact fun retained st => ⟨rfl, rfl⟩
  | note entry rest ih => exact ih
  | ask c next ih =>
    intro retained st
    cases c with
    | look => exact ih retained retained st
    | retain p => exact ih () (some p) st
    | collaborator c => exact ih (world st c).1 retained (world st c).2

/-- An event in a world beside a plan keeps the plan, and its exchange is one in the world. -/
theorem answeredIn_beside_iff {e : Event sharing} {after : Retained × σ} :
    AnsweredIn (beside world) (retained, st) e after ↔
      Keeps retained e after.1 ∧ Follows world st (exchange? e).toList after.2 := by
  constructor
  · intro h
    cases h with
    | noted entry => exact ⟨.noted entry, .cons (.noted entry) (.nil st)⟩
    | answered c =>
      cases c with
      | look => exact ⟨.look, .nil st⟩
      | retain p => exact ⟨.retain p, .nil st⟩
      | collaborator c =>
        exact ⟨.collaborator c _, .cons (.answered (I := Session.interface) c) (.nil _)⟩
  · obtain ⟨retained', st'⟩ := after
    rintro ⟨hkeeps, hes⟩
    cases hkeeps with
    | noted entry =>
      obtain ⟨_, ⟨⟩, ⟨⟩⟩ := leaves_cons_iff.1 hes
      exact .noted entry
    | look =>
      cases hes
      exact .answered (I := sharing) .look
    | retain p =>
      cases hes
      exact .answered (I := sharing) (.retain p)
    | collaborator c r =>
      obtain ⟨_, ⟨⟩, ⟨⟩⟩ := leaves_cons_iff.1 hes
      exact .answered (I := sharing) (.collaborator c)

theorem follows_beside_iff : Follows (beside world) (retained, st) es (retained', st') ↔
    Leaves Keeps retained es retained' ∧ Follows world st (es.filterMap exchange?) st' := by
  induction es generalizing retained st with
  | nil =>
    constructor
    · rintro ⟨⟩
      exact ⟨.nil _, .nil _⟩
    · rintro ⟨⟨⟩, ⟨⟩⟩
      exact .nil _
  | cons e es ih =>
    have hexchange : (e :: es).filterMap exchange? = (exchange? e).toList ++ es.filterMap exchange? := by
      cases h : exchange? e <;> simp [h]
    unfold Follows
    rw [hexchange, leaves_cons_iff, leaves_cons_iff, leaves_append_iff]
    constructor
    · rintro ⟨⟨retained₁, st₁⟩, hfirst, hrest⟩
      obtain ⟨hkeeps, he⟩ := answeredIn_beside_iff.1 hfirst
      obtain ⟨hleaves, hes⟩ := ih.1 hrest
      exact ⟨⟨retained₁, hkeeps, hleaves⟩, st₁, he, hes⟩
    · rintro ⟨⟨retained₁, hkeeps, hleaves⟩, st₁, he, hes⟩
      exact ⟨(retained₁, st₁), answeredIn_beside_iff.2 ⟨hkeeps, he⟩, ih.2 ⟨hleaves, hes⟩⟩

/-- What the session does for a request is one way in which it may be done alone. -/
theorem exists_alone (s : Session) (world : World Session.interface σ) (retained : Retained)
    (request : Request) (st : σ) :
    ∃ es, (s.body request).Trace es ((s.answer retained request).run world st).value.1 ∧
      Leaves Keeps retained es ((s.answer retained request).run world st).value.2 ∧
      Follows world st (es.filterMap exchange?) ((s.answer retained request).run world st).state := by
  have htrace := Program.run_trace (beside world) (s.body request).inOrder (retained, st)
  have hfollows := Program.run_follows (beside world) (s.body request).inOrder (retained, st)
  obtain ⟨hvalue, hstate⟩ := run_serve_remember world (s.body request).inOrder retained st
  obtain ⟨hleaves, hes⟩ := follows_beside_iff.1 hfollows
  rw [← body_serve, hvalue, hstate]
  exact ⟨_, Concurrent.trace_of_inOrder htrace, hleaves, hes⟩

/-- A request that is alone is answered as by the session. -/
theorem answer_of_alone {catalogue : Schema.FixedCatalogue} {request : Request}
    {result : Except Failure Outcome} (hfixed : FixedLookups world catalogue)
    (htrace : (s.body request).Trace es result) (hleaves : Leaves Keeps retained es retained')
    (hes : Follows world st (es.filterMap exchange?) st') :
    ((s.answer retained request).run world st).value = (result, retained') ∧
      ((s.answer retained request).run world st).state = st' := by
  have hending := htrace.ending_eq hfixed.steady (s.body_partsOnly request)
    (follows_beside_iff.2 ⟨hleaves, hes⟩)
  unfold Concurrent.ending at hending
  obtain ⟨hvalue, hstate⟩ := Prod.mk.inj hending
  obtain ⟨hrun, hlast⟩ := run_serve_remember world (s.body request).inOrder retained st
  rw [body_serve, hvalue, hstate] at hrun
  rw [body_serve, hstate] at hlast
  exact ⟨hrun, hlast⟩

/-! ## Requests under way at the same time -/

/-- The exchange with the database or the model in an entry of the record. -/
def exchanged? : TaskEvent ι sharing → Option (Event Session.interface)
  | .did _ e => exchange? e
  | _ => none

theorem filterMap_exchanged_block (x : Tenure ι sharing (Except Failure Outcome) Retained) :
    x.block.filterMap exchanged? = x.events.filterMap exchange? := by
  have hdid : (exchanged? ∘ TaskEvent.did x.task : Event sharing → _) = exchange? := rfl
  simp [Tenure.block, List.filterMap_append, List.filterMap_cons, List.filterMap_map, hdid, exchanged?]

/-- Requests that are done one after the other, each alone, are answered as by the session. -/
theorem steps_of_inTurn {catalogue : Schema.FixedCatalogue} (hfixed : FixedLookups world catalogue)
    {past : List (Tenure ι sharing (Except Failure Outcome) Retained)}
    (h : InTurn (fun i => s.body (requests i)) Keeps retained past retained')
    (hdone : ∀ x ∈ past, x.result.isSome)
    (hes : Follows world st ((past.flatMap Tenure.block).filterMap exchanged?) st') :
    (s.steps world retained st (past.map fun x => requests x.task)).map
        (fun step => (some step.result, step.after)) = past.map (fun x => (x.result, x.left)) ∧
      ((s.steps world retained st (past.map fun x => requests x.task)).map
        (·.after)).getLastD retained = retained' := by
  induction h generalizing st with
  | nil retained => exact ⟨rfl, rfl⟩
  | @cons retained retained' x rest hfirst hrest ih =>
    rw [List.flatMap_cons, List.filterMap_append, filterMap_exchanged_block] at hes
    obtain ⟨st₁, hx, hlater⟩ := leaves_append_iff.1 hes
    obtain ⟨result, hresult⟩ := Option.isSome_iff_exists.1 (hdone x List.mem_cons_self)
    obtain ⟨hvalue, hstate⟩ := answer_of_alone hfixed (hfirst.trace hresult) hfirst.leaves hx
    obtain ⟨hsteps, hlast⟩ := ih (fun y hy => hdone y (List.mem_cons_of_mem _ hy)) hlater
    rw [List.map_cons, steps]
    simp only [hvalue, hstate, List.map_cons, hresult, hsteps, List.getLastD_cons, hlast, and_self]

/-- **Requests take turns.** Any number of requests are under way at the same time, and any of them may
make the next step. What they do stands in the record one request after the other; each of them did what
it may do alone, from the plan that the one before it left, and ended as it did then. Where the catalogue
stays as it is, and no request was cancelled while it held the lock, results and plans are those of the
session that answers the same requests in the order in which they took it. -/
theorem requests_are_serialised [DecidableEq ι] (s : Session) (requests : ι → Request) (start : Retained)
    {record : List (TaskEvent ι sharing)}
    {t : Tasks ι sharing (Except Failure Schema) (Except Failure Outcome) Retained}
    (h : Tasks.Reaches (fun i => s.body (requests i)) Keeps start record t) :
    ∃ past, Serial (fun i => s.body (requests i)) Keeps start past record t ∧
      record.filterMap TaskEvent.acquired? = past.map (·.task) ++ t.holder.toList ∧
      ∀ (σ : Type) (world : World Session.interface σ) (catalogue : Schema.FixedCatalogue) (st st' : σ),
        FixedLookups world catalogue → Follows world st (record.filterMap exchanged?) st' →
        (∀ x ∈ past, x.result.isSome) →
          let steps := s.steps world start st (past.map fun x => requests x.task)
          steps.map (fun step => (some step.result, step.after)) =
              past.map (fun x => (x.result, x.left)) ∧
            (t.holder = none → (steps.map (·.after)).getLastD start = t.shared) := by
  obtain ⟨past, hserial⟩ := h.serial
  refine ⟨past, hserial, hserial.filterMap_acquired, fun σ world catalogue st st' hfixed hes hdone => ?_⟩
  cases hserial with
  | idle hpast =>
    obtain ⟨hsteps, hlast⟩ := steps_of_inTurn hfixed hpast hdone hes
    exact ⟨hsteps, fun _ => hlast⟩
  | busy hpast _ hholder =>
    rw [List.filterMap_append] at hes
    obtain ⟨st₁, hes, -⟩ := leaves_append_iff.1 hes
    obtain ⟨hsteps, -⟩ := steps_of_inTurn hfixed hpast hdone hes
    refine ⟨hsteps, fun hfree => ?_⟩
    rw [hholder] at hfree
    cases hfree

/-! ### A page turned while a question is asked -/

/-- A question, a request for the next page, and one that is given up. -/
def threeRequests : Fin 3 → Request
  | 0 => .ask "t" "all rows"
  | 1 => .navigate .next
  | 2 => .navigate .previous

/-- The page is turned from the plan of the question, as it is one after the other. -/
theorem page_turned_after_question : ∃ record t past,
    Tasks.Reaches (fun i => sample.body (threeRequests i)) Keeps none record t ∧
      Serial (fun i => sample.body (threeRequests i)) Keeps none past record t ∧
      past.map (·.task) = [0, 1] ∧ ∃ first, twoPages = [first, secondPage] ∧
        [first, secondPage].map (fun step => (some step.result, step.after)) =
          past.map (fun x => (x.result, x.left)) ∧
        t.shared = secondPage.after := by
  obtain ⟨es, htrace, hleaves, hes⟩ := exists_alone sample sampleWorld none (threeRequests 0) ()
  obtain ⟨first, htwo⟩ := twoPages_eq
  -- A name, so that comparing plans does not compute the page.
  generalize secondPage = second at htwo ⊢
  have hpages : sample.steps sampleWorld none () [.ask "t" "all rows", .navigate .next] =
      [first, second] := by rw [← htwo, twoPages]
  generalize hasked : (sample.answer none (threeRequests 0)).run sampleWorld () = asked at *
  obtain ⟨es', htrace', hleaves', hes'⟩ :=
    exists_alone sample sampleWorld asked.value.2 (threeRequests 1) asked.state
  generalize hturned :
    (sample.answer asked.value.2 (threeRequests 1)).run sampleWorld asked.state = turned at *
  have hstart : Tasks.Reaches (fun i => sample.body (threeRequests i)) Keeps none []
    (.start none) := .start
  have hquestion := hstart.serve (i := 0) rfl htrace hleaves
  have hgiven := hquestion.step (.giveUp 2 (Function.update_of_ne (by decide) ..))
  have hpage := hgiven.serve (i := 1) (by simp) htrace' hleaves'
  obtain ⟨past, hserial, horder, hworld⟩ := requests_are_serialised sample threeRequests none hpage
  have htasks : past.map (·.task) = [0, 1] := by
    simpa [TaskEvent.acquired?, filterMap_acquired_block] using horder.symm
  have hdone : ∀ x ∈ past, x.result.isSome := by
    intro x hx
    have hphase := hserial.records.phase_eq x hx
    have htask : x.task = 0 ∨ x.task = 1 := by
      simpa [htasks] using List.mem_map_of_mem (f := (·.task)) hx
    cases hresult : x.result with
    | some a => rfl
    | none =>
      rw [Tenure.phase, hresult] at hphase
      rcases htask with htask | htask
      · rw [htask] at hphase
        simp at hphase
      · rw [htask] at hphase
        simp at hphase
  have hfixed : FixedLookups sampleWorld databaseAnswer := fun st c _ => rfl
  have hrequests : past.map (fun x => threeRequests x.task) = [.ask "t" "all rows", .navigate .next] := by
    change past.map (threeRequests ∘ (·.task)) = _
    rw [← List.map_map, htasks]
    rfl
  obtain ⟨hsteps, hlast⟩ := hworld Unit sampleWorld databaseAnswer () turned.state hfixed (by
    simp only [List.nil_append, List.append_nil, List.filterMap_append, filterMap_exchanged_block]
    exact leaves_append_iff.2 ⟨asked.state, hes, hes'⟩) hdone
  rw [hrequests, hpages] at hsteps hlast
  exact ⟨_, _, past, hpage, hserial, htasks, first, htwo, hsteps, (hlast rfl).symm⟩

end QueryPlans.Session
