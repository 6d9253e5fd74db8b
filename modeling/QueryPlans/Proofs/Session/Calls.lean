import QueryPlans.Proofs.Plan.Retention
import QueryPlans.Session

/-!
# Which calls a session makes

* `Database.Call.isData` — the calls that send a statement: one that fetches rows and one that counts
  them.  All other calls read the catalogue or open and close the connection.
* `Session.liftDatabase`, `Session.liftModel` — the events of the two collaborators as events of a
  session.
* `Session.DataFree` — events without a call that sends a statement.
* `Session.Settles` — what a session does once the model has replied, or failed to.

Principal results: `Schema.fetchText_callsOnly` — to describe a table is to read the catalogue;
`Session.replyFor_trace` — up to the reply of the model no statement is sent, and there is a reply
exactly when the model answered; `Session.planAndAccept_trace` — all that a question can do.
-/

namespace QueryPlans

namespace Database

/-- The call sends a statement. -/
def Call.isData : Call → Bool
  | execute _ => true
  | fetchValue _ => true
  | _ => false

end Database

namespace Schema

/-- Calls that read the catalogue. -/
def IsLookup : Database.Call → Prop
  | .describeColumns _ => True
  | .describeForeignKeys _ => True
  | .tableExists _ => True
  | _ => False

theorem IsLookup.isData_eq_false {c : Database.Call} (h : IsLookup c) : c.isData = false := by
  cases c with
  | execute sql => cases h
  | fetchValue sql => cases h
  | _ => rfl

theorem existing_callsOnly (pairs : List (String × String)) :
    (existing pairs).CallsOnly IsLookup := by
  induction pairs with
  | nil => exact .of_done _
  | cons pair rest ih =>
    refine Program.CallsOnly.of_ask trivial fun found => ?_
    cases found with
    | error f => exact .of_done _
    | ok found =>
      refine ih.bind fun keys => ?_
      cases keys <;> exact .of_done _

theorem inferForeignKeys_callsOnly (table : String) (columns : List Column) :
    (inferForeignKeys table columns).CallsOnly IsLookup := by
  refine (existing_callsOnly _).bind fun keys => ?_
  cases keys with
  | error f => exact .of_done _
  | ok keys =>
    simp only
    split
    · exact (Program.CallsOnly.of_log ..).bind fun _ => .of_done _
    · exact .of_done _

theorem fetchForeignKeys_callsOnly (table : String) (columns : List Column) :
    (fetchForeignKeys table columns).CallsOnly IsLookup := by
  refine Program.CallsOnly.of_ask trivial fun keys => ?_
  cases keys with
  | error f => exact .of_done _
  | ok keys =>
    cases keys with
    | nil => exact inferForeignKeys_callsOnly table columns
    | cons key keys => exact .of_done _

theorem fetch_callsOnly (table : String) : (fetch table).CallsOnly IsLookup := by
  refine Program.CallsOnly.of_ask trivial fun columns => ?_
  cases columns with
  | error f => exact .of_done _
  | ok columns =>
    refine (fetchForeignKeys_callsOnly table columns).bind fun keys => ?_
    cases keys <;> exact .of_done _

theorem fetchAll_callsOnly (tables : List String) : (fetchAll tables).CallsOnly IsLookup := by
  induction tables with
  | nil => exact .of_done _
  | cons table rest ih => exact (fetch_callsOnly table).bind fun _ => ih.bind fun _ => .of_done _

theorem keepFound_callsOnly (found : List (String × Except Failure Schema)) :
    (keepFound found).CallsOnly IsLookup := by
  induction found with
  | nil => exact .of_done _
  | cons pair rest ih =>
    obtain ⟨table, result⟩ := pair
    cases result with
    | ok s =>
      refine ih.bind fun related => ?_
      cases related <;> exact .of_done _
    | error f =>
      rw [keepFound]
      split
      · exact (Program.CallsOnly.of_log ..).bind fun _ => ih
      · exact .of_done _

theorem fetchContext_callsOnly (table : String) (withRelated : Bool) :
    (fetchContext table withRelated).CallsOnly IsLookup := by
  refine (fetch_callsOnly table).bind fun main => ?_
  cases main with
  | error f => exact .of_done _
  | ok main =>
    simp only
    split
    · refine ((fetchAll_callsOnly _).bind fun _ => keepFound_callsOnly _).bind fun related => ?_
      cases related <;> exact .of_done _
    · exact .of_done _

/-- To describe a table is to read the catalogue. -/
theorem fetchText_callsOnly (table : String) (withRelated : Bool) :
    (fetchText table withRelated).CallsOnly IsLookup := by
  refine (fetchContext_callsOnly table withRelated).bind fun found => ?_
  cases found <;> exact .of_done _

end Schema

namespace Session

/-! ## Events of the collaborators -/

/-- An event of the database as one of the session. -/
def liftDatabase : Event Database.interface → Event Session.interface
  | .answered c r => .answered (.database c) r
  | .noted entry => .noted entry

/-- An event of the model as one of the session. -/
def liftModel : Event Chat.interface → Event Session.interface
  | .answered c r => .answered (.model c) r
  | .noted entry => .noted entry

variable {α : Type}

theorem onDatabase_trace_iff {p : DatabaseProgram α} {es : List (Event Session.interface)} {a : α} :
    (onDatabase p).Trace es a ↔ ∃ ds, p.Trace ds a ∧ es = ds.map liftDatabase := by
  refine Program.trace_interpret_iff (fun _ => rfl) fun c es r => ?_
  constructor
  · intro h
    obtain ⟨_, _, rfl, hdone⟩ := Program.trace_ask_iff.1 h
    obtain ⟨rfl, rfl⟩ := Program.trace_done_iff.1 hdone
    rfl
  · rintro rfl
    exact .ask (I := Session.interface) (c := .database c) r (.done r)

theorem onModel_trace_iff {p : ChatProgram α} {es : List (Event Session.interface)} {a : α} :
    (onModel p).Trace es a ↔ ∃ ms, p.Trace ms a ∧ es = ms.map liftModel := by
  refine Program.trace_interpret_iff (fun _ => rfl) fun c es r => ?_
  constructor
  · intro h
    obtain ⟨_, _, rfl, hdone⟩ := Program.trace_ask_iff.1 h
    obtain ⟨rfl, rfl⟩ := Program.trace_done_iff.1 hdone
    rfl
  · rintro rfl
    exact .ask (I := Session.interface) (c := .model c) r (.done r)

/-- No statement is sent. -/
def DataFree (es : List (Event Session.interface)) : Prop :=
  ∀ c r, .answered (.database c) r ∈ es → c.isData = false

@[simp] theorem dataFree_nil : DataFree [] := fun _ _ h => nomatch h

@[simp] theorem dataFree_append {es₁ es₂ : List (Event Session.interface)} :
    DataFree (es₁ ++ es₂) ↔ DataFree es₁ ∧ DataFree es₂ := by
  simp only [DataFree, List.mem_append]
  constructor
  · intro h
    exact ⟨fun c r hmem => h c r (.inl hmem), fun c r hmem => h c r (.inr hmem)⟩
  · rintro ⟨h₁, h₂⟩ c r (hmem | hmem)
    · exact h₁ c r hmem
    · exact h₂ c r hmem

theorem answered_mem_map_liftDatabase {ds : List (Event Database.interface)} {c : Database.Call}
    {r : Except Fault c.Value} :
    (.answered (.database c) r : Event Session.interface) ∈ ds.map liftDatabase ↔
      (.answered c r : Event Database.interface) ∈ ds := by
  simp only [List.mem_map]
  constructor
  · rintro ⟨e, hmem, heq⟩
    cases e with
    | answered c' r' =>
      cases heq
      exact hmem
    | noted entry => cases heq
  · intro hmem
    exact ⟨_, hmem, rfl⟩

/-- An exchange with the model is no event of the database. -/
theorem model_not_mem_map_liftDatabase {ds : List (Event Database.interface)} {c : Chat.Call}
    {r : Except Fault c.Value} :
    (.answered (.model c) r : Event Session.interface) ∉ ds.map liftDatabase := by
  simp only [List.mem_map, not_exists, not_and]
  rintro e - heq
  cases e <;> cases heq

theorem dataFree_liftModel (ms : List (Event Chat.interface)) : DataFree (ms.map liftModel) := by
  intro c r hmem
  obtain ⟨e, -, heq⟩ := List.mem_map.1 hmem
  cases e <;> cases heq

theorem DataFree.noted {es : List (Event Session.interface)} (h : DataFree es) (entry : LogEntry) :
    DataFree (.noted entry :: es) := fun c r hmem =>
  h c r ((List.mem_cons.1 hmem).resolve_left (fun heq => nomatch heq))

theorem dataFree_of_callFree {es : List (Event Session.interface)} (h : CallFree es) : DataFree es :=
  fun c r hmem => absurd hmem (h.not_mem (.database c) r)

theorem dataFree_liftDatabase_of_callFree {ds : List (Event Database.interface)}
    (h : CallFree ds) : DataFree (ds.map liftDatabase) := by
  intro c r hmem
  exact absurd (answered_mem_map_liftDatabase.1 hmem) (h.not_mem c r)

/-! ## Up to the reply of the model -/

/-- To describe a table sends no statement and asks nothing of the model. -/
theorem schemaText_trace {s : Session} {table : String} {es : List (Event Session.interface)}
    {a : Except Failure String} (h : (s.schemaText table).Trace es a) :
    ∃ ds : List (Event Database.interface), es = ds.map liftDatabase ∧ DataFree es := by
  obtain ⟨ds, hds, rfl⟩ := onDatabase_trace_iff.1 h
  refine ⟨ds, rfl, fun c r hmem => ?_⟩
  have hlookup := (Schema.fetchText_callsOnly table _).of_trace hds
    (answered_mem_map_liftDatabase.1 hmem)
  exact hlookup.isData_eq_false

theorem promptFor_trace {s : Session} {retained : Retained} {table question : String}
    {es : List (Event Session.interface)} {a : Except Failure String}
    (h : (s.promptFor retained table question).Trace es a) :
    ∃ ds : List (Event Database.interface), es = ds.map liftDatabase ∧ DataFree es := by
  obtain ⟨es₁, es₂, schema, hschema, hrest, rfl⟩ := Program.trace_bind_iff.1 h
  obtain ⟨ds, rfl, hfree⟩ := schemaText_trace hschema
  have hnil : es₂ = [] := by
    cases schema with
    | error f => exact (Program.trace_done_iff.1 hrest).1
    | ok schema =>
      simp only at hrest
      split at hrest
      · exact (Program.trace_done_iff.1 hrest).1
      · exact (Program.trace_done_iff.1 hrest).1
  subst hnil
  exact ⟨ds, by simp, by simpa using hfree⟩

theorem textOf_trace {provider : Provider} {response : Chat.Response}
    {ms : List (Event Chat.interface)} {text : String}
    (h : (Chat.textOf provider response).Trace ms text) :
    text = response.content ∧ CallFree ms := by
  unfold Chat.textOf at h
  split at h
  · obtain ⟨_, rfl, hdone⟩ := Program.trace_log_bind_iff.1 h
    obtain ⟨rfl, rfl⟩ := Program.trace_done_iff.1 hdone
    exact ⟨rfl, by simp⟩
  · obtain ⟨rfl, rfl⟩ := Program.trace_done_iff.1 h
    exact ⟨rfl, by simp⟩

/-- There is a reply exactly when the model answered, and it is the content of the answer. -/
theorem generateText_trace {provider : Provider} {prompt : String} {system : Option String}
    {json : Bool} {ms : List (Event Chat.interface)} {a : Except Fault String}
    (h : (Chat.generateText provider prompt system json).Trace ms a) (text : String) :
    a = .ok text ↔ ∃ request response,
      .answered (.generate request) (.ok response) ∈ ms ∧ response.content = text := by
  unfold Chat.generateText at h
  split at h
  · obtain ⟨rfl, rfl⟩ := Program.trace_done_iff.1 h
    simp
  · rename_i request _
    obtain ⟨reply, tail, rfl, hnext⟩ := Program.trace_call_bind_iff.1 h
    cases reply with
    | error f =>
      obtain ⟨rfl, rfl⟩ := Program.trace_done_iff.1 hnext
      constructor
      · rintro ⟨⟩
      · rintro ⟨request', response, hmem, -⟩
        cases List.mem_singleton.1 hmem
    | ok response =>
      obtain ⟨es₁, es₂, content, htext, hend, rfl⟩ := Program.trace_bind_iff.1 hnext
      obtain ⟨rfl, rfl⟩ := Program.trace_done_iff.1 hend
      obtain ⟨rfl, hcalls⟩ := textOf_trace htext
      constructor
      · intro heq
        cases heq
        exact ⟨request, response, by simp, rfl⟩
      · rintro ⟨request', response', hmem, rfl⟩
        rcases List.mem_cons.1 hmem with heq | htail
        · cases heq
          rfl
        · rw [List.append_nil] at htail
          exact absurd htail (hcalls.not_mem _ _)

theorem answered_mem_map_liftModel {ms : List (Event Chat.interface)} {c : Chat.Call}
    {r : Except Fault c.Value} :
    (.answered (.model c) r : Event Session.interface) ∈ ms.map liftModel ↔
      (.answered c r : Event Chat.interface) ∈ ms := by
  simp only [List.mem_map]
  constructor
  · rintro ⟨e, hmem, heq⟩
    cases e with
    | answered c' r' =>
      cases heq
      exact hmem
    | noted entry => cases heq
  · intro hmem
    exact ⟨_, hmem, rfl⟩

/-- What is done for a reply is to ask the model, and to note this before and behind. -/
theorem replyTo_trace {s : Session} {table prompt : String} {es : List (Event Session.interface)}
    {a : Except Failure String} (h : (s.replyTo table prompt).Trace es a) :
    ∃ entry ms late, ∃ reply : Except Fault String,
      es = .noted entry :: (ms.map liftModel ++ late) ∧ CallFree late ∧ a = reply.mapError .fault ∧
      (Chat.generateText s.provider prompt (some Plan.systemPrompt) s.settings.jsonOutput).Trace ms
        reply := by
  obtain ⟨rest, rfl, hrest⟩ := Program.trace_log_bind_iff.1 h
  obtain ⟨es₁, es₂, reply, hreply, hend, rfl⟩ := Program.trace_bind_iff.1 hrest
  obtain ⟨ms, hms, rfl⟩ := onModel_trace_iff.1 hreply
  cases reply with
  | error f =>
    obtain ⟨rfl, rfl⟩ := Program.trace_done_iff.1 hend
    exact ⟨_, ms, [], .error f, rfl, callFree_nil, rfl, hms⟩
  | ok text =>
    obtain ⟨late, rfl, hdone⟩ := Program.trace_log_bind_iff.1 hend
    obtain ⟨rfl, rfl⟩ := Program.trace_done_iff.1 hdone
    exact ⟨_, ms, [_], .ok text, rfl, by simp, rfl, hms⟩

/-- Up to the reply no statement is sent. There is a reply exactly when the model answered, and it is
the content of the answer. -/
theorem replyFor_trace {s : Session} {retained : Retained} {table question : String}
    {es : List (Event Session.interface)} {a : Except Failure String}
    (h : (s.replyFor retained table question).Trace es a) :
    DataFree es ∧ ∀ text, a = .ok text ↔ ∃ request response,
      .answered (.model (.generate request)) (.ok response) ∈ es ∧ response.content = text := by
  obtain ⟨es₁, es₂, prompt, hprompt, hrest, rfl⟩ := Program.trace_bind_iff.1 h
  obtain ⟨ds, rfl, hfree⟩ := promptFor_trace hprompt
  cases prompt with
  | error f =>
    obtain ⟨rfl, rfl⟩ := Program.trace_done_iff.1 hrest
    refine ⟨by simpa using hfree, fun text => ?_⟩
    constructor
    · rintro ⟨⟩
    · rintro ⟨request, response, hmem, -⟩
      rw [List.append_nil] at hmem
      exact absurd hmem model_not_mem_map_liftDatabase
  | ok prompt =>
    obtain ⟨entry, ms, late, reply, rfl, hlate, rfl, hms⟩ := replyTo_trace hrest
    have hmodel (request : Chat.Request) (response : Chat.Response) :
        .answered (.model (.generate request)) (.ok response) ∈
            ds.map liftDatabase ++ .noted entry :: (ms.map liftModel ++ late) ↔
          .answered (.generate request) (.ok response) ∈ ms := by
      have hnoted := hlate.not_mem (.model (.generate request)) (.ok response)
      rw [List.mem_append, or_iff_right model_not_mem_map_liftDatabase, List.mem_cons,
        or_iff_right (fun heq => nomatch heq), List.mem_append, or_iff_left hnoted,
        answered_mem_map_liftModel]
    have hreply (text : String) : reply.mapError Failure.fault = .ok text ↔ reply = .ok text := by
      cases reply with
      | error f => exact iff_of_false (fun h => nomatch h) (fun h => nomatch h)
      | ok reply => exact ⟨fun h => congrArg Except.ok (Except.ok.inj h), fun h => by rw [h]; rfl⟩
    refine ⟨?_, fun text => ?_⟩
    · have hrest : DataFree (ms.map liftModel ++ late) :=
        dataFree_append.2 ⟨dataFree_liftModel ms, dataFree_of_callFree hlate⟩
      exact dataFree_append.2 ⟨hfree, hrest.noted entry⟩
    · rw [hreply, generateText_trace hms text]
      simp only [hmodel]

/-! ## After the reply of the model -/

theorem noteRejection_trace {f : Failure} {es : List (Event Session.interface)} {u : Unit}
    (h : (noteRejection f).Trace es u) : CallFree es := by
  unfold noteRejection at h
  split at h
  · obtain ⟨tail, rfl, hdone⟩ := Program.trace_note_iff.1 h
    simp [(Program.trace_done_iff.1 hdone).1]
  · simp [(Program.trace_done_iff.1 h).1]

theorem noteOutcome_trace {result : Except Failure Outcome} {es : List (Event Session.interface)}
    {u : Unit} (h : (noteOutcome result).Trace es u) : CallFree es := by
  cases result with
  | error f => simp [(Program.trace_done_iff.1 h).1]
  | ok o =>
    obtain ⟨tail, rfl, hdone⟩ := Program.trace_note_iff.1 h
    simp [(Program.trace_done_iff.1 hdone).1]

/-- What a session does once the model has replied, or failed to: the events, how the question ends, and
the plan that is retained then. -/
inductive Settles (s : Session) (retained : Retained) : Except Failure String →
    List (Event Session.interface) → Except Failure Outcome → Retained → Prop
  | unanswered (f : Failure) : Settles s retained (.error f) [] (.error f) retained
  | rejected {reply : String} {f : Failure} {notes : List (Event Session.interface)}
      (plan : s.planOf reply = .error f) (silent : CallFree notes) :
      Settles s retained (.ok reply) notes (.error f) retained
  | accepted {reply : String} {p : Plan} {sql? : Option String} {ds : List (Event Database.interface)}
      {notes : List (Event Session.interface)} {result : Except Failure Outcome} {after : Retained}
      (plan : s.planOf reply = .ok (p, sql?)) (accepts : (retained.accept p sql?).Trace ds (result, after))
      (silent : CallFree notes) :
      Settles s retained (.ok reply) (ds.map liftDatabase ++ notes) result after

/-- **All that a question can do.** The model is asked for a reply, and the session settles what follows
from that. -/
theorem planAndAccept_trace {s : Session} {retained after : Retained} {table question : String}
    {es : List (Event Session.interface)} {result : Except Failure Outcome}
    (h : (s.planAndAccept retained table question).Trace es (result, after)) :
    ∃ early late reply, es = early ++ late ∧ (s.replyFor retained table question).Trace early reply ∧
      s.Settles retained reply late result after := by
  obtain ⟨early, late, reply, hreply, hrest, rfl⟩ := Program.trace_bind_iff.1 h
  refine ⟨early, late, reply, rfl, hreply, ?_⟩
  cases reply with
  | error f =>
    obtain ⟨rfl, heq⟩ := Program.trace_done_iff.1 hrest
    cases heq
    exact .unanswered f
  | ok text =>
    simp only at hrest
    cases hplan : s.planOf text with
    | error f =>
      rw [hplan] at hrest
      obtain ⟨notes, tail, u, hnotes, hdone, rfl⟩ := Program.trace_bind_iff.1 hrest
      obtain ⟨rfl, heq⟩ := Program.trace_done_iff.1 hdone
      cases heq
      rw [List.append_nil]
      exact .rejected hplan (noteRejection_trace hnotes)
    | ok plan =>
      obtain ⟨p, sql?⟩ := plan
      rw [hplan] at hrest
      obtain ⟨es₁, es₂, answered, haccept, hend, rfl⟩ := Program.trace_bind_iff.1 hrest
      obtain ⟨notes, tail, u, hnotes, hdone, rfl⟩ := Program.trace_bind_iff.1 hend
      obtain ⟨rfl, rfl⟩ := Program.trace_done_iff.1 hdone
      obtain ⟨ds, hds, rfl⟩ := onDatabase_trace_iff.1 haccept
      rw [List.append_nil]
      exact .accepted hplan hds (noteOutcome_trace hnotes)

end Session

end QueryPlans
