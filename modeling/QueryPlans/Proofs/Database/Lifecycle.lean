import QueryPlans.Proofs.Database.Faults

/-!
# The life of a connector

Requests to a connector, whatever the driver does: it may fail, and be cancelled, at any of its calls.  Only
connecting and closing change what the connector holds; every other request sends its statements through the
pool that is held.

* `Pool.Call.Through` — the call goes through a pool that is open already, and leaves it open.
* `Connector.Request` — a call on the database, or a statement with a time of its own; `Connector.Move` — a
  request as it was carried out; `Move.Effect` — everything that a request can do.
* `Connector.Use` — a call on a connector with what happened; `Connector.Uses` — calls in order on a new
  connector.
* `Use.Opens`, `Use.Closes`, `Use.Fails` — what a call did to the pools, and whether it failed.
* `Use.Effect` — nothing happens to the pools, a pool is opened and held, or the held one is closed.

Principal results: `statement_callsOnly` — statements go through the pool that is held; `Move.effect` — what a
request can do; `Use.effect` — what a call can do to the pools.
-/

namespace QueryPlans

/-! ## Calls through a pool -/

/-- The call goes through the pool and leaves it open. -/
def Pool.Call.Through (pool : Pool) : Pool.Call → Prop
  | create _ => False
  | close _ => False
  | acquire p => p = pool
  | release p => p = pool
  | execute p _ => p = pool
  | prepare p _ => p = pool
  | fetchPrepared p _ => p = pool
  | fetch p _ _ => p = pool
  | fetchValue p _ _ => p = pool

namespace Connector

open Pool (call)
open Program (CallsOnly)

variable {α β : Type} {t : Target} {s s' : Connector} {pool : Pool} {es fs : List (Event Pool.interface)}

/-- The pools that are opened and closed by an event. -/
def OpensPool (pool : Pool) (e : Event Pool.interface) : Prop :=
  ∃ options, e = .answered (.create options) (.ok pool)

def ClosesPool (pool : Pool) (e : Event Pool.interface) : Prop :=
  e = .answered (.close pool) (.ok ())

/-- No pool is opened, and none closed. -/
def Quiet (es : List (Event Pool.interface)) : Prop :=
  ∀ e ∈ es, ∀ pool, ¬ OpensPool pool e ∧ ¬ ClosesPool pool e

theorem quiet_nil : Quiet [] := fun _ h => nomatch h

theorem quiet_of_eq_nil (h : es = []) : Quiet es := by
  rw [h]
  exact quiet_nil

theorem quiet_append : Quiet (es ++ fs) ↔ Quiet es ∧ Quiet fs := List.forall_mem_append

theorem quiet_of_callFree (h : CallFree es) : Quiet es := by
  refine fun e he pool => ⟨?_, ?_⟩
  · rintro ⟨options, rfl⟩
    exact h.not_mem _ _ he
  · rintro rfl
    exact h.not_mem _ _ he

/-- A fault opens no pool and closes none. -/
theorem quiet_error (c : Pool.Call) (f : Fault) :
    Quiet [(.answered c (.error f) : Event Pool.interface)] := by
  intro e he pool
  obtain rfl := List.mem_singleton.1 he
  refine ⟨?_, fun h => nomatch h⟩
  rintro ⟨options, h⟩
  cases h

/-! ## Statements -/

/-- The call goes through the pool of a connected connector. -/
def ThroughActive (s : Connector) (c : Pool.Call) : Prop :=
  ∃ pool, s.activePool? = some pool ∧ c.Through pool

theorem report_callsOnly {P : Pool.Call → Prop} (w : Wording) (f : Fault) :
    (w.report f).CallsOnly P := by
  unfold Wording.report
  dsimp only
  split
  · exact .of_done _
  split
  · split
    · exact .of_done _
    · exact (CallsOnly.of_log ..).bind fun _ => .of_done _
  split
  · exact (CallsOnly.of_log ..).bind fun _ => .of_done _
  · exact (CallsOnly.of_log ..).bind fun _ => .of_done _

/-- A connection is taken out of the pool and given back. -/
theorem withConnection_callsOnly {body : PoolProgram (Except Fault α)} (hpool : s.activePool? = some pool)
    (hbody : body.CallsOnly s.ThroughActive) : (withConnection pool body).CallsOnly s.ThroughActive := by
  refine .of_ask ⟨pool, hpool, rfl⟩ fun acquired => ?_
  cases acquired with
  | error f => exact .of_done _
  | ok u =>
    refine hbody.bind fun r => .of_ask ⟨pool, hpool, rfl⟩ fun released => ?_
    cases released <;> exact .of_done _

theorem withPool_callsOnly {w : Wording} {p : Pool → PoolProgram (Except Fault α)}
    (hp : ∀ pool, s.activePool? = some pool → (p pool).CallsOnly s.ThroughActive) :
    (s.withPool w p).CallsOnly s.ThroughActive := by
  unfold withPool
  cases hpool : s.activePool? with
  | none => exact .of_done _
  | some pool =>
    refine (withConnection_callsOnly hpool (hp pool hpool)).bind fun r => ?_
    cases r with
    | ok a => exact .of_done _
    | error f => exact (report_callsOnly w f).bind fun _ => .of_done _

theorem execute_callsOnly (sql : String) (timeout : Option Int) :
    (s.execute t sql timeout).CallsOnly s.ThroughActive := by
  refine withPool_callsOnly fun pool hpool => ?_
  unfold runStatement
  split
  · exact .of_done _
  refine .of_ask ⟨pool, hpool, rfl⟩ fun limited => ?_
  cases limited with
  | error f => exact .of_done _
  | ok u =>
    refine .of_ask ⟨pool, hpool, rfl⟩ fun prepared => ?_
    cases prepared with
    | error f => exact .of_done _
    | ok statement =>
      refine .of_ask ⟨pool, hpool, rfl⟩ fun records => ?_
      cases records <;> exact .of_done _

theorem fetchCatalogue_callsOnly (w : Wording) (sql table : String) :
    (s.fetchCatalogue t w sql table).CallsOnly s.ThroughActive :=
  withPool_callsOnly fun pool hpool => .of_ask ⟨pool, hpool, rfl⟩ fun _ => .of_done _

/-- Every call but those to connect and to close sends its statements through the pool that is held by a
connected connector, and leaves the connector as it is. -/
theorem statement_callsOnly {c : Database.Call} (hconnect : c ≠ .connect) (hclose : c ≠ .close) :
    ∃ p : PoolProgram (Except Fault c.Value), answer t s c = (·, s) <$> p ∧
      p.CallsOnly s.ThroughActive := by
  cases c with
  | connect => exact absurd rfl hconnect
  | close => exact absurd rfl hclose
  | execute sql => exact ⟨_, rfl, execute_callsOnly sql none⟩
  | fetchValue sql =>
    exact ⟨_, rfl, withPool_callsOnly fun pool hpool => .of_ask ⟨pool, hpool, rfl⟩ fun _ => .of_done _⟩
  | describeColumns table =>
    refine ⟨_, rfl, (fetchCatalogue_callsOnly _ _ _).bind fun r => ?_⟩
    rcases r with f | _ | ⟨record, records⟩ <;> exact .of_done _
  | describeForeignKeys table =>
    refine ⟨_, rfl, (fetchCatalogue_callsOnly _ _ _).bind fun r => ?_⟩
    cases r <;> exact .of_done _
  | tableExists name =>
    exact ⟨_, rfl, withPool_callsOnly fun pool hpool => .of_ask ⟨pool, hpool, rfl⟩ fun _ => .of_done _⟩

/-! ## Requests -/

/-- A request to a connector: a call on the database, or a statement that may take so many seconds. -/
inductive Request where
  | call (c : Database.Call)
  | executeWithin (sql : String) (seconds : Int)

namespace Request

/-- The type of the value that a request gives. -/
abbrev Value : Request → Type
  | call c => c.Value
  | executeWithin _ _ => Rows

/-- The answer to a request, and the connector after it. -/
def perform (t : Target) (s : Connector) : (q : Request) → PoolProgram (Except Fault q.Value × Connector)
  | call c => answer t s c
  | executeWithin sql seconds => (·, s) <$> s.execute t sql (some seconds)

/-- The request reads or changes data, or reads the catalogue. -/
def IsStatement (q : Request) : Prop := q ≠ call .connect ∧ q ≠ call .close

end Request

/-- A request as it was carried out. -/
structure Move where
  request : Request
  before : Connector
  events : List (Event Pool.interface)
  result : Except Fault request.Value
  after : Connector

namespace Move

variable {m : Move}

/-- A connector may carry out the request so. -/
def Possible (t : Target) (m : Move) : Prop :=
  (m.request.perform t m.before).Trace m.events (m.result, m.after)

def Fails (m : Move) : Prop := ∃ f, m.result = .error f

end Move

/-- Every call among the events is of the class. -/
def Only (P : Pool.Call → Prop) (es : List (Event Pool.interface)) : Prop :=
  ∀ c r, .answered c r ∈ es → P c

/-- The call is part of the check of a pool. -/
def IsCheck (pool : Pool) (c : Pool.Call) : Prop :=
  c = .acquire pool ∨ c = .fetchValue pool versionQuery [] ∨ c = .release pool

/-- The server behind a pool says what it is, and that is noted; the connection for it is given back. -/
def check (pool : Pool) (version : String) : List (Event Pool.interface) :=
  [.answered (.acquire pool) (.ok ()), .answered (.fetchValue pool versionQuery []) (.ok (.str version)),
    .noted ⟨.info, logSource, "Connected to PostgreSQL: " ++ serverName version⟩,
    .answered (.release pool) (.ok ())]

/-- A pool is opened and checked. -/
def checkedOpening (options : Json.Fields) (pool : Pool) (version : String) :
    List (Event Pool.interface) :=
  .answered (.create options) (.ok pool) :: check pool version

/-- Everything that a request can do. -/
inductive Move.Effect (m : Move) : Prop
  /-- To connect once more, or to close without a pool. -/
  | skipped
      (request : (m.request = .call .connect ∧ ∃ pool, m.before.activePool? = some pool) ∨
        (m.request = .call .close ∧ m.before.pool = none))
      (events : m.events = []) (after : m.after = m.before) (returns : ¬ m.Fails)
  | refused (request : m.request.IsStatement) (inactive : m.before.activePool? = none)
      (events : m.events = []) (after : m.after = m.before) (result : m.result = .error notConnected)
  | sent (request : m.request.IsStatement) (pool : Pool) (active : m.before.activePool? = some pool)
      (through : Only (Pool.Call.Through pool) m.events) (after : m.after = m.before)
  | notOpened (request : m.request = .call .connect) (inactive : m.before.activePool? = none)
      (only : Only (fun c => ∃ options, c = .create options) m.events) (quiet : Quiet m.events)
      (after : m.after = m.before) (fails : m.Fails)
  | notChecked (request : m.request = .call .connect) (inactive : m.before.activePool? = none)
      (early : List (Event Pool.interface)) (silent : CallFree early)
      (pool : Pool) (options : Json.Fields) (late : List (Event Pool.interface))
      (events : m.events = early ++ .answered (.create options) (.ok pool) :: late)
      (only : Only (IsCheck pool) late)
      (after : m.after = { m.before with pool := some pool }) (fails : m.Fails)
  | connected (request : m.request = .call .connect) (inactive : m.before.activePool? = none)
      (early : List (Event Pool.interface)) (silent : CallFree early)
      (pool : Pool) (options : Json.Fields) (version : String)
      (events : m.events = early ++ checkedOpening options pool version) (after : m.after = ⟨some pool, true⟩)
      (returns : ¬ m.Fails)
  | notClosed (request : m.request = .call .close) (pool : Pool) (held : m.before.pool = some pool)
      (f : Fault) (notes : List (Event Pool.interface))
      (events : m.events = .answered (.close pool) (.error f) :: notes) (silent : CallFree notes)
      (after : m.after = m.before) (fails : m.Fails)
  | closed (request : m.request = .call .close) (pool : Pool) (held : m.before.pool = some pool)
      (notes : List (Event Pool.interface))
      (events : m.events = .answered (.close pool) (.ok ()) :: notes) (silent : CallFree notes)
      (after : m.after = {}) (returns : ¬ m.Fails)

/-! ## What a request does -/

theorem only_of_callFree {P : Pool.Call → Prop} (h : CallFree es) : Only P es := fun _ _ hmem =>
  absurd hmem (h.not_mem _ _)

theorem only_append {P : Pool.Call → Prop} (hes : Only P es) (hfs : Only P fs) : Only P (es ++ fs) := by
  intro c r hmem
  rcases List.mem_append.1 hmem with hmem | hmem
  · exact hes c r hmem
  · exact hfs c r hmem

theorem IsCheck.through {c : Pool.Call} (h : IsCheck pool c) : c.Through pool := by
  rcases h with rfl | rfl | rfl <;> rfl

theorem Only.quiet (h : Only (Pool.Call.Through pool) es) : Quiet es := by
  refine fun e he other => ⟨?_, ?_⟩
  · rintro ⟨options, rfl⟩
    exact h _ _ he
  · rintro rfl
    exact h _ _ he

theorem Only.through_of_check (h : Only (IsCheck pool) es) : Only (Pool.Call.Through pool) es :=
  fun c r hmem => (h c r hmem).through

theorem only_check (pool : Pool) (version : String) : Only (IsCheck pool) (check pool version) := by
  intro c r hmem
  simp only [check, List.mem_cons, List.not_mem_nil, or_false] at hmem
  rcases hmem with heq | heq | heq | heq
  · cases heq
    exact .inl rfl
  · cases heq
    exact .inr (.inl rfl)
  · cases heq
  · cases heq
    exact .inr (.inr rfl)

/-- A pool that was not closed stays open. -/
theorem quiet_of_notClosed {f : Fault} {notes : List (Event Pool.interface)}
    (hevents : es = .answered (.close pool) (.error f) :: notes) (hnotes : CallFree notes) : Quiet es := by
  rw [hevents]
  exact quiet_append.2 ⟨quiet_error _ f, quiet_of_callFree hnotes⟩

theorem withPool_of_inactive {α : Type} (h : s.activePool? = none) (w : Wording)
    (p : Pool → PoolProgram (Except Fault α)) : s.withPool w p = .done (.error notConnected) := by
  unfold withPool
  rw [h]
  rfl

/-- A connector that is not connected refuses a statement at once. -/
theorem perform_of_inactive {q : Request} (hq : q.IsStatement) (h : s.activePool? = none) :
    q.perform t s = .done (.error notConnected, s) := by
  have hrefused {α β : Type} {w : Wording} {p : Pool → PoolProgram (Except Fault α)}
      (f : Except Fault α → PoolProgram β) : (s.withPool w p >>= f) = f (.error notConnected) := by
    rw [withPool_of_inactive h]
    rfl
  cases q with
  | executeWithin sql seconds => exact hrefused _
  | call c =>
    cases c with
    | connect => exact absurd rfl hq.1
    | close => exact absurd rfl hq.2
    | execute sql => exact hrefused _
    | fetchValue sql => exact hrefused _
    | describeColumns table =>
      show (·, s) <$> s.describeColumns t table = _
      unfold describeColumns fetchCatalogue
      rw [withPool_of_inactive h]
      rfl
    | describeForeignKeys table =>
      show (·, s) <$> s.describeForeignKeys t table = _
      unfold describeForeignKeys fetchCatalogue
      rw [withPool_of_inactive h]
      rfl
    | tableExists name => exact hrefused _

/-- A statement goes through the pool of a connected connector, and leaves the connector as it is. -/
theorem perform_callsOnly {q : Request} (hq : q.IsStatement) :
    ∃ p : PoolProgram (Except Fault q.Value), q.perform t s = (·, s) <$> p ∧
      p.CallsOnly s.ThroughActive := by
  cases q with
  | executeWithin sql seconds => exact ⟨_, rfl, execute_callsOnly sql (some seconds)⟩
  | call c =>
    refine statement_callsOnly (fun hc => hq.1 ?_) fun hc => hq.2 ?_
    · rw [hc]
    · rw [hc]

/-- A statement is refused, or goes through the pool of a connected connector. -/
theorem statement_trace {m : Move} (hrequest : m.request.IsStatement) (h : m.Possible t) :
    (m.before.activePool? = none ∧ m.events = [] ∧ m.result = .error notConnected ∧ m.after = m.before) ∨
      ∃ pool, m.before.activePool? = some pool ∧ Only (Pool.Call.Through pool) m.events ∧
        m.after = m.before := by
  cases hactive : m.before.activePool? with
  | none =>
    unfold Move.Possible at h
    rw [perform_of_inactive hrequest hactive] at h
    obtain ⟨hevents, heq⟩ := Program.trace_done_iff.1 h
    obtain ⟨hresult, hafter⟩ := Prod.mk.inj heq
    exact .inl ⟨rfl, hevents, hresult, hafter⟩
  | some pool =>
    obtain ⟨p, hperform, hp⟩ := perform_callsOnly (t := t) (s := m.before) hrequest
    unfold Move.Possible at h
    rw [hperform] at h
    obtain ⟨value, hvalue, heq⟩ := Program.trace_map_iff.1 h
    refine .inr ⟨pool, rfl, fun c r hmem => ?_, (Prod.mk.inj heq).2⟩
    obtain ⟨other, hother, hthrough⟩ := hp.of_trace hvalue hmem
    rw [hactive] at hother
    cases hother
    exact hthrough

/-- To connect once more does nothing, and neither does to close without a pool. -/
theorem skipped_trace {m : Move} (h : m.Possible t)
    (hidle : (m.request = .call .connect ∧ ∃ pool, m.before.activePool? = some pool) ∨
      (m.request = .call .close ∧ m.before.pool = none)) :
    m.events = [] ∧ ¬ m.Fails ∧ m.after = m.before := by
  have hdone {q : Request} {es : List (Event Pool.interface)} {r : Except Fault q.Value}
      {before after : Connector} {a : q.Value}
      (hperform : q.perform t before = .done (.ok a, before))
      (h : (q.perform t before).Trace es (r, after)) :
      es = [] ∧ (¬ ∃ f, r = .error f) ∧ after = before := by
    rw [hperform] at h
    obtain ⟨hevents, heq⟩ := Program.trace_done_iff.1 h
    obtain ⟨rfl, hafter⟩ := Prod.mk.inj heq
    exact ⟨hevents, fun ⟨f, hf⟩ => (nomatch hf), hafter⟩
  obtain ⟨q, before, events, result, after⟩ := m
  rcases hidle with ⟨hq, pool, hactive⟩ | ⟨hq, hpool⟩
  · obtain rfl : q = .call .connect := hq
    refine hdone (a := ()) ?_ h
    show connect t before = _
    unfold connect
    rw [show before.activePool? = some pool from hactive]
    rfl
  · obtain rfl : q = .call .close := hq
    refine hdone (a := ()) ?_ h
    show before.close = _
    unfold close
    rw [show before.pool = none from hpool]
    rfl

theorem only_singleton {P : Pool.Call → Prop} {c : Pool.Call} {r : Except Fault c.Value} (h : P c) :
    Only P [.answered c r] := by
  intro c' r' hmem
  cases List.mem_singleton.1 hmem
  exact h

/-- The server behind a pool was asked what it is. It said so, and that is noted, or the question failed. -/
theorem askVersion_trace {r : Except Fault Unit} (h : (askVersion pool).Trace es r) :
    ∃ asked notes, es = .answered (.fetchValue pool versionQuery []) asked :: notes ∧ CallFree notes ∧
      ∀ u, r = .ok u → ∃ version, asked = .ok (.str version) ∧
        notes = [.noted ⟨.info, logSource, "Connected to PostgreSQL: " ++ serverName version⟩] := by
  obtain ⟨asked, tail, rfl, hend⟩ := Program.trace_call_bind_iff.1 h
  cases asked with
  | error f =>
    obtain ⟨rfl, rfl⟩ := Program.trace_done_iff.1 hend
    exact ⟨_, [], rfl, callFree_nil, fun u hu => nomatch hu⟩
  | ok v =>
    simp only at hend
    unfold checkVersion at hend
    split at hend
    · obtain ⟨rfl, rfl⟩ := Program.trace_done_iff.1 hend
      exact ⟨_, [], rfl, callFree_nil, fun u hu => nomatch hu⟩
    · rename_i name hname
      obtain ⟨notes, rfl, hdone⟩ := Program.trace_log_bind_iff.1 hend
      obtain ⟨rfl, rfl⟩ := Program.trace_done_iff.1 hdone
      refine ⟨_, _, rfl, by simp, fun u hu => ?_⟩
      split at hname
      · cases hname
        exact ⟨_, rfl, rfl⟩
      · cases hname

/-- A server was checked: it said what it is, or the check failed. -/
theorem checkServer_trace {r : Except Fault Unit} (h : (checkServer pool).Trace es r) :
    Only (IsCheck pool) es ∧ ∀ u, r = .ok u → ∃ version, es = check pool version := by
  rcases withConnection_trace h with ⟨f, rfl, rfl⟩ | ⟨done, result, released, hdone, rfl, rfl⟩
  · refine ⟨only_singleton (.inl rfl), fun u hu => nomatch hu⟩
  · obtain ⟨asked, notes, rfl, hnotes, hversion⟩ := askVersion_trace hdone
    have honly : Only (IsCheck pool) ([.answered (.acquire pool) (.ok ())] ++
        ([.answered (.fetchValue pool versionQuery []) asked] ++ (notes ++
          [.answered (.release pool) released]))) :=
      only_append (only_singleton (.inl rfl)) (only_append (only_singleton (.inr (.inl rfl)))
        (only_append (only_of_callFree hnotes) (only_singleton (.inr (.inr rfl)))))
    refine ⟨honly, fun u hu => ?_⟩
    cases released with
    | error f => cases hu
    | ok u' =>
      obtain ⟨version, rfl, rfl⟩ := hversion u hu
      exact ⟨version, rfl⟩

/-- A pool was opened behind a note, or not opened. -/
theorem createPool_trace {r : Except Fault Pool} (h : (createPool t).Trace es r) :
    (Only (fun c => ∃ options, c = .create options) es ∧ Quiet es ∧ ∃ f, r = .error f) ∨
      ∃ early options pool, CallFree early ∧
        es = early ++ [.answered (.create options) (.ok pool)] ∧ r = .ok pool := by
  unfold createPool at h
  split at h
  · obtain ⟨rfl, rfl⟩ := Program.trace_done_iff.1 h
    exact .inl ⟨only_of_callFree callFree_nil, quiet_nil, _, rfl⟩
  obtain ⟨tail, rfl, hrest⟩ := Program.trace_log_bind_iff.1 h
  have hnote (entry : LogEntry) : CallFree [(.noted entry : Event Pool.interface)] := by simp
  split at hrest
  · obtain ⟨rfl, rfl⟩ := Program.trace_done_iff.1 hrest
    exact .inl ⟨only_of_callFree (hnote _), quiet_of_callFree (hnote _), _, rfl⟩
  · obtain ⟨reply, tail, rfl, hend⟩ := Program.trace_ask_iff.1 hrest
    obtain ⟨rfl, rfl⟩ := Program.trace_done_iff.1 hend
    cases r with
    | error f =>
      refine .inl ⟨only_append (only_of_callFree (hnote _)) (only_singleton ⟨_, rfl⟩), ?_, f, rfl⟩
      exact quiet_append.2 ⟨quiet_of_callFree (hnote _), quiet_error _ f⟩
    | ok pool => exact .inr ⟨_, _, pool, hnote _, rfl, rfl⟩

theorem openPool_effect {m : Move} (hrequest : m.request = .call .connect)
    (hinactive : m.before.activePool? = none) {r : Except Fault Unit}
    (h : (openPool t m.before).Trace m.events (r, m.after)) (hfails : m.Fails ↔ ∃ f, r = .error f) :
    m.Effect := by
  obtain ⟨es₁, es₂, created, hcreate, hrest, hevents⟩ := Program.trace_bind_iff.1 h
  rcases createPool_trace hcreate with ⟨honly, hquiet, f, rfl⟩ | ⟨early, options, pool, hearly, rfl, rfl⟩
  · obtain ⟨notes, tail, g, hreport, hend, rfl⟩ := Program.trace_bind_iff.1 hrest
    obtain ⟨rfl, heq⟩ := Program.trace_done_iff.1 hend
    obtain ⟨rfl, hafter⟩ := Prod.mk.inj heq
    have hnotes := (report_trace hreport).2
    rw [List.append_nil] at hevents
    refine .notOpened hrequest hinactive ?_ ?_ hafter (hfails.2 ⟨g, rfl⟩)
    · rw [hevents]
      exact only_append honly (only_of_callFree hnotes)
    · rw [hevents, quiet_append]
      exact ⟨hquiet, quiet_of_callFree hnotes⟩
  · obtain ⟨es₃, es₄, checked, hcheck, hend, rfl⟩ := Program.trace_bind_iff.1 hrest
    obtain ⟨hcalls, hversion⟩ := checkServer_trace hcheck
    rw [List.append_assoc, List.singleton_append] at hevents
    cases checked with
    | error f =>
      obtain ⟨notes, tail, g, hreport, hdone, rfl⟩ := Program.trace_bind_iff.1 hend
      obtain ⟨rfl, heq⟩ := Program.trace_done_iff.1 hdone
      obtain ⟨rfl, hafter⟩ := Prod.mk.inj heq
      have hnotes := (report_trace hreport).2
      rw [List.append_nil] at hevents
      exact .notChecked hrequest hinactive early hearly pool options (es₃ ++ notes) hevents
        (only_append hcalls (only_of_callFree hnotes)) hafter (hfails.2 ⟨g, rfl⟩)
    | ok u =>
      obtain ⟨rfl, heq⟩ := Program.trace_done_iff.1 hend
      obtain ⟨rfl, hafter⟩ := Prod.mk.inj heq
      obtain ⟨version, rfl⟩ := hversion u rfl
      rw [List.append_nil] at hevents
      refine .connected hrequest hinactive early hearly pool options version hevents hafter fun hf => ?_
      obtain ⟨f, hf⟩ := hfails.1 hf
      cases hf

theorem close_effect_of_held {m : Move} (hrequest : m.request = .call .close)
    (hpool : m.before.pool = some pool) {r : Except Fault Unit}
    (h : m.before.close.Trace m.events (r, m.after)) (hfails : m.Fails ↔ ∃ f, r = .error f) :
    m.Effect := by
  unfold close at h
  rw [hpool] at h
  obtain ⟨closed, tail, hevents, hrest⟩ := Program.trace_call_bind_iff.1 h
  cases closed with
  | error f =>
    obtain ⟨notes, end', g, hreport, hend, rfl⟩ := Program.trace_bind_iff.1 hrest
    obtain ⟨rfl, heq⟩ := Program.trace_done_iff.1 hend
    obtain ⟨rfl, hafter⟩ := Prod.mk.inj heq
    rw [List.append_nil] at hevents
    exact .notClosed hrequest pool hpool f notes hevents (report_trace hreport).2 hafter
      (hfails.2 ⟨g, rfl⟩)
  | ok u =>
    obtain ⟨notes, rfl, hend⟩ := Program.trace_log_bind_iff.1 hrest
    obtain ⟨rfl, heq⟩ := Program.trace_done_iff.1 hend
    obtain ⟨rfl, hafter⟩ := Prod.mk.inj heq
    refine .closed hrequest pool hpool _ hevents (by simp) hafter fun hf => ?_
    obtain ⟨f, hf⟩ := hfails.1 hf
    cases hf

/-- Everything that a request can do. -/
theorem Move.effect {m : Move} (h : m.Possible t) : m.Effect := by
  by_cases hidle : (m.request = .call .connect ∧ ∃ pool, m.before.activePool? = some pool) ∨
      (m.request = .call .close ∧ m.before.pool = none)
  · obtain ⟨hevents, hreturns, hafter⟩ := skipped_trace h hidle
    exact .skipped hidle hevents hafter hreturns
  rw [not_or, not_and, not_and] at hidle
  obtain ⟨q, before, events, result, after⟩ := m
  by_cases hconnect : q = .call .connect
  · subst hconnect
    have hinactive : before.activePool? = none :=
      Option.eq_none_iff_forall_ne_some.2 fun pool hactive => hidle.1 rfl ⟨pool, hactive⟩
    change (connect t before).Trace events (result, after) at h
    unfold connect at h
    rw [hinactive] at h
    exact openPool_effect rfl hinactive h Iff.rfl
  by_cases hclose : q = .call .close
  · subst hclose
    obtain ⟨pool, hpool⟩ := Option.ne_none_iff_exists'.1 (hidle.2 rfl)
    exact close_effect_of_held rfl hpool h Iff.rfl
  have hstatement : q.IsStatement := ⟨hconnect, hclose⟩
  rcases statement_trace hstatement h with
    ⟨hinactive, hevents, hresult, hafter⟩ | ⟨pool, hactive, honly, hafter⟩
  · exact .refused hstatement hinactive hevents hafter hresult
  · exact .sent hstatement pool hactive honly hafter

/-! ## Calls in order -/

/-- A call on a connector, as it was carried out. -/
structure Use where
  call : Database.Call
  before : Connector
  events : List (Event Pool.interface)
  result : Except Fault call.Value
  after : Connector

namespace Use

variable {u : Use}

/-- A connector may carry out the call so. -/
def Possible (t : Target) (u : Use) : Prop :=
  (answer t u.before u.call).Trace u.events (u.result, u.after)

/-- A pool was opened. -/
def Opens (u : Use) : Prop := ∃ pool, ∃ e ∈ u.events, OpensPool pool e

/-- A pool was closed. -/
def Closes (u : Use) : Prop := ∃ pool, ∃ e ∈ u.events, ClosesPool pool e

def Fails (u : Use) : Prop := ∃ f, u.result = .error f

/-- What a call does to the pools: nothing; a pool is opened and held, and the connector is connected
unless the call fails; or the held pool is closed. -/
inductive Effect (u : Use) : Prop
  | kept (quiet : Quiet u.events) (after : u.after = u.before)
  | opened (early : List (Event Pool.interface)) (silent : CallFree early) (pool : Pool)
      (options : Json.Fields) (late : List (Event Pool.interface))
      (events : u.events = early ++ .answered (.create options) (.ok pool) :: late) (quiet : Quiet late)
      (inactive : u.before.activePool? = none)
      (after : (u.after = ⟨some pool, true⟩ ∧ ¬ u.Fails) ∨
        (u.after = { u.before with pool := some pool } ∧ u.Fails))
  | closed (pool : Pool) (held : u.before.pool = some pool) (notes : List (Event Pool.interface))
      (events : u.events = .answered (.close pool) (.ok ()) :: notes) (silent : CallFree notes)
      (after : u.after = {})

end Use

/-- What a call can do to the pools. -/
theorem Use.effect {u : Use} (h : u.Possible t) : u.Effect := by
  have hmove : Move.Possible t ⟨.call u.call, u.before, u.events, u.result, u.after⟩ := h
  cases Move.effect hmove with
  | skipped request events after returns => exact .kept (quiet_of_eq_nil events) after
  | refused request inactive events after result => exact .kept (quiet_of_eq_nil events) after
  | sent request pool active through after => exact .kept through.quiet after
  | notOpened request inactive only quiet after fails => exact .kept quiet after
  | notChecked request inactive early silent pool options late events only after fails =>
    exact .opened early silent pool options late events only.through_of_check.quiet inactive (.inr ⟨after, fails⟩)
  | connected request inactive early silent pool options version events after returns =>
    have hlate := (only_check pool version).through_of_check
    exact .opened early silent pool options _ events hlate.quiet inactive (.inl ⟨after, returns⟩)
  | notClosed request pool held f notes events silent after fails =>
    exact .kept (quiet_of_notClosed events silent) after
  | closed request pool held notes events silent after returns =>
    exact .closed pool held notes events silent after

/-- Calls on a new connector, one after the other, and the connector after them. -/
inductive Uses (t : Target) : List Use → Connector → Prop
  | nil : Uses t [] {}
  | concat {us : List Use} {u : Use} (h : Uses t us u.before) (hu : u.Possible t) :
      Uses t (us ++ [u]) u.after

end Connector

end QueryPlans
