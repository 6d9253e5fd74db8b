import QueryPlans.Proofs.Database.Pools

/-!
# Moves of a connector

Requests to a new connector, one after the other.  A connector that counts as connected holds a pool that was
opened and checked, and not closed since.

* `Moves` — requests in order on a new connector.
* `CheckedSince` — a pool was opened and checked, and since then no pool was opened or closed.
* `Ledger.Serves` — every call through a pool goes through the one that is held at that moment.
* `ClosedSince` — a request to close has returned, and none to connect since.

Principal results: `Moves.sound` — what holds after every run; `Moves.disconnected` — what holds between
closing and connecting; `connector_lifecycle` — both together, with what the next request does.
-/

namespace QueryPlans

/-- The pool that a call goes through, or closes. -/
def Pool.Call.pool? : Pool.Call → Option Pool
  | create _ => none
  | acquire pool => some pool
  | release pool => some pool
  | execute pool _ => some pool
  | prepare pool _ => some pool
  | fetchPrepared pool _ => some pool
  | fetch pool _ _ => some pool
  | fetchValue pool _ _ => some pool
  | close pool => some pool

theorem Pool.Call.Through.pool?_eq {pool : Pool} {c : Pool.Call} (h : c.Through pool) :
    c.pool? = some pool := by
  cases c with
  | create options => exact h.elim
  | close other => exact h.elim
  | acquire other => exact congrArg some h
  | release other => exact congrArg some h
  | execute other sql => exact congrArg some h
  | prepare other sql => exact congrArg some h
  | fetchPrepared other statement => exact congrArg some h
  | fetch other sql arguments => exact congrArg some h
  | fetchValue other sql arguments => exact congrArg some h

namespace Connector

variable {t : Target} {s : Connector} {pool : Pool} {es fs : List (Event Pool.interface)} {l : Ledger}

/-! ## Runs -/

/-- Requests to a new connector, one after the other, and the connector after them. -/
inductive Moves (t : Target) : List Move → Connector → Prop
  | nil : Moves t [] {}
  | concat {ms : List Move} {m : Move} (h : Moves t ms m.before) (hm : m.Possible t) :
      Moves t (ms ++ [m]) m.after

/-- What the driver was asked, and what it answered, over requests in order. -/
def allEvents (ms : List Move) : List (Event Pool.interface) := ms.flatMap (·.events)

theorem allEvents_concat (ms : List Move) (m : Move) : allEvents (ms ++ [m]) = allEvents ms ++ m.events := by
  simp [allEvents]

/-- The pool was opened and checked, and since then no pool was opened or closed. -/
def CheckedSince (pool : Pool) (es : List (Event Pool.interface)) : Prop :=
  ∃ early options version late, es = early ++ checkedOpening options pool version ++ late ∧ Quiet late

theorem CheckedSince.append (h : CheckedSince pool es) (hfs : Quiet fs) : CheckedSince pool (es ++ fs) := by
  obtain ⟨early, options, version, late, rfl, hlate⟩ := h
  exact ⟨early, options, version, late ++ fs, List.append_assoc _ _ _, quiet_append.2 ⟨hlate, hfs⟩⟩

/-- Every call through a pool goes through the one that is held at that moment. -/
def Ledger.Serves (l : Ledger) : List (Event Pool.interface) → Prop
  | [] => True
  | e :: rest => (∀ c r, e = .answered c r → ∀ pool, c.pool? = some pool → l.held = some pool) ∧
      (l.after e).Serves rest

namespace Ledger

theorem serves_append : l.Serves (es ++ fs) ↔ l.Serves es ∧ (es.foldl after l).Serves fs := by
  induction es generalizing l with
  | nil => simp [Serves]
  | cons e rest ih => simp only [List.cons_append, Serves, List.foldl_cons, ih, and_assoc]

/-- Calls that open and close no pool, and go through the held one if they go through any. -/
theorem serves_of_quiet (hquiet : Quiet es)
    (honly : Only (fun c => ∀ pool, c.pool? = some pool → l.held = some pool) es) : l.Serves es := by
  induction es with
  | nil => trivial
  | cons e rest ih =>
    obtain ⟨hfirst, hrest⟩ := List.forall_mem_cons.1 hquiet
    refine ⟨?_, ?_⟩
    · rintro c r rfl
      exact honly c r List.mem_cons_self
    · have hsame : l.after e = l := after_of_quiet (by simpa [Quiet] using hfirst)
      rw [hsame]
      exact ih hrest fun c r hmem => honly c r (List.mem_cons_of_mem _ hmem)

theorem serves_of_through (hheld : l.held = some pool) (h : Only (Pool.Call.Through pool) es) :
    l.Serves es := by
  refine serves_of_quiet h.quiet fun c r hmem other hother => ?_
  rw [(h c r hmem).pool?_eq] at hother
  rw [hheld, hother]

end Ledger

/-- What holds after every run: the pool that is held is the connector's, a connected connector has a pool
that was checked, and every call went through the pool that was held. -/
structure Sound (es : List (Event Pool.interface)) (s : Connector) : Prop where
  held : (Ledger.ofEvents es).held = s.pool
  checked : s.connected = true → ∃ pool, s.pool = some pool ∧ CheckedSince pool es
  served : Ledger.Serves {} es

theorem eq_of_activePool? (h : s.activePool? = some pool) : s.pool = some pool ∧ s.connected = true := by
  unfold activePool? at h
  split at h
  · exact ⟨h, ‹_›⟩
  · cases h

/-- Nothing is opened or closed, and the connector stays as it is. -/
theorem Sound.quiet (h : Sound es s) (hquiet : Quiet fs) (hserves : (Ledger.ofEvents es).Serves fs) :
    Sound (es ++ fs) s where
  held := by
    rw [Ledger.ofEvents_append, Ledger.foldl_of_quiet hquiet]
    exact h.held
  checked hs := by
    obtain ⟨pool, hpool, hchecked⟩ := h.checked hs
    exact ⟨pool, hpool, hchecked.append hquiet⟩
  served := Ledger.serves_append.2 ⟨h.served, hserves⟩

/-- Entries of the log change nothing. -/
theorem Sound.silent (h : Sound es s) (hfs : CallFree fs) : Sound (es ++ fs) s :=
  h.quiet (quiet_of_callFree hfs) (Ledger.serves_of_quiet (quiet_of_callFree hfs) (only_of_callFree hfs))

/-- A connector without a pool is not connected, and one that is has its pool active. -/
theorem Sound.inactive (h : Sound es s) (hs : s.activePool? = none) : s.connected = false := by
  rw [← Bool.not_eq_true]
  intro hconnected
  obtain ⟨pool, hpool, -⟩ := h.checked hconnected
  unfold activePool? at hs
  rw [if_pos hconnected, hpool] at hs
  cases hs

/-- A pool is opened, and then calls go through it. -/
theorem Sound.opened (h : Sound es s) (options : Json.Fields) (hlate : Only (Pool.Call.Through pool) fs) :
    (Ledger.ofEvents (es ++ .answered (.create options) (.ok pool) :: fs)).held = some pool ∧
      Ledger.Serves {} (es ++ .answered (.create options) (.ok pool) :: fs) := by
  constructor
  · rw [Ledger.ofEvents_append, Ledger.foldl_created, Ledger.foldl_of_quiet hlate.quiet]
  · refine Ledger.serves_append.2 ⟨h.served, ?_, Ledger.serves_of_through rfl hlate⟩
    rintro c r ⟨⟩ other ⟨⟩

/-- What one request preserves. -/
theorem Move.Effect.sound {m : Move} (hm : m.Effect) (h : Sound es m.before) :
    Sound (es ++ m.events) m.after := by
  cases hm with
  | skipped request events after returns =>
    rw [events, List.append_nil, after]
    exact h
  | refused request inactive events after result =>
    rw [events, List.append_nil, after]
    exact h
  | sent request pool active through after =>
    have hheld := h.held.trans (eq_of_activePool? active).1
    rw [after]
    exact h.quiet through.quiet (Ledger.serves_of_through hheld through)
  | notOpened request inactive only quiet after fails =>
    rw [after]
    refine h.quiet quiet (Ledger.serves_of_quiet quiet fun c r hmem pool hpool => ?_)
    obtain ⟨options, rfl⟩ := only c r hmem
    cases hpool
  | notChecked request inactive early silent pool options late events only after fails =>
    have hdisconnected := h.inactive inactive
    obtain ⟨hheld, hserved⟩ := (h.silent silent).opened options only.through_of_check
    rw [events, after, ← List.append_assoc]
    refine ⟨hheld, fun hs => ?_, hserved⟩
    rw [hdisconnected] at hs
    cases hs
  | connected request inactive early silent pool options version events after returns =>
    obtain ⟨hheld, hserved⟩ :=
      (h.silent silent).opened options (only_check pool version).through_of_check
    rw [events, after, ← List.append_assoc]
    refine ⟨hheld, fun _ => ⟨pool, rfl, es ++ early, options, version, [], ?_, quiet_nil⟩, hserved⟩
    rw [List.append_nil]
  | notClosed request pool held f notes events silent after fails =>
    have hquiet : Quiet m.events := quiet_of_notClosed events silent
    rw [after]
    refine h.quiet hquiet (Ledger.serves_of_quiet hquiet fun c r hmem other hother => ?_)
    rw [events] at hmem
    rcases List.mem_cons.1 hmem with heq | hnote
    · cases heq
      rw [h.held, held]
      exact hother
    · exact absurd hnote (silent.not_mem _ _)
  | closed request pool held notes events silent after returns =>
    have hquiet := quiet_of_callFree silent
    rw [events, after]
    refine ⟨?_, fun hs => (nomatch hs), Ledger.serves_append.2 ⟨h.served, ?_, ?_⟩⟩
    · rw [Ledger.ofEvents_append, Ledger.foldl_closed, Ledger.foldl_of_quiet hquiet]
    rotate_left
    · exact Ledger.serves_of_quiet hquiet (only_of_callFree silent)
    · rintro c r ⟨⟩ other hother
      exact (h.held.trans held).trans hother

/-- What holds after every run. -/
theorem Moves.sound {ms : List Move} (h : Moves t ms s) : Sound (allEvents ms) s := by
  induction h with
  | nil => exact ⟨rfl, fun hs => (nomatch hs), trivial⟩
  | @concat ms m h hm ih =>
    rw [allEvents_concat]
    exact (Move.effect hm).sound ih

/-! ### Between closing and connecting -/

/-- A request to close has returned, and none to connect has returned since. -/
def ClosedSince (ms : List Move) : Prop :=
  ∃ past closing between, ms = past ++ closing :: between ∧
    (closing.request = .call .close ∧ ¬ closing.Fails) ∧ ∀ m ∈ between, m.request = .call .connect → m.Fails

theorem not_closedSince_nil : ¬ ClosedSince [] := by
  rintro ⟨past, closing, between, heq, -⟩
  simp at heq

theorem closedSince_concat {ms : List Move} {m : Move} :
    ClosedSince (ms ++ [m]) ↔ (m.request = .call .close ∧ ¬ m.Fails) ∨
      (ClosedSince ms ∧ (m.request = .call .connect → m.Fails)) := by
  refine (split_concat_iff (P := fun _ (closing : Move) (between : List Move) =>
    (closing.request = .call .close ∧ ¬ closing.Fails) ∧
      ∀ m ∈ between, m.request = .call .connect → m.Fails)).trans (or_congr (by simp) ⟨?_, ?_⟩)
  · rintro ⟨past, closing, between, rfl, hclosing, hbetween⟩
    obtain ⟨hbefore, hlast⟩ := List.forall_mem_append.1 hbetween
    exact ⟨⟨past, closing, between, rfl, hclosing, hbefore⟩, hlast m List.mem_cons_self⟩
  · rintro ⟨⟨past, closing, between, rfl, hclosing, hbefore⟩, hlast⟩
    refine ⟨past, closing, between, rfl, hclosing, List.forall_mem_append.2 ⟨hbefore, ?_⟩⟩
    simpa using hlast

/-- The calls of a request on a connector that is not connected: pools are opened and closed, and one that a
request to connect has opened is checked. -/
def IsUpkeep (q : Request) (c : Pool.Call) : Prop :=
  (∃ options, c = .create options) ∨ (∃ pool, c = .close pool) ∨
    (q = .call .connect ∧ ∃ pool, IsCheck pool c)

theorem upkeep_of_opened (options : Json.Fields) (h : Only (IsCheck pool) fs) :
    Only (IsUpkeep (.call .connect)) (.answered (.create options) (.ok pool) :: fs) := by
  intro c r hmem
  rcases List.mem_cons.1 hmem with heq | hlate
  · cases heq
    exact .inl ⟨options, rfl⟩
  · exact .inr (.inr ⟨rfl, pool, h c r hlate⟩)

theorem upkeep_of_closing {q : Request} {r : Except Fault Unit} (h : CallFree fs) :
    Only (IsUpkeep q) (.answered (.close pool) r :: fs) := by
  intro c r' hmem
  rcases List.mem_cons.1 hmem with heq | hnote
  · cases heq
    exact .inr (.inl ⟨pool, rfl⟩)
  · exact absurd hnote (h.not_mem _ _)

/-- A connector that is not connected stays so until a request to connect returns, and sends no statement but
the check of a pool. -/
theorem Move.Effect.disconnected {m : Move} (hm : m.Effect) (h : m.before.connected = false) :
    ((m.request = .call .connect → m.Fails) → m.after.connected = false) ∧
      Only (IsUpkeep m.request) m.events := by
  have hsame (hafter : m.after = m.before) : m.after.connected = false := by
    rw [hafter]
    exact h
  have hnone (hevents : m.events = []) : Only (IsUpkeep m.request) m.events := by
    rw [hevents]
    exact only_of_callFree callFree_nil
  cases hm with
  | skipped request events after returns => exact ⟨fun _ => hsame after, hnone events⟩
  | refused request inactive events after result => exact ⟨fun _ => hsame after, hnone events⟩
  | sent request pool active through after =>
    have hconnected := (eq_of_activePool? active).2
    rw [h] at hconnected
    cases hconnected
  | notOpened request inactive only quiet after fails =>
    exact ⟨fun _ => hsame after, fun c r hmem => .inl (only c r hmem)⟩
  | notChecked request inactive early silent pool options late events only after fails =>
    refine ⟨fun _ => ?_, ?_⟩
    · rw [after]
      exact h
    · rw [events, request]
      exact only_append (only_of_callFree silent) (upkeep_of_opened options only)
  | connected request inactive early silent pool options version events after returns =>
    refine ⟨fun hfails => absurd (hfails request) returns, ?_⟩
    rw [events, request]
    exact only_append (only_of_callFree silent) (upkeep_of_opened options (only_check pool version))
  | notClosed request pool held f notes events silent after fails =>
    refine ⟨fun _ => hsame after, ?_⟩
    rw [events]
    exact upkeep_of_closing silent
  | closed request pool held notes events silent after returns =>
    refine ⟨fun _ => by rw [after], ?_⟩
    rw [events]
    exact upkeep_of_closing silent

/-- Closing leaves a connector that is not connected. -/
theorem Move.Effect.disconnected_of_close {m : Move} (hm : m.Effect) (h : Sound es m.before)
    (hrequest : m.request = .call .close) (hreturns : ¬ m.Fails) : m.after.connected = false := by
  cases hm with
  | skipped request events after returns =>
    rcases request with ⟨hconnect, -⟩ | ⟨-, hpool⟩
    · rw [hrequest] at hconnect
      cases hconnect
    · rw [after]
      refine h.inactive ?_
      unfold activePool?
      rw [hpool, ite_self]
  | refused request inactive events after result => exact absurd hrequest request.2
  | sent request pool active through after => exact absurd hrequest request.2
  | notOpened request inactive only quiet after fails => exact absurd fails hreturns
  | notChecked request inactive early silent pool options late events only after fails =>
    exact absurd fails hreturns
  | connected request inactive early silent pool options version events after returns =>
    rw [hrequest] at request
    cases request
  | notClosed request pool held f notes events silent after fails => exact absurd fails hreturns
  | closed request pool held notes events silent after returns => rw [after]

/-- Between closing and connecting a connector is not connected. -/
theorem Moves.disconnected {ms : List Move} (h : Moves t ms s) (hclosed : ClosedSince ms) :
    s.connected = false := by
  induction h with
  | nil => exact absurd hclosed not_closedSince_nil
  | @concat ms m h hm ih =>
    rcases closedSince_concat.1 hclosed with ⟨hclose, hreturns⟩ | ⟨hbefore, hfails⟩
    · exact (Move.effect hm).disconnected_of_close h.sound hclose hreturns
    · exact ((Move.effect hm).disconnected (ih hbefore)).1 hfails

/-! ## The life of a connector -/

/-- **The life of a connector.** Requests are carried out on a new connector, one after the other, and the
driver does anything. A connected connector holds a pool that was opened and checked, and not closed since.
Every call to the driver goes through the pool that is held at that moment, and at the end the connector holds
it. The next request sends its statement through the pool of the connector; on a connector that is not
connected it raises the fault for this, and the driver is not called. To connect a connected connector, or to
close one without a pool, does nothing. After closing has returned, and until connecting returns, the
connector is not connected, and no statement is sent but the one by which a request to connect checks the pool
that it has opened. -/
theorem connector_lifecycle {ms : List Move} (h : Moves t ms s) :
    (s.connected = true → ∃ pool, s.pool = some pool ∧ CheckedSince pool (allEvents ms)) ∧
    (Ledger.ofEvents (allEvents ms)).held = s.pool ∧
    (∀ past c r future, allEvents ms = past ++ .answered c r :: future →
      ∀ pool, c.pool? = some pool → (Ledger.ofEvents past).held = some pool) ∧
    ∀ m : Move, m.before = s → m.Possible t →
      (m.request.IsStatement → Only (fun c => ∃ pool, s.pool = some pool ∧ c.Through pool) m.events) ∧
      (m.request.IsStatement → s.connected = false →
        m.events = [] ∧ m.result = .error notConnected ∧ m.after = s) ∧
      ((m.request = .call .connect ∧ s.connected = true) ∨ (m.request = .call .close ∧ s.pool = none) →
        m.events = [] ∧ ¬ m.Fails ∧ m.after = s) ∧
      (ClosedSince ms → s.connected = false ∧ Only (IsUpkeep m.request) m.events) := by
  have hsound := h.sound
  refine ⟨hsound.checked, hsound.held, ?_, ?_⟩
  · intro past c r future heq pool hpool
    have hserved := hsound.served
    rw [heq] at hserved
    exact (Ledger.serves_append.1 hserved).2.1 c r rfl pool hpool
  rintro m rfl hm
  refine ⟨fun hq => ?_, fun hq hdisconnected => ?_, fun hidle => ?_, fun hclosed => ?_⟩
  · rcases statement_trace hq hm with ⟨-, hevents, -⟩ | ⟨pool, hactive, honly, -⟩
    · rw [hevents]
      exact only_of_callFree callFree_nil
    · exact fun c r hmem => ⟨pool, (eq_of_activePool? hactive).1, honly c r hmem⟩
  · rcases statement_trace hq hm with ⟨-, hrefused⟩ | ⟨pool, hactive, -⟩
    · exact hrefused
    · have hconnected := (eq_of_activePool? hactive).2
      rw [hdisconnected] at hconnected
      cases hconnected
  · refine skipped_trace hm (hidle.imp_left fun ⟨hq, hconnected⟩ => ⟨hq, ?_⟩)
    obtain ⟨pool, hpool, -⟩ := hsound.checked hconnected
    exact ⟨pool, by simp [activePool?, hconnected, hpool]⟩
  · have hdisconnected := h.disconnected hclosed
    exact ⟨hdisconnected, ((Move.effect hm).disconnected hdisconnected).2⟩

/-! ### A connector that is closed and asked again -/

/-- A request in a world, and the state of the world after it. -/
def Move.made {σ : Type} (world : World Pool.interface σ) (t : Target) (q : Request) (s : Connector)
    (d : σ) : Move × σ :=
  let run := (q.perform t s).run world d
  (⟨q, s, run.events, run.value.1, run.value.2⟩, run.state)

theorem Move.made_possible {σ : Type} (world : World Pool.interface σ) (t : Target) (q : Request)
    (s : Connector) (d : σ) : (Move.made world t q s d).1.Possible t :=
  Program.run_trace world (q.perform t s) d

theorem Move.made_before {σ : Type} (world : World Pool.interface σ) (t : Target) (q : Request)
    (s : Connector) (d : σ) : (Move.made world t q s d).1.before = s := rfl

theorem Moves.made {σ : Type} (world : World Pool.interface σ) (q : Request) (d : σ) {ms : List Move}
    (h : Moves t ms s) :
    Moves t (ms ++ [(Move.made world t q s d).1]) (Move.made world t q s d).1.after :=
  .concat h (Move.made_possible world t q s d)

/-- Connecting fails at first. -/
def missedConnect : Move × Nat := Move.made firstPoolFails localTarget (.call .connect) {} 0

/-- It is tried again. -/
def checkedConnect : Move × Nat :=
  Move.made firstPoolFails localTarget (.call .connect) missedConnect.1.after missedConnect.2

/-- The connector is closed. -/
def shutConnector : Move × Nat :=
  Move.made firstPoolFails localTarget (.call .close) checkedConnect.1.after checkedConnect.2

/-- A statement comes too late. -/
def lateStatement : Move × Nat :=
  Move.made firstPoolFails localTarget (.executeWithin "SELECT 1" 5) shutConnector.1.after shutConnector.2

/-- The second pool was checked and is held; after closing, a statement is refused. -/
theorem late_statement_is_refused :
    CheckedSince ⟨1⟩ (allEvents ([] ++ [missedConnect.1] ++ [checkedConnect.1])) ∧
      ClosedSince ([] ++ [missedConnect.1] ++ [checkedConnect.1] ++ [shutConnector.1]) ∧
      lateStatement.1.events = [] ∧ lateStatement.1.result = .error notConnected := by
  have hconnected : Moves localTarget ([] ++ [missedConnect.1] ++ [checkedConnect.1])
      checkedConnect.1.after := by
    unfold checkedConnect missedConnect
    exact (Moves.nil.made firstPoolFails (.call .connect) 0).made firstPoolFails (.call .connect) _
  have hclosed : Moves localTarget ([] ++ [missedConnect.1] ++ [checkedConnect.1] ++ [shutConnector.1])
      shutConnector.1.after := by
    unfold shutConnector
    exact hconnected.made firstPoolFails (.call .close) _
  have hafter : checkedConnect.1.after = ⟨some ⟨1⟩, true⟩ := by decide +kernel
  have hlifecycle := connector_lifecycle hconnected
  rw [hafter] at hlifecycle
  obtain ⟨pool, hpool, hchecked⟩ := hlifecycle.1 rfl
  cases hpool
  have hreturns : ¬ shutConnector.1.Fails := by
    unfold shutConnector
    rw [hafter]
    rintro ⟨f, hf⟩
    cases hf
  have hsince : ClosedSince ([] ++ [missedConnect.1] ++ [checkedConnect.1] ++ [shutConnector.1]) :=
    closedSince_concat.2 (.inl ⟨rfl, hreturns⟩)
  unfold lateStatement
  obtain ⟨-, hrefused, -, hlate⟩ :=
    (connector_lifecycle hclosed).2.2.2 _ (Move.made_before ..) (Move.made_possible ..)
  have hstatement : (Request.executeWithin "SELECT 1" 5).IsStatement := ⟨nofun, nofun⟩
  obtain ⟨hevents, hresult, -⟩ := hrefused hstatement (hlate hsince).1
  exact ⟨hchecked, hsince, hevents, hresult⟩

end Connector

end QueryPlans
