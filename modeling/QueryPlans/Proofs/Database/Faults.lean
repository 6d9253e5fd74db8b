import QueryPlans.Database.Connector
import QueryPlans.Proofs.Program.Forward

/-!
# Faults of the driver, as a connector reports them

A connector asks the driver one thing after another and stops at the first fault; but a connection is given
back even then, and that may fail as well.  What it then reports is a fault of its own, in the wording of the
operation; a cancellation comes through as it is.

* `Pool.Released`, `Pool.ReleasedBut` — every connection could be given back, but perhaps for one fault.
* `Wording.reported` — the report of a fault.
* `Met`, `Wording.Covers` — a result that each fault of the driver ends in, before it is reported and after.

Principal results: `withConnection_trace` — a connection is given back once, behind what was done with it;
`report_trace` — what is reported; `withPool_trace` — a statement through the pool, `connect_trace` and
`close_trace` — the pool itself: every fault is covered by the wording.
-/

namespace QueryPlans

/-- The fault is neither a cancellation nor one of a statement that the server cancelled. -/
def Fault.IsPlain (f : Fault) : Prop := f.isCancellation = false ∧ f.isOneOf [.queryCanceled] = false

theorem Fault.isPlain_ofNumeral (e : Numeral.Error) : (Fault.ofNumeral e).IsPlain := ⟨rfl, rfl⟩

/-- Every connection that was taken out of a pool could be given back. -/
def Pool.Released (es : List (Event Pool.interface)) : Prop :=
  ∀ (pool : Pool) (f : Fault), .answered (.release pool) (.error f) ∉ es

/-- A connection that could not be given back met this fault. -/
def Pool.ReleasedBut (f : Fault) (es : List (Event Pool.interface)) : Prop :=
  ∀ (pool : Pool) (g : Fault), .answered (.release pool) (.error g) ∈ es → g = f

theorem Pool.ReleasedBut.mono {f : Fault} {es fs : List (Event Pool.interface)} (h : Pool.ReleasedBut f fs)
    (hsub : es ⊆ fs) : Pool.ReleasedBut f es := fun pool g hmem => h pool g (hsub hmem)

theorem Pool.Released.but {es : List (Event Pool.interface)} (h : Pool.Released es) (f : Fault) :
    Pool.ReleasedBut f es := fun pool g hmem => absurd hmem (h pool g)

namespace Connector

open Pool (call Released ReleasedBut)
open Program (Forwards)

variable {α β : Type} {w : Wording} {f g : Fault} {es fs : List (Event Pool.interface)}

/-! ## Reports -/

/-- The fault that is reported for one of the driver. -/
def Wording.reported (w : Wording) (f : Fault) : Fault :=
  if f.isCancellation then f
  else if f.isOneOf [.queryCanceled] then
    match w.canceled f.message with
    | .error n => .ofNumeral n
    | .ok (_, report) => .raised w.kind report
  else if f.isPostgres then .raised w.kind (w.server f.message)
  else .raised w.kind (w.other f.message)

/-- Besides the report there are entries in the log only. -/
theorem report_trace (h : (w.report f).Trace es g) : g = w.reported f ∧ CallFree es := by
  dsimp only [Wording.report] at h
  unfold Wording.reported
  split at h
  · rename_i hcancelled
    obtain ⟨rfl, rfl⟩ := Program.trace_done_iff.1 h
    rw [if_pos hcancelled]
    exact ⟨rfl, callFree_nil⟩
  rename_i hordinary
  rw [if_neg hordinary]
  split at h
  · rename_i hserver
    rw [if_pos hserver]
    cases hreport : w.canceled f.message with
    | error n =>
      rw [hreport] at h
      obtain ⟨rfl, rfl⟩ := Program.trace_done_iff.1 h
      exact ⟨rfl, callFree_nil⟩
    | ok texts =>
      rw [hreport] at h
      obtain ⟨_, rfl, hend⟩ := Program.trace_log_bind_iff.1 h
      obtain ⟨rfl, rfl⟩ := Program.trace_done_iff.1 hend
      exact ⟨rfl, by simp⟩
  rename_i hserver
  rw [if_neg hserver]
  split at h
  · rename_i hpostgres
    obtain ⟨_, rfl, hend⟩ := Program.trace_log_bind_iff.1 h
    obtain ⟨rfl, rfl⟩ := Program.trace_done_iff.1 hend
    rw [if_pos hpostgres]
    exact ⟨rfl, by simp⟩
  · rename_i hpostgres
    obtain ⟨_, rfl, hend⟩ := Program.trace_log_bind_iff.1 h
    obtain ⟨rfl, rfl⟩ := Program.trace_done_iff.1 hend
    rw [if_neg hpostgres]
    exact ⟨rfl, by simp⟩

/-- A cancellation comes through as it is. -/
theorem reported_of_cancellation (h : f.isCancellation = true) : w.reported f = f := if_pos h

/-- Every other fault is reported in the kind of the operation, unless the server cancelled the statement
and what is then said cannot be written. -/
theorem reported_kind (hf : f.isCancellation = false)
    (hcanceled : f.isOneOf [.queryCanceled] = true → ∃ report, w.canceled f.message = .ok report) :
    ∃ message, w.reported f = .raised w.kind message := by
  unfold Wording.reported
  rw [if_neg (by simp [hf])]
  split
  · rename_i hserver
    obtain ⟨⟨note, report⟩, hreport⟩ := hcanceled hserver
    rw [hreport]
    exact ⟨_, rfl⟩
  · split <;> exact ⟨_, rfl⟩

/-- Then the number is reported that cannot be written. -/
theorem reported_unwritten {n : Numeral.Error} (hf : f.isOneOf [.queryCanceled] = true)
    (hn : w.canceled f.message = .error n) : w.reported f = .ofNumeral n := by
  have hordinary : f.isCancellation = false := by
    cases f with
    | raised kind message => cases kind <;> first | rfl | cases hf
    | invalid issues => cases hf
  unfold Wording.reported
  rw [if_neg (by simp [hordinary]), if_pos hf, hn]

/-! ## Results, and their reports -/

/-- The faults of the driver end in the result: in the fault itself, if no other came in giving a connection
back. A fault of another origin is a plain one. -/
structure Met (es : List (Event Pool.interface)) (r : Except Fault α) : Prop where
  fails : ∀ f, Raises es f → ∃ g, r = .error g
  stops : ∀ f, ReleasedBut f es → Raises es f → r = .error f
  raised : ∀ g, r = .error g → Raises es g ∨ g.IsPlain

/-- A program that stops at the first fault ends in it. -/
theorem met_of_forwards {p : PoolProgram (Except Fault α)} {r : Except Fault α}
    (hp : Forwards Fault.IsPlain p) (h : p.Trace es r) : Met es r where
  fails f hraises := ⟨f, hp.stops h hraises⟩
  stops _ _ hraises := hp.stops h hraises
  raised g hg := by
    subst hg
    exact hp.raised h

theorem met_of_callFree {a : α} (h : CallFree es) : Met es (.ok a : Except Fault α) where
  fails _ hraises := absurd hraises h.not_raises
  stops _ _ hraises := absurd hraises h.not_raises
  raised _ h := nomatch h

/-- What ended well has met no fault, so that the result is that of what follows. -/
theorem Met.append {a : α} {r : Except Fault β} (h : Met es (.ok a : Except Fault α)) (h' : Met fs r) :
    Met (es ++ fs) r := by
  have hlate {f : Fault} (hraises : Raises (es ++ fs) f) : Raises fs f := by
    rcases raises_append.1 hraises with hearly | hlate
    · exact nomatch h.fails f hearly
    · exact hlate
  refine ⟨fun f hraises => h'.fails f (hlate hraises), fun f hreleased hraises => ?_, fun g hg => ?_⟩
  · exact h'.stops f (hreleased.mono (List.subset_append_right es fs)) (hlate hraises)
  · exact (h'.raised g hg).imp_left fun hraises => raises_append.2 (.inr hraises)

/-- The wording covers a result: a fault of the driver ends in its report, if no other came in giving a
connection back, and a fault is the report of one of the driver or of a plain one. -/
structure Wording.Covers (w : Wording) (es : List (Event Pool.interface)) (r : Except Fault α) :
    Prop where
  fails : ∀ f, Raises es f → ∃ g, r = .error g
  stops : ∀ f, ReleasedBut f es → Raises es f → r = .error (w.reported f)
  only : ∀ g, r = .error g → ∃ f, g = w.reported f ∧ (Raises es f ∨ f.IsPlain)

theorem Wording.Covers.of_ok {a : α} (h : CallFree es) : w.Covers es (.ok a : Except Fault α) where
  fails _ hraises := absurd hraises h.not_raises
  stops _ _ hraises := absurd hraises h.not_raises
  only _ h := nomatch h

/-- The wording covers a fault once it is reported. -/
theorem covers_of_error {notes : List (Event Pool.interface)} (h : Met es (.error g : Except Fault α))
    (hnotes : CallFree notes) : w.Covers (es ++ notes) (.error (w.reported g) : Except Fault β) where
  fails _ _ := ⟨_, rfl⟩
  stops f hreleased hraises := by
    rcases raises_append.1 hraises with hmain | hnote
    · cases h.stops f (hreleased.mono (List.subset_append_left es notes)) hmain
      rfl
    · exact absurd hnote hnotes.not_raises
  only g' heq := by
    cases heq
    exact ⟨g, rfl, (h.raised g rfl).imp_left fun h => raises_append.2 (.inl h)⟩

/-- Without a fault nothing is to be covered. -/
theorem covers_of_ok {a : α} {b : β} (h : Met es (.ok a : Except Fault α)) :
    w.Covers es (.ok b : Except Fault β) where
  fails f hraises := nomatch h.fails f hraises
  stops f _ hraises := nomatch h.fails f hraises
  only _ h := nomatch h

/-! ## Connections -/

/-- A connection that was taken out of a pool is given back, once, behind what was done with it. -/
theorem withConnection_trace {pool : Pool} {body : PoolProgram (Except Fault α)} {r : Except Fault α}
    (h : (withConnection pool body).Trace es r) :
    (∃ f, es = [.answered (.acquire pool) (.error f)] ∧ r = .error f) ∨
      ∃ done result released, body.Trace done result ∧
        es = .answered (.acquire pool) (.ok ()) :: (done ++ [.answered (.release pool) released]) ∧
        r = released.bind fun _ => result := by
  obtain ⟨acquired, tail, rfl, hnext⟩ := Program.trace_call_bind_iff.1 h
  cases acquired with
  | error f =>
    obtain ⟨rfl, rfl⟩ := Program.trace_done_iff.1 hnext
    exact .inl ⟨f, rfl, rfl⟩
  | ok u =>
    obtain ⟨done, es₂, result, hbody, hreleased, rfl⟩ := Program.trace_bind_iff.1 hnext
    obtain ⟨released, rest, rfl, hend⟩ := Program.trace_call_bind_iff.1 hreleased
    refine .inr ⟨done, result, released, hbody, ?_⟩
    cases released <;> (obtain ⟨rfl, rfl⟩ := Program.trace_done_iff.1 hend; exact ⟨rfl, rfl⟩)

theorem withConnection_met {pool : Pool} {body : PoolProgram (Except Fault α)} {r : Except Fault α}
    (hbody : Forwards Fault.IsPlain body) (h : (withConnection pool body).Trace es r) : Met es r := by
  rcases withConnection_trace h with ⟨f, rfl, rfl⟩ | ⟨done, result, released, hdone, rfl, rfl⟩
  · have honly (f' : Fault)
        (hraises : Raises ([.answered (.acquire pool) (.error f)] : List (Event Pool.interface)) f') : f' = f :=
      (raises_error_cons.1 hraises).resolve_right not_raises_nil
    refine ⟨fun _ _ => ⟨f, rfl⟩, fun f' _ hraises => by rw [honly f' hraises], fun g hg => ?_⟩
    cases hg
    exact .inl ⟨_, List.mem_cons_self⟩
  · cases released with
    | error g =>
      have hmem : .answered (.release pool) (.error g) ∈ (.answered (.acquire pool) (.ok ()) ::
          (done ++ [.answered (.release pool) (.error g)]) : List (Event Pool.interface)) := by simp
      refine ⟨fun _ _ => ⟨g, rfl⟩, fun f hreleased _ => congrArg Except.error (hreleased pool g hmem),
        fun g' hg => ?_⟩
      cases hg
      exact .inl ⟨_, hmem⟩
    | ok u =>
      have hraises_iff (f : Fault) : Raises (.answered (.acquire pool) (.ok ()) ::
          (done ++ [.answered (.release pool) (.ok u)]) : List (Event Pool.interface)) f ↔ Raises done f :=
        raises_ok_cons.trans (raises_append.trans (or_iff_left fun hlast =>
          not_raises_nil (raises_ok_cons.1 hlast)))
      have hmet := met_of_forwards hbody hdone
      refine ⟨fun f hraises => ?_, fun f _ hraises => ?_, fun g hg => ?_⟩
      · exact hmet.fails f ((hraises_iff f).1 hraises)
      · exact hbody.stops hdone ((hraises_iff f).1 hraises)
      · exact (hmet.raised g hg).imp_left (hraises_iff g).2

/-- If nothing is done with the connection, one fault is met at most. -/
theorem withConnection_stops {pool : Pool} {r r' : Except Fault α}
    (h : (withConnection pool (.done r)).Trace es r') (hraises : Raises es f) : r' = .error f := by
  rcases withConnection_trace h with ⟨g, rfl, rfl⟩ | ⟨done, result, released, hdone, rfl, rfl⟩
  · cases (raises_error_cons.1 hraises).resolve_right not_raises_nil
    rfl
  · obtain ⟨rfl, rfl⟩ := Program.trace_done_iff.1 hdone
    replace hraises := raises_ok_cons.1 hraises
    cases released with
    | error g =>
      cases (raises_error_cons.1 hraises).resolve_right not_raises_nil
      rfl
    | ok u => exact absurd (raises_ok_cons.1 hraises) not_raises_nil

/-! ## Statements through the pool -/

/-- What a program gives is passed on, and its fault is reported. -/
theorem reporting_trace {p : PoolProgram (Except Fault α)} {r : Except Fault α}
    (h : (reporting w p).Trace es r) :
    (∃ a, p.Trace es (.ok a) ∧ r = .ok a) ∨
      ∃ main notes f, p.Trace main (.error f) ∧ CallFree notes ∧ es = main ++ notes ∧
        r = .error (w.reported f) := by
  obtain ⟨main, es₂, result, hmain, hrest, rfl⟩ := Program.trace_bind_iff.1 h
  cases result with
  | ok a =>
    obtain ⟨rfl, rfl⟩ := Program.trace_done_iff.1 hrest
    rw [List.append_nil]
    exact .inl ⟨a, hmain, rfl⟩
  | error f =>
    obtain ⟨notes, tail, g, hreport, hend, rfl⟩ := Program.trace_bind_iff.1 hrest
    obtain ⟨rfl, rfl⟩ := Program.trace_done_iff.1 hend
    obtain ⟨rfl, hnotes⟩ := report_trace hreport
    rw [List.append_nil]
    exact .inr ⟨main, notes, f, hmain, hnotes, rfl, rfl⟩

/-- A call on a connector that is not connected fails at once; else the wording covers it. -/
theorem withPool_trace {s : Connector} {p : Pool → PoolProgram (Except Fault α)} {r : Except Fault α}
    (hp : ∀ pool, Forwards Fault.IsPlain (p pool)) (h : (s.withPool w p).Trace es r) :
    (s.activePool? = none ∧ es = [] ∧ r = .error notConnected) ∨
      ((∃ pool, s.activePool? = some pool) ∧ w.Covers es r) := by
  unfold withPool at h
  cases hpool : s.activePool? with
  | none =>
    rw [hpool] at h
    obtain ⟨rfl, rfl⟩ := Program.trace_done_iff.1 h
    exact .inl ⟨rfl, rfl, rfl⟩
  | some pool =>
    rw [hpool] at h
    refine .inr ⟨⟨pool, rfl⟩, ?_⟩
    rcases reporting_trace h with ⟨a, hmain, rfl⟩ | ⟨main, notes, f, hmain, hnotes, rfl, rfl⟩
    · exact covers_of_ok (withConnection_met (hp pool) hmain)
    · exact covers_of_error (withConnection_met (hp pool) hmain) hnotes

/-- A statement with a value was sent over a connection out of the pool of a connected connector, which was
given back. -/
theorem withPool_ok {s : Connector} {p : Pool → PoolProgram (Except Fault α)} {a : α}
    (h : (s.withPool w p).Trace es (.ok a)) :
    ∃ pool done, es = .answered (.acquire pool) (.ok ()) ::
        (done ++ [.answered (.release pool) (.ok ())]) ∧ (p pool).Trace done (.ok a) := by
  unfold withPool at h
  split at h
  · cases (Program.trace_done_iff.1 h).2
  · rename_i pool hpool
    obtain ⟨a, hmain, hok⟩ := (reporting_trace h).resolve_right (by simp)
    cases hok
    rcases withConnection_trace hmain with ⟨f, -, hr⟩ | ⟨done, result, released, hdone, rfl, hr⟩
    · cases hr
    · cases released with
      | error f => cases hr
      | ok u =>
        obtain rfl : result = .ok _ := hr.symm
        exact ⟨pool, done, rfl, hdone⟩

theorem runStatement_forwards (sql : String) (seconds : Int) (pool : Pool) :
    Forwards Fault.IsPlain (runStatement sql seconds pool) := by
  unfold runStatement
  cases hlimit : limitStatement seconds with
  | error f =>
    apply Forwards.of_error
    unfold limitStatement at hlimit
    cases hwrite : Numeral.write? (seconds * 1000) with
    | error e =>
      rw [hwrite] at hlimit
      cases hlimit
      exact Fault.isPlain_ofNumeral e
    | ok digits =>
      rw [hwrite] at hlimit
      cases hlimit
  | ok limit =>
    refine (Forwards.of_call _).andThen (fun _ => rfl) fun _ => ?_
    refine (Forwards.of_call _).andThen (fun _ => rfl) fun statement => ?_
    exact (Forwards.of_call _).andThen (fun _ => rfl) fun records => .of_ok _

/-! ## The pool -/

theorem checkVersion_isPlain {v : Json} (h : checkVersion v = .error f) : f.IsPlain := by
  unfold checkVersion at h
  split at h
  · cases h
  · cases h
    exact ⟨rfl, rfl⟩

theorem askVersion_forwards (pool : Pool) : Forwards Fault.IsPlain (askVersion pool) := by
  refine (Forwards.of_call _).andThen (fun _ => rfl) fun v => ?_
  simp only
  cases hversion : checkVersion v with
  | error f => exact .of_error (checkVersion_isPlain hversion)
  | ok name => exact .noted (.of_ok ())

theorem createPool_forwards (t : Target) : Forwards Fault.IsPlain (createPool t) := by
  unfold createPool
  cases Numeral.write? t.port with
  | error e => exact .of_error (Fault.isPlain_ofNumeral e)
  | ok port =>
    apply Forwards.noted
    cases hoptions : poolOptions t with
    | error f =>
      unfold poolOptions at hoptions
      split at hoptions
      · cases hoptions
        exact .of_error ⟨rfl, rfl⟩
      · cases hoptions
    | ok options => exact .of_call _

theorem connect_trace {t : Target} {s s' : Connector} {r : Except Fault Unit}
    (h : (s.connect t).Trace es (r, s')) : connecting.Covers es r := by
  unfold connect at h
  split at h
  · obtain ⟨rfl, heq⟩ := Program.trace_done_iff.1 h
    cases heq
    exact .of_ok callFree_nil
  obtain ⟨es₁, es₂, created, hcreate, hrest, rfl⟩ := Program.trace_bind_iff.1 h
  cases created with
  | error f =>
    obtain ⟨notes, tail, g, hreport, hend, rfl⟩ := Program.trace_bind_iff.1 hrest
    obtain ⟨rfl, heq⟩ := Program.trace_done_iff.1 hend
    cases heq
    obtain ⟨rfl, hnotes⟩ := report_trace hreport
    rw [List.append_nil]
    exact covers_of_error (met_of_forwards (createPool_forwards t) hcreate) hnotes
  | ok pool =>
    obtain ⟨es₃, es₄, checked, hcheck, hend, rfl⟩ := Program.trace_bind_iff.1 hrest
    have hmet : Met (es₁ ++ es₃) checked :=
      (met_of_forwards (createPool_forwards t) hcreate).append
        (withConnection_met (askVersion_forwards pool) hcheck)
    cases checked with
    | error f =>
      obtain ⟨notes, tail, g, hreport, hdone, rfl⟩ := Program.trace_bind_iff.1 hend
      obtain ⟨rfl, heq⟩ := Program.trace_done_iff.1 hdone
      cases heq
      obtain ⟨rfl, hnotes⟩ := report_trace hreport
      rw [List.append_nil, ← List.append_assoc]
      exact covers_of_error hmet hnotes
    | ok u =>
      obtain ⟨rfl, heq⟩ := Program.trace_done_iff.1 hend
      cases heq
      rw [List.append_nil]
      exact covers_of_ok hmet

theorem close_trace {s s' : Connector} {r : Except Fault Unit} (h : s.close.Trace es (r, s')) :
    closing.Covers es r := by
  unfold close at h
  cases hpool : s.pool with
  | none =>
    rw [hpool] at h
    obtain ⟨rfl, heq⟩ := Program.trace_done_iff.1 h
    cases heq
    exact .of_ok callFree_nil
  | some pool =>
    rw [hpool] at h
    obtain ⟨es₁, es₂, closed, hclose, hrest, rfl⟩ := Program.trace_bind_iff.1 h
    have hforwards : Forwards Fault.IsPlain (call (.close pool)) := .of_call _
    cases closed with
    | error f =>
      obtain ⟨notes, tail, g, hreport, hend, rfl⟩ := Program.trace_bind_iff.1 hrest
      obtain ⟨rfl, heq⟩ := Program.trace_done_iff.1 hend
      cases heq
      obtain ⟨rfl, hnotes⟩ := report_trace hreport
      rw [List.append_nil]
      exact covers_of_error (met_of_forwards hforwards hclose) hnotes
    | ok u =>
      obtain ⟨notes, rfl, hend⟩ := Program.trace_log_bind_iff.1 hrest
      obtain ⟨rfl, heq⟩ := Program.trace_done_iff.1 hend
      cases heq
      exact covers_of_ok ((met_of_forwards hforwards hclose).append
        (met_of_callFree (a := ()) (by simp)))

end Connector

end QueryPlans
