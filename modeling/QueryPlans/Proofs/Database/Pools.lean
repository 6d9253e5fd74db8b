import QueryPlans.Proofs.Database.Layers
import QueryPlans.Proofs.Database.Lifecycle

/-!
# Pools that are kept

A pool is open from when the driver gave it until it is closed, and a connector that holds no open pool but
its own loses none.  The pool is held as soon as it was opened, before its server is checked.  So a call
that fails between the two leaves an open pool, and the next one to connect opens another in its place.

* `Ledger` — the open pools, one entry for each opening, and the one that is held, by the events so far.
* `Ledger.Kept` — every open pool is the one that is held, and there is at most one.
* `LeftOpen` — a call opened a pool and failed, and none was closed since.
* `Reconnects` — a pool was opened after that.

Principal results: `Uses.tracks` — the ledger and the connector agree on the pool that is held;
`pools_kept_iff` — at every point of a run the pools are kept, exactly if it does not reconnect so.
-/

namespace QueryPlans.Connector

variable {t : Target} {s : Connector} {pool : Pool} {options : Json.Fields}
  {es fs : List (Event Pool.interface)} {us : List Use} {u : Use}

/-! ## Ledgers -/

/-- The open pools, one entry for each opening, and the one that is held. -/
structure Ledger where
  pools : List Pool := []
  held : Option Pool := none

namespace Ledger

variable {l : Ledger}

/-- The ledger after an event. -/
def after (l : Ledger) : Event Pool.interface → Ledger
  | .answered (.create _) (.ok pool) => ⟨l.pools ++ [pool], some pool⟩
  | .answered (.close pool) (.ok ()) => ⟨l.pools.erase pool, none⟩
  | _ => l

/-- The ledger after events, from the beginning. -/
def ofEvents (es : List (Event Pool.interface)) : Ledger := es.foldl after {}

theorem ofEvents_append : ofEvents (es ++ fs) = fs.foldl after (ofEvents es) := List.foldl_append

theorem foldl_created :
    (.answered (.create options) (.ok pool) :: es : List (Event Pool.interface)).foldl after l =
      es.foldl after ⟨l.pools ++ [pool], some pool⟩ := rfl

theorem foldl_closed :
    (.answered (.close pool) (.ok ()) :: es : List (Event Pool.interface)).foldl after l =
      es.foldl after ⟨l.pools.erase pool, none⟩ := rfl

theorem after_of_quiet {e : Event Pool.interface} (h : Quiet [e]) : l.after e = l := by
  unfold after
  split
  · exact absurd ⟨_, rfl⟩ (h _ List.mem_cons_self _).1
  · exact absurd rfl (h _ List.mem_cons_self _).2
  · rfl

theorem foldl_of_quiet (h : Quiet es) : es.foldl after l = l := by
  induction es with
  | nil => rfl
  | cons e es ih =>
    obtain ⟨hfirst, hrest⟩ := quiet_append.1 (show Quiet ([e] ++ es) from h)
    rw [List.foldl_cons, after_of_quiet hfirst, ih hrest]

/-- Every open pool is the one that is held, and there is at most one. -/
def Kept (l : Ledger) : Prop := (∀ pool ∈ l.pools, l.held = some pool) ∧ l.pools.length ≤ 1

/-- The held pool is the connector's, and it is open. -/
structure Tracks (l : Ledger) (s : Connector) : Prop where
  held : l.held = s.pool
  mem : ∀ pool, s.pool = some pool → pool ∈ l.pools

/-- If no pool is lost, the open pools are those of the connector. -/
theorem Kept.pools_eq (h : l.Kept) (htracks : l.Tracks s) : l.pools = s.pool.toList := by
  obtain ⟨hheld, hlength⟩ := h
  cases hpool : s.pool with
  | none =>
    refine List.eq_nil_iff_forall_not_mem.2 fun pool hmem => ?_
    have hsome := hheld pool hmem
    rw [htracks.held, hpool] at hsome
    cases hsome
  | some pool =>
    obtain ⟨single, hsingle⟩ :=
      List.length_eq_one_iff.1 (Nat.le_antisymm hlength (List.length_pos_of_mem (htracks.mem _ hpool)))
    have hmem := htracks.mem _ hpool
    rw [hsingle, List.mem_singleton] at hmem
    rw [hsingle, hmem]
    rfl

theorem kept_of_eq (hpools : l.pools = l.held.toList) : l.Kept := by
  unfold Kept
  rw [hpools]
  cases l.held with
  | none => exact ⟨fun _ h => absurd h List.not_mem_nil, Nat.zero_le 1⟩
  | some pool => exact ⟨fun _ h => by rw [List.mem_singleton.1 h], Nat.le_refl 1⟩

/-- The ledger stays so from the first of the events to the last. -/
def KeptBy (l : Ledger) (es : List (Event Pool.interface)) : Prop :=
  ∀ past, past <+: es → (past.foldl after l).Kept

theorem Kept.keptBy_of_quiet (h : l.Kept) (hquiet : Quiet es) : l.KeptBy es := by
  intro past hpast
  rwa [foldl_of_quiet fun e he => hquiet e (hpast.subset he)]

theorem keptBy_append : l.KeptBy (es ++ fs) ↔ l.KeptBy es ∧ (es.foldl after l).KeptBy fs := by
  constructor
  · intro h
    refine ⟨fun past hpast => h past (hpast.trans (List.prefix_append es fs)), fun past hpast => ?_⟩
    rw [← List.foldl_append]
    exact h _ ((List.prefix_append_right_inj es).2 hpast)
  · rintro ⟨hfirst, hrest⟩ past hpast
    rcases List.prefix_or_prefix_of_prefix hpast (List.prefix_append es fs) with hpast | ⟨tail, rfl⟩
    · exact hfirst past hpast
    · rw [List.foldl_append]
      exact hrest tail ((List.prefix_append_right_inj es).1 hpast)

end Ledger

/-! ## Runs -/

/-- The events of calls in order. -/
def eventsOf (us : List Use) : List (Event Pool.interface) := us.flatMap (·.events)

theorem eventsOf_concat : eventsOf (us ++ [u]) = eventsOf us ++ u.events := by
  simp [eventsOf]

/-- A call opened a pool and failed, and none was closed since. -/
def LeftOpen (us : List Use) : Prop :=
  ∃ past failed between, us = past ++ failed :: between ∧ failed.Opens ∧ failed.Fails ∧
    ∀ u ∈ between, ¬ u.Closes

/-- A pool was opened although one was left open. -/
def Reconnects (us : List Use) : Prop :=
  ∃ past retry later, us = past ++ retry :: later ∧ LeftOpen past ∧ retry.Opens

/-- A list with one more item is split at that item or before it. -/
theorem split_concat_iff {γ : Type} {ys : List γ} {y : γ} {P : List γ → γ → List γ → Prop} :
    (∃ past x later, ys ++ [y] = past ++ x :: later ∧ P past x later) ↔
      P ys y [] ∨ ∃ past x later, ys = past ++ x :: later ∧ P past x (later ++ [y]) := by
  constructor
  · rintro ⟨past, x, later, heq, hP⟩
    rcases List.eq_nil_or_concat later with rfl | ⟨before, last, rfl⟩
    · obtain ⟨rfl, hlast⟩ := List.append_inj' heq rfl
      cases hlast
      exact .inl hP
    · have heq' : ys ++ [y] = (past ++ x :: before) ++ [last] := by simpa using heq
      obtain ⟨rfl, hlast⟩ := List.append_inj' heq' rfl
      cases hlast
      exact .inr ⟨past, x, before, rfl, by simpa using hP⟩
  · rintro (hP | ⟨past, x, later, rfl, hP⟩)
    · exact ⟨ys, y, [], rfl, hP⟩
    · exact ⟨past, x, later ++ [y], by simp, hP⟩

theorem not_leftOpen_nil : ¬ LeftOpen [] := by
  rintro ⟨past, failed, between, heq, -⟩
  simp at heq

theorem not_reconnects_nil : ¬ Reconnects [] := by
  rintro ⟨past, retry, later, heq, -⟩
  simp at heq

theorem leftOpen_concat :
    LeftOpen (us ++ [u]) ↔ (u.Opens ∧ u.Fails) ∨ (LeftOpen us ∧ ¬ u.Closes) := by
  refine (split_concat_iff (P := fun _ (failed : Use) (between : List Use) =>
    failed.Opens ∧ failed.Fails ∧ ∀ u ∈ between, ¬ u.Closes)).trans (or_congr (by simp) ⟨?_, ?_⟩)
  · rintro ⟨past, failed, between, rfl, hopens, hfails, hbetween⟩
    obtain ⟨hbefore, hlast⟩ := List.forall_mem_append.1 hbetween
    exact ⟨⟨past, failed, between, rfl, hopens, hfails, hbefore⟩, hlast u List.mem_cons_self⟩
  · rintro ⟨⟨past, failed, between, rfl, hopens, hfails, hbefore⟩, hlast⟩
    refine ⟨past, failed, between, rfl, hopens, hfails, List.forall_mem_append.2 ⟨hbefore, ?_⟩⟩
    simpa using hlast

theorem reconnects_concat : Reconnects (us ++ [u]) ↔ Reconnects us ∨ (LeftOpen us ∧ u.Opens) :=
  (split_concat_iff (P := fun past (retry : Use) _ => LeftOpen past ∧ retry.Opens)).trans or_comm

/-! ### What a call did to the pools, by its events -/

theorem not_opens_of_quiet (h : Quiet u.events) : ¬ u.Opens := by
  rintro ⟨pool, e, he, hopens⟩
  exact (h e he pool).1 hopens

theorem not_closes_of_quiet (h : Quiet u.events) : ¬ u.Closes := by
  rintro ⟨pool, e, he, hcloses⟩
  exact (h e he pool).2 hcloses

theorem opens_of_created (h : u.events = fs ++ .answered (.create options) (.ok pool) :: es) : u.Opens :=
  ⟨pool, _, h ▸ List.mem_append_right _ List.mem_cons_self, options, rfl⟩

theorem closes_of_closed (h : u.events = .answered (.close pool) (.ok ()) :: es) : u.Closes :=
  ⟨pool, _, h ▸ List.mem_cons_self, rfl⟩

theorem not_opens_of_closed (h : u.events = .answered (.close pool) (.ok ()) :: es) (hes : CallFree es) :
    ¬ u.Opens := by
  rintro ⟨other, e, he, options, rfl⟩
  rw [h] at he
  rcases List.mem_cons.1 he with heq | hnote
  · cases heq
  · exact hes.not_mem _ _ hnote

/-! ### Invariants -/

/-- At the end of every run the ledger and the connector agree. -/
theorem Uses.tracks (h : Uses t us s) : (Ledger.ofEvents (eventsOf us)).Tracks s := by
  induction h with
  | nil => exact ⟨rfl, fun _ h => nomatch h⟩
  | @concat us u h hu ih =>
    rw [eventsOf_concat, Ledger.ofEvents_append]
    cases Use.effect hu with
    | kept quiet after =>
      rw [Ledger.foldl_of_quiet quiet, after]
      exact ih
    | opened early silent pool options late events quiet inactive after =>
      rw [events, List.foldl_append, Ledger.foldl_of_quiet (quiet_of_callFree silent),
        Ledger.foldl_created, Ledger.foldl_of_quiet quiet]
      have hheld : u.after.pool = some pool := by
        rcases after with ⟨after, -⟩ | ⟨after, -⟩ <;> rw [after]
      refine ⟨hheld.symm, fun other hother => ?_⟩
      rw [hheld] at hother
      cases hother
      exact List.mem_append_right _ List.mem_cons_self
    | closed pool held notes events silent after =>
      rw [events, Ledger.foldl_closed, Ledger.foldl_of_quiet (quiet_of_callFree silent), after]
      exact ⟨rfl, fun _ h => nomatch h⟩

/-- A pool that was left open is still held. -/
theorem Uses.holds_of_leftOpen (h : Uses t us s) (hleft : LeftOpen us) :
    ∃ pool, s.pool = some pool := by
  induction h with
  | nil => exact absurd hleft not_leftOpen_nil
  | @concat us u h hu ih =>
    cases Use.effect hu with
    | kept quiet after =>
      rw [after]
      rcases leftOpen_concat.1 hleft with ⟨hopens, -⟩ | ⟨hleft, -⟩
      · exact absurd hopens (not_opens_of_quiet quiet)
      · exact ih hleft
    | opened early silent pool options late events quiet inactive after =>
      rcases after with ⟨after, -⟩ | ⟨after, -⟩ <;> exact ⟨pool, by rw [after]⟩
    | closed pool held notes events silent after =>
      rcases leftOpen_concat.1 hleft with ⟨hopens, -⟩ | ⟨-, hopen⟩
      · exact absurd hopens (not_opens_of_closed events silent)
      · exact absurd (closes_of_closed events) hopen

/-- A pool that is held by a connector that is not connected was left open. -/
theorem Uses.leftOpen_of_holds (h : Uses t us s) (hs : s.connected = false)
    (hpool : s.pool = some pool) : LeftOpen us := by
  induction h with
  | nil => cases hpool
  | @concat us u h hu ih =>
    rw [leftOpen_concat]
    cases Use.effect hu with
    | kept quiet after =>
      rw [after] at hs hpool
      exact .inr ⟨ih hs hpool, not_closes_of_quiet quiet⟩
    | opened early silent pool options late events quiet inactive after =>
      rcases after with ⟨after, -⟩ | ⟨-, hfails⟩
      · rw [after] at hs
        cases hs
      · exact .inl ⟨opens_of_created events, hfails⟩
    | closed pool held notes events silent after =>
      rw [after] at hpool
      cases hpool

/-- Where a pool is opened, one was left open exactly if one is held. -/
theorem Uses.leftOpen_iff (h : Uses t us s) (hinactive : s.activePool? = none) :
    LeftOpen us ↔ ∃ pool, s.pool = some pool := by
  refine ⟨h.holds_of_leftOpen, fun ⟨pool, hpool⟩ => h.leftOpen_of_holds ?_ hpool⟩
  unfold activePool? at hinactive
  split at hinactive
  · rw [hpool] at hinactive
    cases hinactive
  · rename_i hdisconnected
    exact Bool.eq_false_iff.2 hdisconnected

/-- A call on a connector that has lost no pool loses one exactly if it opens one while another was left
open. -/
theorem keptBy_call_iff (h : Uses t us u.before) (hu : u.Possible t)
    (hkept : (Ledger.ofEvents (eventsOf us)).Kept) :
    (Ledger.ofEvents (eventsOf us)).KeptBy u.events ↔ ¬ (LeftOpen us ∧ u.Opens) := by
  have hpools := hkept.pools_eq h.tracks
  have hheld := h.tracks.held
  cases Use.effect hu with
  | kept quiet after =>
    exact iff_of_true (hkept.keptBy_of_quiet quiet) fun hboth => not_opens_of_quiet quiet hboth.2
  | opened early silent pool options late events quiet inactive after =>
    have hearly := quiet_of_callFree silent
    rw [h.leftOpen_iff inactive, events, Ledger.keptBy_append, Ledger.foldl_of_quiet hearly,
      and_iff_right (hkept.keptBy_of_quiet hearly)]
    constructor
    · rintro hall ⟨⟨other, hother⟩, -⟩
      have hopened := hall [.answered (.create options) (.ok pool)] ⟨late, rfl⟩
      rw [Ledger.foldl_created, hpools, hother] at hopened
      exact absurd hopened.2 (by simp)
    · intro hnone past hpast
      have hempty : u.before.pool = none := Option.eq_none_iff_forall_ne_some.2 fun other hother =>
        hnone ⟨⟨other, hother⟩, opens_of_created events⟩
      rcases List.prefix_cons_iff.1 hpast with rfl | ⟨rest, rfl, hrest⟩
      · exact hkept
      · rw [Ledger.foldl_created, Ledger.foldl_of_quiet fun e he => quiet e (hrest.subset he)]
        rw [hpools, hempty]
        exact Ledger.kept_of_eq rfl
  | closed pool held notes events silent after =>
    refine iff_of_true (fun past hpast => ?_) fun hboth => not_opens_of_closed events silent hboth.2
    have hquiet := quiet_of_callFree silent
    rw [events] at hpast
    rcases List.prefix_cons_iff.1 hpast with rfl | ⟨rest, rfl, hrest⟩
    · exact hkept
    · rw [Ledger.foldl_closed, Ledger.foldl_of_quiet fun e he => hquiet e (hrest.subset he)]
      rw [hpools, held]
      exact Ledger.kept_of_eq (by simp)

/-- **Pools that are kept.** Calls are made on a new connector, one after the other, and the driver does
anything. At every point of the run each open pool is the one that is held, and there is at most one,
exactly if no pool is opened after a call that opened one and failed, with none closed between. The pool
that is held at the end is the connector's. -/
theorem pools_kept_iff (h : Uses t us s) :
    ((∀ past, past <+: eventsOf us → (Ledger.ofEvents past).Kept) ↔ ¬ Reconnects us) ∧
      (Ledger.ofEvents (eventsOf us)).held = s.pool := by
  refine ⟨?_, h.tracks.held⟩
  change Ledger.KeptBy {} (eventsOf us) ↔ _
  induction h with
  | nil =>
    refine iff_of_true (fun past hpast => ?_) not_reconnects_nil
    rw [List.prefix_nil.1 hpast]
    exact Ledger.kept_of_eq rfl
  | @concat us u h hu ih =>
    rw [eventsOf_concat, Ledger.keptBy_append, reconnects_concat, not_or, ih]
    refine and_congr_right fun hnever => keptBy_call_iff h hu ?_
    exact ih.2 hnever _ (List.prefix_refl _)

/-! ### A server that fails the first check -/

/-- A call in a world, and the state of the world after it. -/
def Use.made {σ : Type} (world : World Pool.interface σ) (t : Target) (c : Database.Call)
    (s : Connector) (d : σ) : Use × σ :=
  let run := (answer t s c).run world d
  (⟨c, s, run.events, run.value.1, run.value.2⟩, run.state)

theorem Use.made_possible {σ : Type} (world : World Pool.interface σ) (t : Target) (c : Database.Call)
    (s : Connector) (d : σ) : (Use.made world t c s d).1.Possible t :=
  Program.run_trace world (answer t s c) d

theorem Uses.made {σ : Type} (world : World Pool.interface σ) (c : Database.Call) (d : σ)
    (h : Uses t us s) :
    Uses t (us ++ [(Use.made world t c s d).1]) (Use.made world t c s d).1.after :=
  .concat h (Use.made_possible world t c s d)

/-- A driver that numbers its pools and has no connection in the first of them. -/
def firstPoolFails : World Pool.interface Nat := fun opened c =>
  match c with
  | .create _ => (.ok ⟨opened⟩, opened + 1)
  | .acquire pool => (if pool.id = 0 then .error connectionLost else .ok (), opened)
  | .release _ => (.ok (), opened)
  | .execute _ _ => (.ok (), opened)
  | .prepare _ _ => (.ok ⟨[]⟩, opened)
  | .fetchPrepared _ _ => (.ok [], opened)
  | .fetch _ _ _ => (.ok [], opened)
  | .fetchValue _ _ _ => (.ok (.str "PostgreSQL 15.0"), opened)
  | .close _ => (.ok (), opened)

/-- The first call to connect, which fails. -/
def failedConnect : Use × Nat := Use.made firstPoolFails localTarget .connect {} 0

/-- Its pool is closed. -/
def closedAfter : Use × Nat :=
  Use.made firstPoolFails localTarget .close failedConnect.1.after failedConnect.2

/-- Then another call connects. -/
def connectedAgain : Use × Nat :=
  Use.made firstPoolFails localTarget .connect closedAfter.1.after closedAfter.2

/-- If the connector is closed between, a call that fails costs no pool. -/
theorem closed_pool_is_not_lost :
    Uses localTarget ([] ++ [failedConnect.1] ++ [closedAfter.1] ++ [connectedAgain.1])
        connectedAgain.1.after ∧
      connectedAgain.1.after = ⟨some ⟨1⟩, true⟩ ∧
      ∀ past, past <+: eventsOf ([] ++ [failedConnect.1] ++ [closedAfter.1] ++ [connectedAgain.1]) →
        (Ledger.ofEvents past).Kept := by
  have huses : Uses localTarget ([] ++ [failedConnect.1] ++ [closedAfter.1] ++ [connectedAgain.1])
      connectedAgain.1.after := by
    unfold connectedAgain closedAfter failedConnect
    exact ((Uses.nil.made firstPoolFails .connect 0).made firstPoolFails .close _).made firstPoolFails
      .connect _
  have hfirst : failedConnect.1.after = ⟨some ⟨0⟩, false⟩ := by decide +kernel
  have hclosed : closedAfter.1.events = .answered (.close ⟨0⟩) (.ok ()) ::
      [.noted ⟨.info, logSource, "PostgreSQL connection closed"⟩] := by
    unfold closedAfter
    rw [hfirst]
    rfl
  refine ⟨huses, by decide +kernel, (pools_kept_iff huses).1.2 ?_⟩
  simp only [reconnects_concat, leftOpen_concat, not_reconnects_nil, not_leftOpen_nil,
    not_opens_of_closed hclosed (by simp), closes_of_closed hclosed, false_and, and_false, or_false,
    not_true, not_false_eq_true]

/-- The second call to connect, right after the first. -/
def retriedConnect : Use × Nat :=
  Use.made firstPoolFails localTarget .connect failedConnect.1.after failedConnect.2

/-- The connector is closed after that. -/
def closedAtLast : Use × Nat :=
  Use.made firstPoolFails localTarget .close retriedConnect.1.after retriedConnect.2

/-- **A pool is lost.** Connecting fails, is tried again, and the connector is closed. The first pool is
open then, and the connector holds none. -/
theorem retried_connect_loses_pool :
    Uses localTarget ([] ++ [failedConnect.1] ++ [retriedConnect.1] ++ [closedAtLast.1]) {} ∧
      (Ledger.ofEvents
        (eventsOf ([] ++ [failedConnect.1] ++ [retriedConnect.1] ++ [closedAtLast.1]))).pools = [⟨0⟩] ∧
      ¬ (Ledger.ofEvents
        (eventsOf ([] ++ [failedConnect.1] ++ [retriedConnect.1] ++ [closedAtLast.1]))).Kept := by
  have huses : Uses localTarget ([] ++ [failedConnect.1] ++ [retriedConnect.1] ++ [closedAtLast.1])
      closedAtLast.1.after := by
    unfold closedAtLast retriedConnect failedConnect
    exact ((Uses.nil.made firstPoolFails .connect 0).made firstPoolFails .connect _).made firstPoolFails
      .close _
  have hafter : closedAtLast.1.after = {} := by decide +kernel
  have hpools : (Ledger.ofEvents (eventsOf
      ([] ++ [failedConnect.1] ++ [retriedConnect.1] ++ [closedAtLast.1]))).pools = [⟨0⟩] := by
    decide +kernel
  refine ⟨hafter ▸ huses, hpools, fun hkept => ?_⟩
  have hheld := hkept.1 ⟨0⟩ (hpools ▸ List.mem_cons_self)
  rw [huses.tracks.held, hafter] at hheld
  cases hheld

end QueryPlans.Connector
