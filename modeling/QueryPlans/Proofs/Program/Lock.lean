import Mathlib.Data.List.Nodup
import Mathlib.Logic.Function.Basic
import QueryPlans.Proofs.Program.Steady

/-!
# Tasks that take turns

Tasks that share a state are under way at the same time.  Each takes a lock before it begins, and gives it
back when it has ended or was cancelled.  Between two steps of one task, any other may make a step; a task
that waits for the lock may be cancelled as well.

* `Tasks` — how far each task is, who holds the lock, and the shared state.
* `Tasks.Moves`, `Tasks.Reaches` — one step of the tasks, and a record of steps.
* `Tenure`, `InTurn` — what a task did while it held the lock, and such tasks one after the other.
* `Serial` — the record so far: whole tasks one after the other, and at most one that is not done.

Principal result: `Tasks.Reaches.serial` — every record of tasks is serial.
-/

namespace QueryPlans

variable {I : Interface} {α β σ ι : Type} {body : ι → Concurrent I β α}
  {effect : σ → Event I → σ → Prop} {before shared shared' : σ} {e : Event I} {es : List (Event I)}

/-! ## Tasks -/

/-- How far a task is. -/
inductive Phase (I : Interface) (β α : Type) where
  | waiting
  | running (k : Concurrent I β α)
  | ended (a : α)
  | cancelled

/-- Tasks, the lock that one of them may hold, and the state that they share. -/
structure Tasks (ι : Type) (I : Interface) (β α σ : Type) where
  shared : σ
  holder : Option ι
  phase : ι → Phase I β α

/-- An entry in the record of the tasks. -/
inductive TaskEvent (ι : Type) (I : Interface) where
  | acquired (i : ι)
  | did (i : ι) (e : Event I)
  | released (i : ι)

/-- The task that took the lock. -/
def TaskEvent.acquired? : TaskEvent ι I → Option ι
  | acquired i => some i
  | _ => none

namespace Tasks

/-- All tasks wait. -/
def start (shared : σ) : Tasks ι I β α σ := ⟨shared, none, fun _ => .waiting⟩

variable [DecidableEq ι]

/-- One step of a task. The lock is taken when nobody holds it, and given back at every end. -/
inductive Moves (body : ι → Concurrent I β α) (effect : σ → Event I → σ → Prop) :
    Tasks ι I β α σ → List (TaskEvent ι I) → Tasks ι I β α σ → Prop
  | acquire {shared : σ} {phase : ι → Phase I β α} (i : ι) (hphase : phase i = .waiting) :
    Moves body effect ⟨shared, none, phase⟩ [.acquired i]
      ⟨shared, some i, Function.update phase i (.running (body i))⟩
  | act {shared shared' : σ} {holder : Option ι} {phase : ι → Phase I β α} {k k' : Concurrent I β α}
    {e : Event I} (i : ι) (hphase : phase i = .running k) (hmove : k.Moves e k')
    (heffect : effect shared e shared') :
    Moves body effect ⟨shared, holder, phase⟩ [.did i e]
      ⟨shared', holder, Function.update phase i (.running k')⟩
  | release {shared : σ} {holder : Option ι} {phase : ι → Phase I β α} {k : Concurrent I β α} {a : α}
    (i : ι) (hphase : phase i = .running k) (hends : k.Ends a) :
    Moves body effect ⟨shared, holder, phase⟩ [.released i]
      ⟨shared, none, Function.update phase i (.ended a)⟩
  | cancel {shared : σ} {holder : Option ι} {phase : ι → Phase I β α} {k : Concurrent I β α}
    (i : ι) (hphase : phase i = .running k) :
    Moves body effect ⟨shared, holder, phase⟩ [.released i]
      ⟨shared, none, Function.update phase i .cancelled⟩
  | giveUp {shared : σ} {holder : Option ι} {phase : ι → Phase I β α} (i : ι)
    (hphase : phase i = .waiting) :
    Moves body effect ⟨shared, holder, phase⟩ []
      ⟨shared, holder, Function.update phase i .cancelled⟩

/-- A record of steps, from where all tasks wait. -/
inductive Reaches (body : ι → Concurrent I β α) (effect : σ → Event I → σ → Prop) (shared : σ) :
    List (TaskEvent ι I) → Tasks ι I β α σ → Prop
  | start : Reaches body effect shared [] (.start shared)
  | step {record es : List (TaskEvent ι I)} {t t' : Tasks ι I β α σ}
    (h : Reaches body effect shared record t) (hmove : t.Moves body effect es t') :
    Reaches body effect shared (record ++ es) t'

end Tasks

/-! ## One task after the other -/

/-- A task that held the lock: what it did, what it ended with unless it was cancelled, and the state that
it left. -/
structure Tenure (ι : Type) (I : Interface) (α σ : Type) where
  task : ι
  events : List (Event I)
  result : Option α
  left : σ

namespace Tenure

/-- The entries of a task in the record. -/
def block (x : Tenure ι I α σ) : List (TaskEvent ι I) :=
  .acquired x.task :: x.events.map (.did x.task) ++ [.released x.task]

/-- Where a task that held the lock is now. -/
def phase (x : Tenure ι I α σ) : Phase I β α :=
  match x.result with
  | some a => .ended a
  | none => .cancelled

/-- What a task does when nothing else is at work. -/
structure Alone (body : ι → Concurrent I β α) (effect : σ → Event I → σ → Prop) (before : σ)
    (x : Tenure ι I α σ) : Prop where
  leaves : Leaves effect before x.events x.left
  reaches : ∃ k, (body x.task).Runs x.events k ∧ ∀ a ∈ x.result, k.Ends a

theorem Alone.trace {x : Tenure ι I α σ} {a : α} (h : x.Alone body effect before)
    (hx : x.result = some a) : (body x.task).Trace x.events a := by
  obtain ⟨k, hruns, hends⟩ := h.reaches
  exact ⟨k, hruns, hends a hx⟩

end Tenure

/-- Tasks done one after the other, each alone. -/
inductive InTurn (body : ι → Concurrent I β α) (effect : σ → Event I → σ → Prop) :
    σ → List (Tenure ι I α σ) → σ → Prop
  | nil (s : σ) : InTurn body effect s [] s
  | cons {s s' : σ} {x : Tenure ι I α σ} {xs : List (Tenure ι I α σ)}
    (hfirst : x.Alone body effect s) (hrest : InTurn body effect x.left xs s') :
    InTurn body effect s (x :: xs) s'

theorem InTurn.concat {past : List (Tenure ι I α σ)} {x : Tenure ι I α σ}
    (h : InTurn body effect before past shared) (hx : x.Alone body effect shared) :
    InTurn body effect before (past ++ [x]) x.left := by
  induction h with
  | nil s => exact .cons hx (.nil _)
  | cons hfirst _ ih => exact .cons hfirst (ih hx)

/-- Those that held the lock held it once, and are where they ended; all that ended held it. -/
structure Records (phase : ι → Phase I β α) (past : List (Tenure ι I α σ)) : Prop where
  distinct : (past.map (·.task)).Nodup
  phase_eq : ∀ x ∈ past, phase x.task = x.phase
  mem_of_ended : ∀ i a, phase i = .ended a → i ∈ past.map (·.task)

/-- The record so far: whole tasks one after the other, and at most one that is not done. -/
inductive Serial (body : ι → Concurrent I β α) (effect : σ → Event I → σ → Prop) (start : σ)
    (past : List (Tenure ι I α σ)) : List (TaskEvent ι I) → Tasks ι I β α σ → Prop
  | idle {t : Tasks ι I β α σ} (hpast : InTurn body effect start past t.shared)
    (hrecords : Records t.phase past) (hholder : t.holder = none)
    (hidle : ∀ i k, t.phase i ≠ .running k) : Serial body effect start past (past.flatMap Tenure.block) t
  | busy {t : Tasks ι I β α σ} {since : σ} {i : ι} {es : List (Event I)} {k : Concurrent I β α}
    (hpast : InTurn body effect start past since) (hrecords : Records t.phase past)
    (hholder : t.holder = some i) (hphase : t.phase i = .running k)
    (honly : ∀ j k', t.phase j = .running k' → j = i) (hruns : (body i).Runs es k)
    (hleaves : Leaves effect since es t.shared) :
    Serial body effect start past (past.flatMap Tenure.block ++ .acquired i :: es.map (.did i)) t

namespace Records

variable {phase : ι → Phase I β α} {past : List (Tenure ι I α σ)} {i : ι}

/-- A task that waits or runs is none of those that are done. -/
theorem task_ne (h : Records phase past)
    (hphase : phase i = .waiting ∨ ∃ k, phase i = .running k) : ∀ x ∈ past, x.task ≠ i := by
  rintro x hx rfl
  rw [h.phase_eq x hx, Tenure.phase] at hphase
  rcases hphase with hwaiting | ⟨k, hrunning⟩
  · split at hwaiting <;> cases hwaiting
  · split at hrunning <;> cases hrunning

variable [DecidableEq ι]

/-- A task that did not hold the lock before may go on, as long as it does not end. -/
theorem update (h : Records phase past) (hi : ∀ x ∈ past, x.task ≠ i) {new : Phase I β α}
    (hnew : ∀ a, new ≠ .ended a) : Records (Function.update phase i new) past := by
  refine ⟨h.distinct, fun x hx => ?_, fun j a hj => ?_⟩
  · rw [Function.update_of_ne (hi x hx)]
    exact h.phase_eq x hx
  · rcases eq_or_ne j i with rfl | hne
    · rw [Function.update_self] at hj
      exact absurd hj (hnew a)
    · rw [Function.update_of_ne hne] at hj
      exact h.mem_of_ended j a hj

/-- The task that held the lock is done. -/
theorem concat {x : Tenure ι I α σ} (h : Records phase past) (hx : ∀ y ∈ past, y.task ≠ x.task) :
    Records (Function.update phase x.task x.phase) (past ++ [x]) := by
  refine ⟨?_, fun y hy => ?_, fun j a hj => ?_⟩
  · rw [List.map_append, List.nodup_append]
    refine ⟨h.distinct, List.nodup_singleton _, fun a ha b hb => ?_⟩
    obtain ⟨y, hy, rfl⟩ := List.mem_map.1 ha
    cases List.mem_singleton.1 hb
    exact hx y hy
  · rcases List.mem_append.1 hy with hpast | hlast
    · rw [Function.update_of_ne (hx y hpast)]
      exact h.phase_eq y hpast
    · cases List.mem_singleton.1 hlast
      exact Function.update_self ..
  · rw [List.map_append, List.mem_append]
    rcases eq_or_ne j x.task with rfl | hne
    · exact .inr (List.mem_singleton_self _)
    · rw [Function.update_of_ne hne] at hj
      exact .inl (h.mem_of_ended j a hj)

end Records

/-- A task that runs after one of them went on is that one, or ran before. -/
theorem running_of_update [DecidableEq ι] {phase : ι → Phase I β α} {i j : ι} {new : Phase I β α}
    {k : Concurrent I β α} (h : Function.update phase i new j = .running k) :
    (j = i ∧ new = .running k) ∨ (j ≠ i ∧ phase j = .running k) := by
  rcases eq_or_ne j i with rfl | hne
  · rw [Function.update_self] at h
    exact .inl ⟨rfl, h⟩
  · rw [Function.update_of_ne hne] at h
    exact .inr ⟨hne, h⟩

theorem filterMap_acquired_block (x : Tenure ι I α σ) :
    x.block.filterMap TaskEvent.acquired? = [x.task] := by
  simp [Tenure.block, TaskEvent.acquired?]

namespace Serial

variable {past : List (Tenure ι I α σ)} {record : List (TaskEvent ι I)} {start : σ}
  {t : Tasks ι I β α σ} {phase : ι → Phase I β α} {holder : Option ι} {i : ι}
  {k k' : Concurrent I β α}

/-- The tasks come in the order in which they took the lock. -/
theorem filterMap_acquired (h : Serial body effect start past record t) :
    record.filterMap TaskEvent.acquired? = past.map (·.task) ++ t.holder.toList := by
  have hpast : (past.flatMap Tenure.block).filterMap TaskEvent.acquired? = past.map (·.task) := by
    simp only [List.filterMap_flatMap, filterMap_acquired_block, List.map_eq_flatMap]
  cases h with
  | idle _ _ hholder => rw [hpast, hholder, Option.toList_none, List.append_nil]
  | busy _ _ hholder =>
    rw [List.filterMap_append, hpast, hholder]
    simp [TaskEvent.acquired?]

theorem records (h : Serial body effect start past record t) : Records t.phase past := by
  cases h with
  | idle _ hrecords => exact hrecords
  | busy _ hrecords => exact hrecords

/-- The one task that runs holds the lock; what it did so far comes last in the record. -/
theorem of_running (h : Serial body effect start past record ⟨shared, holder, phase⟩)
    (hphase : phase i = .running k) :
    ∃ since es, InTurn body effect start past since ∧ Records phase past ∧ holder = some i ∧
      (∀ j k', phase j = .running k' → j = i) ∧ (body i).Runs es k ∧ Leaves effect since es shared ∧
      record = past.flatMap Tenure.block ++ .acquired i :: es.map (.did i) := by
  cases h with
  | idle _ _ _ hidle => exact absurd hphase (hidle i k)
  | @busy _ since j es k₁ hpast hrecords hholder hrunning honly hruns hleaves =>
    obtain rfl := honly i k hphase
    obtain rfl : k = k₁ := Phase.running.inj (hphase.symm.trans hrunning)
    exact ⟨since, es, hpast, hrecords, hholder, honly, hruns, hleaves, rfl⟩

variable [DecidableEq ι]

theorem acquire (h : Serial body effect start past record ⟨shared, none, phase⟩)
    (hphase : phase i = .waiting) : Serial body effect start past (record ++ [.acquired i])
      ⟨shared, some i, Function.update phase i (.running (body i))⟩ := by
  cases h with
  | busy _ _ hholder => cases hholder
  | idle hpast hrecords _ hidle =>
    refine .busy hpast ?_ rfl (Function.update_self ..) (fun j k' hj => ?_) (.refl _)
      (.nil _)
    · exact hrecords.update (hrecords.task_ne (.inl hphase)) fun a heq => nomatch heq
    · rcases running_of_update hj with ⟨rfl, -⟩ | ⟨-, hrunning⟩
      · rfl
      · exact absurd hrunning (hidle j k')

theorem act (h : Serial body effect start past record ⟨shared, holder, phase⟩)
    (hphase : phase i = .running k) (hmove : k.Moves e k') (heffect : effect shared e shared') :
    Serial body effect start past (record ++ [.did i e])
      ⟨shared', holder, Function.update phase i (.running k')⟩ := by
  obtain ⟨since, es, hpast, hrecords, hholder, honly, hruns, hleaves, rfl⟩ := h.of_running hphase
  have hrecord : past.flatMap Tenure.block ++ TaskEvent.acquired i :: es.map (.did i) ++ [.did i e] =
      past.flatMap Tenure.block ++ TaskEvent.acquired i :: (es ++ [e]).map (.did i) := by simp
  rw [hrecord]
  refine .busy hpast ?_ hholder (Function.update_self ..) (fun j k'' hj => ?_)
    (hruns.append (.step hmove (.refl _))) (leaves_append_iff.2 ⟨_, hleaves, .cons heffect (.nil _)⟩)
  · exact hrecords.update (hrecords.task_ne (.inr ⟨_, hphase⟩)) fun a heq => nomatch heq
  · rcases running_of_update hj with ⟨rfl, -⟩ | ⟨-, hrunning⟩
    · rfl
    · exact honly j k'' hrunning

/-- The holder of the lock ends, or is cancelled. -/
theorem leave (h : Serial body effect start past record ⟨shared, holder, phase⟩)
    (hphase : phase i = .running k) (result : Option α) (hresult : ∀ a ∈ result, k.Ends a) :
    ∃ x : Tenure ι I α σ, x.task = i ∧ x.result = result ∧
      Serial body effect start (past ++ [x]) (record ++ [.released i])
        ⟨shared, none, Function.update phase i x.phase⟩ := by
  obtain ⟨since, es, hpast, hrecords, hholder, honly, hruns, hleaves, rfl⟩ := h.of_running hphase
  let x : Tenure ι I α σ := ⟨i, es, result, shared⟩
  refine ⟨x, rfl, rfl, ?_⟩
  have hrecord : past.flatMap Tenure.block ++ TaskEvent.acquired i :: es.map (.did i) ++
      [.released i] = (past ++ [x]).flatMap Tenure.block := by simp [Tenure.block, x]
  rw [hrecord]
  refine .idle ?_ ?_ rfl fun j k' hj => ?_
  · exact hpast.concat (x := x) ⟨hleaves, k, hruns, hresult⟩
  · exact hrecords.concat (x := x) (hrecords.task_ne (.inr ⟨_, hphase⟩))
  · rcases running_of_update hj with ⟨-, heq⟩ | ⟨hne, hrunning⟩
    · rw [Tenure.phase] at heq
      split at heq <;> cases heq
    · exact hne (honly j k' hrunning)

theorem giveUp (h : Serial body effect start past record ⟨shared, holder, phase⟩)
    (hphase : phase i = .waiting) : Serial body effect start past record
      ⟨shared, holder, Function.update phase i .cancelled⟩ := by
  have hcancelled {j : ι} {k' : Concurrent I β α}
      (hj : Function.update phase i .cancelled j = .running k') : phase j = .running k' := by
    rcases running_of_update hj with ⟨-, heq⟩ | ⟨-, hrunning⟩
    · cases heq
    · exact hrunning
  have hkeep (hrecords : Records phase past) : Records (Function.update phase i .cancelled) past :=
    hrecords.update (hrecords.task_ne (.inl hphase)) fun a heq => nomatch heq
  cases h with
  | idle hpast hrecords hholder hidle =>
    exact .idle hpast (hkeep hrecords) hholder fun j k' hj => hidle j k' (hcancelled hj)
  | @busy _ since j es k₁ hpast hrecords hholder hrunning honly hruns hleaves =>
    refine .busy hpast (hkeep hrecords) hholder ?_
      (fun j k' hj => honly j k' (hcancelled hj)) hruns hleaves
    have hne : j ≠ i := by
      rintro rfl
      cases hphase.symm.trans hrunning
    exact (Function.update_of_ne hne ..).trans hrunning

end Serial

namespace Tasks

variable [DecidableEq ι] {past : List (Tenure ι I α σ)} {record new : List (TaskEvent ι I)}
  {t t' : Tasks ι I β α σ} {start : σ}

/-- Every step keeps the record serial. -/
theorem Moves.serial (h : t.Moves body effect new t') (ht : Serial body effect start past record t) :
    ∃ past', Serial body effect start past' (record ++ new) t' := by
  cases h with
  | acquire i hphase => exact ⟨past, ht.acquire hphase⟩
  | act i hphase hmove heffect => exact ⟨past, ht.act hphase hmove heffect⟩
  | @release _ _ _ k a i hphase hends =>
    obtain ⟨x, rfl, hresult, hserial⟩ := ht.leave hphase (some a) fun b hb => by
      cases hb
      exact hends
    rw [Tenure.phase, hresult] at hserial
    exact ⟨_, hserial⟩
  | cancel i hphase =>
    obtain ⟨x, rfl, hresult, hserial⟩ := ht.leave hphase none fun b hb => nomatch hb
    rw [Tenure.phase, hresult] at hserial
    exact ⟨_, hserial⟩
  | giveUp i hphase =>
    rw [List.append_nil]
    exact ⟨past, ht.giveUp hphase⟩

/-- Every record of tasks is serial. -/
theorem Reaches.serial (h : Reaches body effect start record t) :
    ∃ past, Serial body effect start past record t := by
  induction h with
  | start =>
    have hrecords : Records (fun _ => .waiting : ι → Phase I β α) ([] : List (Tenure ι I α σ)) :=
      ⟨List.nodup_nil, fun x hx => absurd hx List.not_mem_nil, fun i a heq => nomatch heq⟩
    exact ⟨[], .idle (.nil _) hrecords rfl fun i k heq => nomatch heq⟩
  | step _ hmove ih =>
    obtain ⟨past, hserial⟩ := ih
    exact hmove.serial hserial

/-! ### Tasks that come one after the other -/

variable {phase : ι → Phase I β α} {holder : Option ι} {i : ι} {k k' : Concurrent I β α} {a : α}

/-- A task that runs may go on before any other makes a step. -/
theorem Reaches.runs (h : Reaches body effect start record ⟨shared, holder, phase⟩)
    (hphase : phase i = .running k) (hruns : k.Runs es k') (hleaves : Leaves effect shared es shared') :
    Reaches body effect start (record ++ es.map (.did i))
      ⟨shared', holder, Function.update phase i (.running k')⟩ := by
  induction hruns generalizing record shared phase with
  | refl k =>
    cases hleaves
    rw [← hphase, Function.update_eq_self, List.map_nil, List.append_nil]
    exact h
  | step hmove _ ih =>
    cases hleaves with
    | cons heffect hrest =>
      have hlater := ih (h.step (.act i hphase hmove heffect)) (Function.update_self ..) hrest
      rw [Function.update_idem, List.append_assoc] at hlater
      exact hlater

/-- A task that waits may be done before any other makes a step. -/
theorem Reaches.serve (h : Reaches body effect start record ⟨shared, none, phase⟩)
    (hphase : phase i = .waiting) (htrace : (body i).Trace es a)
    (hleaves : Leaves effect shared es shared') :
    Reaches body effect start (record ++ Tenure.block ⟨i, es, some a, shared'⟩)
      ⟨shared', none, Function.update phase i (.ended a)⟩ := by
  obtain ⟨k, hruns, hends⟩ := htrace
  have hrunning := (h.step (.acquire i hphase)).runs (Function.update_self ..) hruns hleaves
  have hdone := hrunning.step (.release i (Function.update_self ..) hends)
  rw [Function.update_idem, Function.update_idem, List.append_assoc, List.append_assoc] at hdone
  exact hdone

end Tasks

end QueryPlans
