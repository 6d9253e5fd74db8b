import QueryPlans.Proofs.Program.Gather

/-!
# Worlds that answer some calls in one way

A world may change with each call, and yet answer the calls of some class always in one way.  Programs
at work at the same time that make such calls only do not notice each other, and so their order does not
count.

* `Leaves` — what events leave of a state; `Follows` — events whose calls a world answers.
* `Steady` — a world that answers the calls of a class in one way.
* `Concurrent.PartsOnly` — the programs at work at the same time make calls of a class only.
* `Concurrent.ending` — the end of a run with one program after the other.

Principal result: `Trace.ending_eq` — every order of events ends as one program after the other does.
-/

namespace QueryPlans

variable {I J : Interface} {α β γ σ : Type} {world : World I σ} {P : I.Call → Prop}
  {answers : (c : I.Call) → I.Reply c} {s s' s'' : σ} {e : Event I} {es fs : List (Event I)}

/-! ## Events that change a state -/

/-- What the events leave of a state, one after the other. -/
inductive Leaves (effect : σ → Event I → σ → Prop) : σ → List (Event I) → σ → Prop
  | nil (s : σ) : Leaves effect s [] s
  | cons {s s' s'' : σ} {e : Event I} {es : List (Event I)} (hfirst : effect s e s')
    (hrest : Leaves effect s' es s'') : Leaves effect s (e :: es) s''

theorem leaves_cons_iff {effect : σ → Event I → σ → Prop} :
    Leaves effect s (e :: es) s'' ↔ ∃ s', effect s e s' ∧ Leaves effect s' es s'' := by
  constructor
  · rintro ⟨⟩
    exact ⟨_, ‹_›, ‹_›⟩
  · rintro ⟨s', hfirst, hrest⟩
    exact .cons hfirst hrest

theorem leaves_append_iff {effect : σ → Event I → σ → Prop} :
    Leaves effect s (es ++ fs) s'' ↔ ∃ s', Leaves effect s es s' ∧ Leaves effect s' fs s'' := by
  induction es generalizing s with
  | nil =>
    constructor
    · intro h
      exact ⟨s, .nil s, h⟩
    · rintro ⟨s', ⟨⟩, h⟩
      exact h
  | cons e es ih =>
    simp only [List.cons_append, leaves_cons_iff, ih]
    constructor
    · rintro ⟨s₁, hfirst, s', hes, hfs⟩
      exact ⟨s', ⟨s₁, hfirst, hes⟩, hfs⟩
    · rintro ⟨s', ⟨s₁, hfirst, hes⟩, hfs⟩
      exact ⟨s₁, hfirst, s', hes, hfs⟩

/-- The event is one in the world: its call is answered there. -/
inductive AnsweredIn (world : World I σ) (s : σ) : Event I → σ → Prop
  | noted (entry : LogEntry) : AnsweredIn world s (.noted entry) s
  | answered (c : I.Call) : AnsweredIn world s (.answered c (world s c).1) (world s c).2

/-- The calls are answered by a world, one after the other. -/
abbrev Follows (world : World I σ) : σ → List (Event I) → σ → Prop := Leaves (AnsweredIn world)

/-- The world answers the calls of a class in one way, and stays as it is. -/
def Steady (world : World I σ) (P : I.Call → Prop) (answers : (c : I.Call) → I.Reply c) : Prop :=
  ∀ s c, P c → world s c = (answers c, s)

namespace Program

variable {p q : Program I α}

/-- A run asks for its calls in order. -/
theorem run_follows (world : World I σ) (p : Program I α) (s : σ) :
    Follows world s (p.run world s).events (p.run world s).state := by
  induction p generalizing s with
  | done a => exact .nil s
  | note entry rest ih => exact .cons (.noted entry) (ih s)
  | ask c next ih => exact .cons (.answered c) (ih _ _)

theorem CallsOnly.interpret {Q : J.Call → Prop} {answer : (c : I.Call) → Program J (I.Reply c)}
    (hanswer : ∀ c, P c → (answer c).CallsOnly Q) (hp : p.CallsOnly P) :
    (p.interpret answer).CallsOnly Q := by
  induction p with
  | done a => exact trivial
  | note entry rest ih => exact ih hp
  | ask c next ih => exact (hanswer c hp.1).bind fun r => ih r (hp.2 r)

theorem each_callsOnly {ps : List (Program I α)} (h : ∀ p ∈ ps, p.CallsOnly P) :
    (each ps).CallsOnly P := by
  induction ps with
  | nil => exact .of_done _
  | cons p rest ih =>
    refine (h p List.mem_cons_self).bind fun v => ?_
    exact (ih fun q hq => h q (List.mem_cons_of_mem _ hq)).bind fun vs => .of_done _

/-- Calls that are answered in one way leave the world as it is. -/
theorem run_of_steady (hsteady : Steady world P answers) (hp : p.CallsOnly P) (s : σ) :
    (p.run world s).value = p.valueIn answers ∧ (p.run world s).state = s := by
  induction p with
  | done a => exact ⟨rfl, rfl⟩
  | note entry rest ih => exact ih hp
  | ask c next ih =>
    obtain ⟨hc, hnext⟩ := hp
    simp only [run, hsteady s c hc]
    exact ih _ (hnext _)

theorem Moves.steady (h : p.Moves e q) (hsteady : Steady world P answers) (hp : p.CallsOnly P)
    (he : AnsweredIn world s e s') :
    q.CallsOnly P ∧ q.valueIn answers = p.valueIn answers ∧ s' = s := by
  cases h with
  | note entry rest =>
    cases he
    exact ⟨hp, rfl, rfl⟩
  | ask c next r =>
    cases he
    rw [hsteady s c hp.1]
    exact ⟨hp.2 _, rfl, rfl⟩

end Program

namespace Concurrent

variable {k k' : Concurrent I β α} {next : List β → Concurrent I β α} {a : α}

/-- The programs at work at the same time make calls of a class only. -/
def PartsOnly (P : I.Call → Prop) : Concurrent I β α → Prop
  | done _ => True
  | note _ rest => rest.PartsOnly P
  | ask _ next => ∀ r, (next r).PartsOnly P
  | gather parts next => (∀ p ∈ parts, p.CallsOnly P) ∧ ∀ vs, (next vs).PartsOnly P

namespace PartsOnly

theorem of (p : Program I α) : (Concurrent.of p : Concurrent I β α).PartsOnly P := by
  induction p with
  | done a => exact trivial
  | note entry rest ih => exact ih
  | ask c next ih => exact ih

theorem bind {k : Concurrent I β α} {f : α → Concurrent I β γ} (hk : k.PartsOnly P)
    (hf : ∀ a, (f a).PartsOnly P) : (k.bind f).PartsOnly P := by
  induction k with
  | done a => exact hf a
  | note entry rest ih => exact ih hk
  | ask c next ih => exact fun r => ih r (hk r)
  | gather parts next ih => exact ⟨hk.1, fun vs => ih vs (hk.2 vs)⟩

/-- Calls that are answered by calls of a class. -/
theorem interpret {Q : J.Call → Prop} {answer : (c : I.Call) → Program J (I.Reply c)}
    {k : Concurrent I β α} (hanswer : ∀ c, P c → (answer c).CallsOnly Q) (hk : k.PartsOnly P) :
    (k.interpret answer).PartsOnly Q := by
  induction k with
  | done a => exact trivial
  | note entry rest ih => exact ih hk
  | ask c next ih => exact (PartsOnly.of _).bind fun r => ih r (hk r)
  | gather parts next ih =>
    refine ⟨fun q hq => ?_, fun vs => ih vs (hk.2 vs)⟩
    obtain ⟨p, hp, rfl⟩ := List.mem_map.1 hq
    exact (hk.1 p hp).interpret hanswer

end PartsOnly

/-- Value and last state of a run with one program after the other. -/
def ending (world : World I σ) (k : Concurrent I β α) (s : σ) : α × σ :=
  ((k.inOrder.run world s).value, (k.inOrder.run world s).state)

theorem ending_gather (hsteady : Steady world P answers) {parts : List (Program I β)}
    (hparts : ∀ p ∈ parts, p.CallsOnly P) (s : σ) :
    (gather parts next).ending world s =
      (next (parts.map (Program.valueIn answers))).ending world s := by
  obtain ⟨hvalue, hstate⟩ := Program.run_of_steady hsteady (Program.each_callsOnly hparts) s
  unfold ending
  rw [inOrder, Program.run_bind]
  simp only [hvalue, hstate, Program.valueIn_each]

/-- An event changes nothing about the end. -/
theorem Moves.ending_eq (h : k.Moves e k') (hsteady : Steady world P answers) (hk : k.PartsOnly P)
    (he : AnsweredIn world s e s') : k'.PartsOnly P ∧ k'.ending world s' = k.ending world s := by
  induction h with
  | note entry rest =>
    cases he
    exact ⟨hk, rfl⟩
  | ask c next r =>
    cases he
    exact ⟨hk _, rfl⟩
  | @part e p p' before after next h =>
    obtain ⟨hparts, hnext⟩ := hk
    obtain ⟨hcalls, hvalue, rfl⟩ := h.steady hsteady (hparts _ (by simp)) he
    have hmoved : ∀ q ∈ before ++ p' :: after, q.CallsOnly P := by
      intro q hq
      rcases List.mem_append.1 hq with hbefore | hrest
      · exact hparts q (List.mem_append_left _ hbefore)
      · rcases List.mem_cons.1 hrest with rfl | hafter
        · exact hcalls
        · exact hparts q (List.mem_append_right _ (List.mem_cons_of_mem _ hafter))
    refine ⟨⟨hmoved, hnext⟩, ?_⟩
    rw [ending_gather hsteady hmoved, ending_gather hsteady hparts]
    simp only [List.map_append, List.map_cons, hvalue]
  | join vs next h ih =>
    obtain ⟨hparts, hnext⟩ := hk
    obtain ⟨hmoved, hending⟩ := ih (hnext vs) he
    refine ⟨hmoved, ?_⟩
    rw [hending, ending_gather hsteady hparts, map_valueIn_done]

theorem Ends.ending_eq (h : k.Ends a) (hsteady : Steady world P answers) (hk : k.PartsOnly P) :
    k.ending world s = (a, s) := by
  induction h with
  | done a => rfl
  | join vs next h ih =>
    rw [ending_gather hsteady hk.1, map_valueIn_done]
    exact ih (hk.2 vs)

/-- Every order of events ends as one program after the other does. -/
theorem Trace.ending_eq (h : k.Trace es a) (hsteady : Steady world P answers) (hk : k.PartsOnly P)
    (hes : Follows world s es s') : k.ending world s = (a, s') := by
  obtain ⟨k', hruns, hends⟩ := h
  induction hruns generalizing s with
  | refl k =>
    cases hes
    exact hends.ending_eq hsteady hk
  | step hfirst _ ih =>
    obtain ⟨s₁, he, hrest⟩ := leaves_cons_iff.1 hes
    obtain ⟨hk', hending⟩ := hfirst.ending_eq hsteady hk he
    rw [← hending]
    exact ih hk' hrest hends

end Concurrent

end QueryPlans
