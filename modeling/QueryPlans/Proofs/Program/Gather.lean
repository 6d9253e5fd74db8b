import QueryPlans.Proofs.Program.Trace

/-!
# Programs at work at the same time

A program may start several others at once, and go on with the values of all when the last has ended.
While they are at work, any of them may make the next step: a call that is answered, or an entry in the
log.

* `Concurrent` — a program that may gather others; `Concurrent.inOrder` — the same with one after the
  other.
* `Concurrent.Moves`, `Concurrent.Ends` — one event of it, and its end.
* `Concurrent.Runs`, `Concurrent.Trace` — what may happen up to some point, and up to its end.
* `Program.valueIn`, `Concurrent.valueIn` — the value where every call has one answer.

Principal results: `Trace.eq_valueIn` — where every call has one answer, every order of events ends with
the same value; `trace_of_inOrder` — one program after the other is one such order; `exists_trace` —
there is one that ends.
-/

namespace QueryPlans

variable {I J : Interface} {α β γ : Type} {e : Event I} {es fs : List (Event I)} {a : α}

/-- Every call is answered in one way. -/
def AgreesWith (answers : (c : I.Call) → I.Reply c) (es : List (Event I)) : Prop :=
  ∀ c r, .answered c r ∈ es → r = answers c

namespace AgreesWith

variable {answers : (c : I.Call) → I.Reply c}

theorem nil : AgreesWith answers ([] : List (Event I)) := fun _ _ hmem => nomatch hmem

theorem head (h : AgreesWith answers (e :: es)) : AgreesWith answers [e] :=
  fun c r hmem => h c r (List.mem_cons.2 (.inl (List.mem_singleton.1 hmem)))

theorem tail (h : AgreesWith answers (e :: es)) : AgreesWith answers es :=
  fun c r hmem => h c r (List.mem_cons_of_mem _ hmem)

end AgreesWith

namespace Program

/-- One event of a program. -/
inductive Moves : Program I α → Event I → Program I α → Prop
  | note (entry : LogEntry) (rest : Program I α) : Moves (.note entry rest) (.noted entry) rest
  | ask (c : I.Call) (next : I.Reply c → Program I α) (r : I.Reply c) :
    Moves (.ask c next) (.answered c r) (next r)

/-- The value of a program where every call has one answer. -/
def valueIn (answers : (c : I.Call) → I.Reply c) : Program I α → α
  | done a => a
  | note _ rest => rest.valueIn answers
  | ask c next => (next (answers c)).valueIn answers

/-- The values of programs, one after the other. -/
def each : List (Program I α) → Program I (List α)
  | [] => done []
  | p :: rest => p >>= fun v => each rest >>= fun vs => done (v :: vs)

theorem each_interpret (answer : (c : I.Call) → Program J (I.Reply c)) (ps : List (Program I α)) :
    each (ps.map (interpret answer)) = (each ps).interpret answer := by
  induction ps with
  | nil => rfl
  | cons p rest ih => simp only [List.map_cons, each, ih, interpret_bind, interpret_done]

variable {answers : (c : I.Call) → I.Reply c} {p q : Program I α}

theorem valueIn_bind (p : Program I α) (f : α → Program I β) :
    (p >>= f).valueIn answers = (f (p.valueIn answers)).valueIn answers := by
  induction p with
  | done a => rfl
  | note entry rest ih => exact ih
  | ask c next ih => exact ih _

theorem valueIn_each (ps : List (Program I α)) :
    (each ps).valueIn answers = ps.map (valueIn answers) := by
  induction ps with
  | nil => rfl
  | cons p rest ih =>
    rw [each, valueIn_bind, valueIn_bind, ih]
    rfl

/-- A program ends with its value. -/
theorem exists_trace (answers : (c : I.Call) → I.Reply c) (p : Program I α) :
    ∃ es, AgreesWith answers es ∧ p.Trace es (p.valueIn answers) := by
  induction p with
  | done a => exact ⟨[], .nil, .done a⟩
  | note entry rest ih =>
    obtain ⟨es, hes, h⟩ := ih
    exact ⟨_, fun c r hmem => hes c r (by simpa using hmem), .note h⟩
  | ask c next ih =>
    obtain ⟨es, hes, h⟩ := ih (answers c)
    refine ⟨_, fun c' r hmem => ?_, .ask (answers c) h⟩
    rcases List.mem_cons.1 hmem with heq | hlater
    · cases heq
      rfl
    · exact hes c' r hlater

/-- Where every call has one answer, a program ends with one value. -/
theorem Trace.eq_valueIn (h : p.Trace es a) (hes : AgreesWith answers es) : a = p.valueIn answers := by
  induction h with
  | done a => rfl
  | note _ ih => exact ih hes.tail
  | ask r _ ih =>
    rw [ih hes.tail, hes _ r List.mem_cons_self]
    rfl

theorem Moves.valueIn_eq (h : p.Moves e q) (he : AgreesWith answers [e]) :
    p.valueIn answers = q.valueIn answers := by
  cases h with
  | note entry => rfl
  | ask c next r =>
    rw [he c r List.mem_cons_self]
    rfl

end Program

/-- A program that may start several others at once, and goes on with the values of all. -/
inductive Concurrent (I : Interface) (β α : Type) where
  | done (a : α)
  | note (entry : LogEntry) (rest : Concurrent I β α)
  | ask (c : I.Call) (next : I.Reply c → Concurrent I β α)
  | gather (parts : List (Program I β)) (next : List β → Concurrent I β α)

namespace Concurrent

/-- A program that starts no others. -/
def of : Program I α → Concurrent I β α
  | .done a => done a
  | .note entry rest => note entry (of rest)
  | .ask c next => ask c fun r => of (next r)

/-- Go on with the value of a program. -/
def bind : Concurrent I β α → (α → Concurrent I β γ) → Concurrent I β γ
  | done a, f => f a
  | note entry rest, f => note entry (rest.bind f)
  | ask c next, f => ask c fun r => (next r).bind f
  | gather parts next, f => gather parts fun vs => (next vs).bind f

/-- The same with one program after the other. -/
def inOrder : Concurrent I β α → Program I α
  | done a => .done a
  | note entry rest => .note entry rest.inOrder
  | ask c next => .ask c fun r => (next r).inOrder
  | gather parts next => Program.each parts >>= fun vs => (next vs).inOrder

/-- The value of a program where every call has one answer. -/
def valueIn (answers : (c : I.Call) → I.Reply c) : Concurrent I β α → α
  | done a => a
  | note _ rest => rest.valueIn answers
  | ask c next => (next (answers c)).valueIn answers
  | gather parts next => (next (parts.map (Program.valueIn answers))).valueIn answers

variable {k k' k'' : Concurrent I β α} {next : List β → Concurrent I β α}

@[simp] theorem inOrder_of (p : Program I α) : (of p : Concurrent I β α).inOrder = p := by
  induction p with
  | done a => rfl
  | note entry rest ih => simp only [of, inOrder, ih]
  | ask c next ih => simp only [of, inOrder, ih]

theorem inOrder_bind (k : Concurrent I β α) (f : α → Concurrent I β γ) :
    (k.bind f).inOrder = (k.inOrder >>= fun a => (f a).inOrder) := by
  induction k with
  | done a => rfl
  | note entry rest ih => simp only [bind, inOrder, ih, Program.note_bind]
  | ask c next ih => simp only [bind, inOrder, ih, Program.ask_bind]
  | gather parts next ih => simp only [bind, inOrder, ih, Program.bind_bind]

@[simp] theorem valueIn_of {answers : (c : I.Call) → I.Reply c} (p : Program I α) :
    (of p : Concurrent I β α).valueIn answers = p.valueIn answers := by
  induction p with
  | done a => rfl
  | note entry rest ih => exact ih
  | ask c next ih => exact ih _

/-- Answer each call of a program by a program over another interface. -/
def interpret (answer : (c : I.Call) → Program J (I.Reply c)) : Concurrent I β α → Concurrent J β α
  | done a => done a
  | note entry rest => note entry (rest.interpret answer)
  | ask c next => (of (answer c)).bind fun r => (next r).interpret answer
  | gather parts next =>
    gather (parts.map (Program.interpret answer)) fun vs => (next vs).interpret answer

theorem inOrder_interpret (answer : (c : I.Call) → Program J (I.Reply c)) (k : Concurrent I β α) :
    (k.interpret answer).inOrder = k.inOrder.interpret answer := by
  induction k with
  | done a => rfl
  | note entry rest ih => simp only [interpret, inOrder, Program.interpret, ih]
  | ask c next ih =>
    simp only [interpret, inOrder, inOrder_bind, inOrder_of, ih]
    rfl
  | gather parts next ih =>
    simp only [interpret, inOrder, ih, Program.each_interpret, Program.interpret_bind]

/-! ## Events -/

/-- One event: of the program, or of one of those that it has started. -/
inductive Moves : Concurrent I β α → Event I → Concurrent I β α → Prop
  | note (entry : LogEntry) (rest : Concurrent I β α) : Moves (.note entry rest) (.noted entry) rest
  | ask (c : I.Call) (next : I.Reply c → Concurrent I β α) (r : I.Reply c) :
    Moves (.ask c next) (.answered c r) (next r)
  | part {e : Event I} {p p' : Program I β} (before after : List (Program I β))
    (next : List β → Concurrent I β α) (h : p.Moves e p') :
    Moves (.gather (before ++ p :: after) next) e (.gather (before ++ p' :: after) next)
  | join {e : Event I} {k : Concurrent I β α} (vs : List β) (next : List β → Concurrent I β α)
    (h : Moves (next vs) e k) : Moves (.gather (vs.map .done) next) e k

/-- The program has ended. -/
inductive Ends : Concurrent I β α → α → Prop
  | done (a : α) : Ends (.done a) a
  | join {a : α} (vs : List β) (next : List β → Concurrent I β α) (h : Ends (next vs) a) :
    Ends (.gather (vs.map .done) next) a

/-- What may happen up to some point. -/
inductive Runs : Concurrent I β α → List (Event I) → Concurrent I β α → Prop
  | refl (k : Concurrent I β α) : Runs k [] k
  | step {k k' k'' : Concurrent I β α} {e : Event I} {es : List (Event I)} (hfirst : Moves k e k')
    (hrest : Runs k' es k'') : Runs k (e :: es) k''

/-- The program may end with a value after these events, in whatever order those at work make them. -/
def Trace (k : Concurrent I β α) (es : List (Event I)) (a : α) : Prop :=
  ∃ k', k.Runs es k' ∧ k'.Ends a

theorem Runs.append (h : Runs k es k') (h' : Runs k' fs k'') : Runs k (es ++ fs) k'' := by
  induction h with
  | refl k => exact h'
  | step hfirst _ ih => exact .step hfirst (ih h')

/-! ## One answer for each call -/

section
variable {answers : (c : I.Call) → I.Reply c}

theorem map_valueIn_done (vs : List β) :
    (vs.map Program.done).map (Program.valueIn answers) = vs := by
  simp only [List.map_map, Function.comp_def, Program.valueIn, List.map_id_fun', id_eq]

theorem Moves.valueIn_eq (h : k.Moves e k') (he : AgreesWith answers [e]) :
    k.valueIn answers = k'.valueIn answers := by
  induction h with
  | note entry rest => rfl
  | ask c next r =>
    rw [he c r List.mem_cons_self]
    rfl
  | part before after next h => simp only [valueIn, List.map_append, List.map_cons, h.valueIn_eq he]
  | join vs next h ih =>
    rw [← ih he, valueIn, map_valueIn_done]

theorem Ends.eq_valueIn (h : k.Ends a) : a = k.valueIn answers := by
  induction h with
  | done a => rfl
  | join vs next h ih =>
    rw [ih, valueIn, map_valueIn_done]

theorem Runs.valueIn_eq (h : k.Runs es k') (hes : AgreesWith answers es) :
    k.valueIn answers = k'.valueIn answers := by
  induction h with
  | refl k => rfl
  | step hfirst _ ih => exact (hfirst.valueIn_eq hes.head).trans (ih hes.tail)

/-- Where every call has one answer, every order of events ends with the same value. -/
theorem Trace.eq_valueIn (h : k.Trace es a) (hes : AgreesWith answers es) :
    a = k.valueIn answers := by
  obtain ⟨k', hruns, hends⟩ := h
  rw [hruns.valueIn_eq hes]
  exact hends.eq_valueIn

end

/-! ## One program after the other -/

theorem Trace.step (hfirst : k.Moves e k') (h : k'.Trace es a) : k.Trace (e :: es) a := by
  obtain ⟨k'', hruns, hends⟩ := h
  exact ⟨k'', .step hfirst hruns, hends⟩

theorem Trace.join {vs : List β} (h : (next vs).Trace es a) :
    (gather (vs.map .done) next).Trace es a := by
  obtain ⟨k', hruns, hends⟩ := h
  cases hruns with
  | refl => exact ⟨_, .refl _, .join vs next hends⟩
  | step hfirst hrest => exact ⟨k', .step (.join vs next hfirst) hrest, hends⟩

/-- One of the programs at work ends while the others wait. -/
theorem Trace.part {before after : List (Program I β)} {p : Program I β} {v : β}
    (hp : p.Trace es v) (h : (gather (before ++ .done v :: after) next).Trace fs a) :
    (gather (before ++ p :: after) next).Trace (es ++ fs) a := by
  induction hp with
  | done v => exact h
  | note _ ih => exact .step (.part before after next (.note _ _)) (ih h)
  | ask r _ ih => exact .step (.part before after next (.ask _ _ r)) (ih h)

/-- The programs end one after the other. -/
theorem Trace.each {parts : List (Program I β)} {vs : List β} (ended : List β)
    (hparts : (Program.each parts).Trace es vs) (h : (next (ended ++ vs)).Trace fs a) :
    (gather (ended.map .done ++ parts) next).Trace (es ++ fs) a := by
  induction parts generalizing es vs ended with
  | nil =>
    obtain ⟨rfl, rfl⟩ := Program.trace_done_iff.1 hparts
    rw [List.append_nil] at h ⊢
    exact h.join
  | cons p rest ih =>
    obtain ⟨first, late, v, hp, hlate, rfl⟩ := Program.trace_bind_iff.1 hparts
    obtain ⟨others, none, ws, hothers, hend, rfl⟩ := Program.trace_bind_iff.1 hlate
    obtain ⟨rfl, rfl⟩ := Program.trace_done_iff.1 hend
    rw [List.append_nil, List.append_assoc]
    refine Trace.part hp ?_
    have hnext : (next ((ended ++ [v]) ++ ws)).Trace fs a := by simpa using h
    simpa using ih (ended ++ [v]) hothers hnext

/-- One program after the other is one order of events. -/
theorem trace_of_inOrder (h : k.inOrder.Trace es a) : k.Trace es a := by
  induction k generalizing es with
  | done b =>
    obtain ⟨rfl, rfl⟩ := Program.trace_done_iff.1 h
    exact ⟨_, .refl _, .done a⟩
  | note entry rest ih =>
    obtain ⟨tail, rfl, hrest⟩ := Program.trace_note_iff.1 h
    exact (ih hrest).step (.note entry rest)
  | ask c next ih =>
    obtain ⟨r, tail, rfl, hrest⟩ := Program.trace_ask_iff.1 h
    exact (ih r hrest).step (.ask c next r)
  | gather parts next ih =>
    obtain ⟨es₁, es₂, vs, hparts, hrest, rfl⟩ := Program.trace_bind_iff.1 h
    exact Trace.each [] hparts (ih vs hrest)

/-- There is an order of events that ends. -/
theorem exists_trace (answers : (c : I.Call) → I.Reply c) (k : Concurrent I β α) :
    ∃ es, AgreesWith answers es ∧ k.Trace es (k.valueIn answers) := by
  obtain ⟨es, hes, htrace⟩ := k.inOrder.exists_trace answers
  have h := trace_of_inOrder htrace
  rw [h.eq_valueIn hes] at h
  exact ⟨es, hes, h⟩

end Concurrent

end QueryPlans
