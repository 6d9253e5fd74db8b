import QueryPlans.Program.Run

/-!
# Traces of a program

* `Program.Trace` — a program may end with a value after a list of events: its calls are answered in
  any way that their types allow.
* `Program.CallsOnly` — every call that a program may make, however the earlier ones are answered, is
  of a class.

Principal results: `run_trace` — a run in a world is a trace; `answered_of_mem_run` — the world gave
its answers; `trace_bind_iff` — a trace of two programs is a trace of the first and then one of the
second; `trace_interpret_iff` — a trace is handed on event by event to another interface;
`CallsOnly.of_trace` — a trace holds only calls of the class.
-/

namespace QueryPlans.Program

variable {I J : Interface} {α β σ : Type}

/-- The program may end with a value after these events. -/
inductive Trace : Program I α → List (Event I) → α → Prop
  | done (a : α) : Trace (.done a) [] a
  | note {entry : LogEntry} {rest : Program I α} {es : List (Event I)} {a : α}
      (h : Trace rest es a) : Trace (.note entry rest) (.noted entry :: es) a
  | ask {c : I.Call} {next : I.Reply c → Program I α} (r : I.Reply c) {es : List (Event I)} {a : α}
      (h : Trace (next r) es a) : Trace (.ask c next) (.answered c r :: es) a

theorem trace_done_iff {a b : α} {es : List (Event I)} :
    (done a : Program I α).Trace es b ↔ es = [] ∧ b = a := by
  constructor
  · rintro ⟨⟩
    exact ⟨rfl, rfl⟩
  · rintro ⟨rfl, rfl⟩
    exact .done _

theorem trace_note_iff {entry : LogEntry} {rest : Program I α} {es : List (Event I)} {a : α} :
    (note entry rest).Trace es a ↔ ∃ tail, es = .noted entry :: tail ∧ rest.Trace tail a := by
  constructor
  · rintro ⟨⟩
    exact ⟨_, rfl, by assumption⟩
  · rintro ⟨tail, rfl, h⟩
    exact .note h

theorem trace_ask_iff {c : I.Call} {next : I.Reply c → Program I α} {es : List (Event I)} {a : α} :
    (ask c next).Trace es a ↔ ∃ r tail, es = .answered c r :: tail ∧ (next r).Trace tail a := by
  constructor
  · rintro ⟨⟩
    exact ⟨_, _, rfl, by assumption⟩
  · rintro ⟨r, tail, rfl, h⟩
    exact .ask r h

theorem trace_call_bind_iff {c : I.Call} {f : I.Reply c → Program I β} {es : List (Event I)} {b : β} :
    ((ask c .done : Program I (I.Reply c)) >>= f).Trace es b ↔
      ∃ r tail, es = .answered c r :: tail ∧ (f r).Trace tail b := by
  simp only [ask_bind, done_bind, trace_ask_iff]

theorem trace_log_bind_iff {level : LogLevel} {source message : String} {f : Unit → Program I β}
    {es : List (Event I)} {b : β} :
    (Program.log level source message >>= f).Trace es b ↔
      ∃ tail, es = .noted ⟨level, source, message⟩ :: tail ∧ (f ()).Trace tail b := by
  simp only [Program.log, note_bind, done_bind, trace_note_iff]

/-- A trace of two programs is a trace of the first and then one of the second. -/
theorem trace_bind_iff {p : Program I α} {f : α → Program I β} {es : List (Event I)} {b : β} :
    (p >>= f).Trace es b ↔ ∃ es₁ es₂ a, p.Trace es₁ a ∧ (f a).Trace es₂ b ∧ es = es₁ ++ es₂ := by
  induction p generalizing es with
  | done a =>
    simp only [done_bind, trace_done_iff]
    constructor
    · intro h
      exact ⟨[], es, a, ⟨rfl, rfl⟩, h, rfl⟩
    · rintro ⟨_, es₂, _, ⟨rfl, rfl⟩, h, rfl⟩
      exact h
  | note entry rest ih =>
    simp only [note_bind, trace_note_iff, ih]
    constructor
    · rintro ⟨_, rfl, es₁, es₂, a, h₁, h₂, rfl⟩
      exact ⟨_, es₂, a, ⟨es₁, rfl, h₁⟩, h₂, rfl⟩
    · rintro ⟨_, es₂, a, ⟨es₁, rfl, h₁⟩, h₂, rfl⟩
      exact ⟨_, rfl, es₁, es₂, a, h₁, h₂, rfl⟩
  | ask c next ih =>
    simp only [ask_bind, trace_ask_iff, ih]
    constructor
    · rintro ⟨r, _, rfl, es₁, es₂, a, h₁, h₂, rfl⟩
      exact ⟨_, es₂, a, ⟨r, es₁, rfl, h₁⟩, h₂, rfl⟩
    · rintro ⟨_, es₂, a, ⟨r, es₁, rfl, h₁⟩, h₂, rfl⟩
      exact ⟨r, _, rfl, es₁, es₂, a, h₁, h₂, rfl⟩

theorem trace_map_iff {p : Program I α} {f : α → β} {es : List (Event I)} {b : β} :
    (f <$> p).Trace es b ↔ ∃ a, p.Trace es a ∧ b = f a := by
  rw [map_eq_pure_bind, trace_bind_iff]
  simp only [pure_eq_done, trace_done_iff]
  constructor
  · rintro ⟨_, _, a, h, ⟨rfl, rfl⟩, rfl⟩
    exact ⟨a, by simpa using h, rfl⟩
  · rintro ⟨a, h, rfl⟩
    exact ⟨es, [], a, h, ⟨rfl, rfl⟩, by simp⟩

/-- Where each call is handed on as one call of another interface, a trace is handed on event by
event. -/
theorem trace_interpret_iff {answer : (c : I.Call) → Program J (I.Reply c)}
    {lift : Event I → Event J} (hnoted : ∀ entry, lift (.noted entry) = .noted entry)
    (hanswer : ∀ c es r, (answer c).Trace es r ↔ es = [lift (.answered c r)])
    {p : Program I α} {es : List (Event J)} {a : α} :
    (p.interpret answer).Trace es a ↔ ∃ ds, p.Trace ds a ∧ es = ds.map lift := by
  induction p generalizing es with
  | done b =>
    simp only [interpret, trace_done_iff]
    constructor
    · rintro ⟨rfl, rfl⟩
      exact ⟨[], ⟨rfl, rfl⟩, rfl⟩
    · rintro ⟨_, ⟨rfl, rfl⟩, rfl⟩
      exact ⟨rfl, rfl⟩
  | note entry rest ih =>
    simp only [interpret, trace_note_iff, ih]
    constructor
    · rintro ⟨_, rfl, ds, h, rfl⟩
      exact ⟨_, ⟨ds, rfl, h⟩, by simp [hnoted]⟩
    · rintro ⟨_, ⟨ds, rfl, h⟩, rfl⟩
      exact ⟨_, by simp [hnoted], ds, h, rfl⟩
  | ask c next ih =>
    have hbind : (ask c next).interpret answer = (answer c >>= fun r => (next r).interpret answer) :=
      rfl
    rw [hbind, trace_bind_iff]
    simp only [hanswer, trace_ask_iff, ih]
    constructor
    · rintro ⟨_, _, r, rfl, ⟨ds, h, rfl⟩, rfl⟩
      exact ⟨_, ⟨r, ds, rfl, h⟩, rfl⟩
    · rintro ⟨_, ⟨r, ds, rfl, h⟩, rfl⟩
      exact ⟨_, _, r, rfl, ⟨ds, h, rfl⟩, rfl⟩

/-- A run in a world is a trace. -/
theorem run_trace (world : World I σ) (p : Program I α) (s : σ) :
    p.Trace (p.run world s).events (p.run world s).value := by
  induction p generalizing s with
  | done a => exact .done a
  | note entry rest ih => exact .note (ih s)
  | ask c next ih => exact .ask _ (ih _ _)

/-- Every answer in a run was given by the world. -/
theorem answered_of_mem_run {world : World I σ} {p : Program I α} {s : σ} {c : I.Call} {r : I.Reply c}
    (h : .answered c r ∈ (p.run world s).events) : ∃ s', r = (world s' c).1 := by
  induction p generalizing s with
  | done a => cases h
  | note entry rest ih => exact ih (by simpa [run] using h)
  | ask c' next ih =>
    rcases List.mem_cons.1 h with heq | hlater
    · cases heq
      exact ⟨s, rfl⟩
    · exact ih _ hlater

/-! ## Classes of calls -/

/-- Every call that the program may make is of the class. -/
def CallsOnly (P : I.Call → Prop) : Program I α → Prop
  | done _ => True
  | note _ rest => rest.CallsOnly P
  | ask c next => P c ∧ ∀ r, (next r).CallsOnly P

namespace CallsOnly

variable {P : I.Call → Prop}

@[simp] theorem of_done (a : α) : (done a : Program I α).CallsOnly P := trivial

@[simp] theorem of_log (level : LogLevel) (source message : String) :
    (Program.log level source message : Program I Unit).CallsOnly P := trivial

theorem of_ask {c : I.Call} {next : I.Reply c → Program I α} (hc : P c)
    (h : ∀ r, (next r).CallsOnly P) : (ask c next).CallsOnly P := ⟨hc, h⟩

theorem bind {p : Program I α} {f : α → Program I β} (hp : p.CallsOnly P)
    (hf : ∀ a, (f a).CallsOnly P) : (p >>= f).CallsOnly P := by
  induction p with
  | done a => exact hf a
  | note entry rest ih => exact ih hp
  | ask c next ih => exact ⟨hp.1, fun r => ih r (hp.2 r)⟩

/-- A trace holds only calls of the class. -/
theorem of_trace {p : Program I α} {es : List (Event I)} {a : α} (hp : p.CallsOnly P)
    (h : p.Trace es a) {c : I.Call} {r : I.Reply c} (hmem : .answered c r ∈ es) : P c := by
  induction h with
  | done a => cases hmem
  | note _ ih => exact ih hp (by simpa using hmem)
  | ask r' _ ih =>
    rcases List.mem_cons.1 hmem with heq | htail
    · cases heq
      exact hp.1
    · exact ih (hp.2 r') htail

end CallsOnly

end QueryPlans.Program
