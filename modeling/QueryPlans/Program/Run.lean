import QueryPlans.Program.Basic

/-!
# Running programs

* `World` — surroundings with a state: how each call is answered, and the state after it.
* `Event` — a call with its answer, or an entry of the log.
* `Program.run` — the value of a program in a world, with all events in order and the last state.
-/

namespace QueryPlans

/-- Something that happened while a program ran. -/
inductive Event (I : Interface) where
  | answered (c : I.Call) (r : I.Reply c)
  | noted (entry : LogEntry)

/-- Surroundings with a state: the answer to a call, and the state after it. -/
abbrev World (I : Interface) (σ : Type) := σ → (c : I.Call) → I.Reply c × σ

/-- The entries of the log among events. -/
def Event.entry? {I : Interface} : Event I → Option LogEntry
  | answered _ _ => none
  | noted entry => some entry

def Event.call? {I : Interface} : Event I → Option I.Call
  | answered c _ => some c
  | noted _ => none

namespace Program

variable {I : Interface} {α β σ : Type}

/-- What a run ends with. -/
structure Run (I : Interface) (σ α : Type) where
  value : α
  events : List (Event I)
  state : σ

/-- Run a program from a state of the world. -/
def run (world : World I σ) : Program I α → σ → Run I σ α
  | done a, s => ⟨a, [], s⟩
  | note entry rest, s =>
    let r := rest.run world s
    { r with events := .noted entry :: r.events }
  | ask c next, s =>
    let (reply, s) := world s c
    let r := (next reply).run world s
    { r with events := .answered c reply :: r.events }

@[simp] theorem run_done (world : World I σ) (a : α) (s : σ) :
    (done a : Program I α).run world s = ⟨a, [], s⟩ := rfl

theorem run_log (world : World I σ) (level : LogLevel) (source message : String) (s : σ) :
    (Program.log level source message : Program I Unit).run world s =
      ⟨(), [.noted ⟨level, source, message⟩], s⟩ := rfl

/-- A run of two programs is a run of the first, then one of the second. -/
theorem run_bind (world : World I σ) (p : Program I α) (f : α → Program I β) (s : σ) :
    (p >>= f).run world s =
      let r := p.run world s
      let r' := (f r.value).run world r.state
      ⟨r'.value, r.events ++ r'.events, r'.state⟩ := by
  induction p generalizing s with
  | done a => rfl
  | note entry rest ih => simp [run, ih]
  | ask c next ih => simp [run, ih]

end Program

end QueryPlans
