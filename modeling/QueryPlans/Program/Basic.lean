/-!
# Programs that call on their surroundings

* `Interface` — the calls that a program may make, and what each is answered with.
* `Program` — a value, an entry in the log and a program, or a call and a program for each answer.
  So a program holds what is done for every behaviour of its surroundings.
* `Program.call`, `Program.log` — the smallest programs.
* `Program.interpret`, `Program.serve` — a program over another interface, call by call; the second
  hands on a state from one call to the next.

Programs form a monad: a program is put after another by `bind`.
-/

namespace QueryPlans

/-- How much an entry of the log matters. -/
inductive LogLevel where
  | debug
  | info
  | warning
  | error
  | critical
  deriving DecidableEq, Repr, Inhabited

namespace LogLevel

def name : LogLevel → String
  | debug => "DEBUG"
  | info => "INFO"
  | warning => "WARNING"
  | error => "ERROR"
  | critical => "CRITICAL"

def options : List (String × LogLevel) :=
  [debug, info, warning, error, critical].map fun l => (l.name, l)

/-- Levels in order: a higher one matters more. -/
def rank : LogLevel → Nat
  | debug => 10
  | info => 20
  | warning => 30
  | error => 40
  | critical => 50

end LogLevel

/-- An entry of the log. -/
structure LogEntry where
  level : LogLevel
  source : String
  message : String
  deriving DecidableEq, Repr, Inhabited

/-- The calls a program may make, and the type of the answer to each. -/
structure Interface where
  Call : Type
  Reply : Call → Type

/-- What a program does, for every behaviour of its surroundings. -/
inductive Program (I : Interface) (α : Type) where
  | done (a : α)
  | note (entry : LogEntry) (rest : Program I α)
  | ask (c : I.Call) (next : I.Reply c → Program I α)

namespace Program

variable {I J : Interface} {α β γ : Type}

/-- Go on with the value of a program. -/
def bind : Program I α → (α → Program I β) → Program I β
  | done a, f => f a
  | note entry rest, f => note entry (rest.bind f)
  | ask c next, f => ask c fun r => (next r).bind f

instance : Monad (Program I) where
  pure := done
  bind := bind

@[simp] theorem pure_eq_done (a : α) : (pure a : Program I α) = done a := rfl

@[simp] theorem done_bind (a : α) (f : α → Program I β) : (done a >>= f) = f a := rfl

@[simp] theorem note_bind (entry : LogEntry) (rest : Program I α) (f : α → Program I β) :
    (note entry rest >>= f) = note entry (rest >>= f) := rfl

@[simp] theorem ask_bind (c : I.Call) (next : I.Reply c → Program I α) (f : α → Program I β) :
    (ask c next >>= f) = ask c fun r => next r >>= f := rfl

/-- To end with the value is to do nothing more. -/
theorem bind_done (p : Program I α) : (p >>= done) = p := by
  induction p with
  | done a => rfl
  | note entry rest ih => simp [ih]
  | ask c next ih => simp [ih]

/-- Programs are put one after another in any grouping. -/
theorem bind_bind (p : Program I α) (f : α → Program I β) (g : β → Program I γ) :
    (p >>= f >>= g) = (p >>= fun a => f a >>= g) := by
  induction p with
  | done a => rfl
  | note entry rest ih => simp [ih]
  | ask c next ih => simp [ih]

instance : LawfulMonad (Program I) :=
  LawfulMonad.mk' (Program I) bind_done (fun _ _ => rfl) bind_bind

/-- Make a call; the value is its answer. -/
def call (c : I.Call) : Program I (I.Reply c) := ask c done

/-- Write an entry to the log. -/
def log (level : LogLevel) (source message : String) : Program I Unit :=
  note ⟨level, source, message⟩ (done ())

/-- Answer each call of a program by a program over another interface. -/
def interpret (answer : (c : I.Call) → Program J (I.Reply c)) : Program I α → Program J α
  | done a => done a
  | note entry rest => note entry (rest.interpret answer)
  | ask c next => (answer c).bind fun r => (next r).interpret answer

@[simp] theorem interpret_done (answer : (c : I.Call) → Program J (I.Reply c)) (a : α) :
    (done a : Program I α).interpret answer = done a := rfl

theorem interpret_bind (answer : (c : I.Call) → Program J (I.Reply c)) (p : Program I α)
    (f : α → Program I β) :
    (p >>= f).interpret answer = (p.interpret answer >>= fun a => (f a).interpret answer) := by
  induction p with
  | done a => rfl
  | note entry rest ih => simp [interpret, ih]
  | ask c next ih =>
    simp only [ask_bind, interpret, ih]
    exact (bind_bind (answer c) (fun r => (next r).interpret answer) _).symm

/-- Answer each call of a program by a program over another interface, which hands on a state. -/
def serve {σ : Type} (answer : σ → (c : I.Call) → Program J (I.Reply c × σ)) :
    Program I α → σ → Program J (α × σ)
  | done a, s => done (a, s)
  | note entry rest, s => note entry (rest.serve answer s)
  | ask c next, s => (answer s c).bind fun r => (next r.1).serve answer r.2

@[simp] theorem serve_done {σ : Type} (answer : σ → (c : I.Call) → Program J (I.Reply c × σ))
    (a : α) (s : σ) : (done a : Program I α).serve answer s = done (a, s) := rfl

theorem serve_bind {σ : Type} (answer : σ → (c : I.Call) → Program J (I.Reply c × σ))
    (p : Program I α) (f : α → Program I β) (s : σ) :
    (p >>= f).serve answer s = (p.serve answer s >>= fun r => (f r.1).serve answer r.2) := by
  induction p generalizing s with
  | done a => rfl
  | note entry rest ih => simp [serve, ih]
  | ask c next ih =>
    simp only [ask_bind, serve, ih]
    exact (bind_bind (answer s c) (fun r => (next r.1).serve answer r.2) _).symm

end Program

end QueryPlans
