import QueryPlans.CommandLine.Read
import QueryPlans.Console.Report
import QueryPlans.Session

/-!
# Calls of the console

* `Console.Call` — what the commands ask of their surroundings: something is shown, a text is read,
  or the session does something; `Console.interface` with the answers.
* `Console.Ending` — how a run ends, with `Ending.exitCode`.
* `Console.showAll`, `Console.between` — show displays in order; do something while connected.
* `Console.conclude` — the end of a run by its result.
-/

namespace QueryPlans

namespace Console

/-- What the commands ask of their surroundings. -/
inductive Call where
  | display (d : Display)
  /-- The text of a file, or of the standard input for `-`. -/
  | read (file : String)
  /-- Connect to the database. -/
  | connect
  /-- Close the connection to the database. -/
  | disconnect
  /-- Close the session: the connection to the database, then that to the model. -/
  | close
  /-- The text of a table. -/
  | describe (table : String) (withRelated : Bool)
  /-- The outcome of a question about a table. -/
  | ask (s : Session) (table question : String)

/-- The type of the answer to a call. A text that cannot be read is answered with the reason, and what
cannot be shown with a fault: its text may have no encoding on the terminal. -/
abbrev Call.Answer : Call → Type
  | display _ => Except Fault Unit
  | read _ => Except String String
  | connect => Except Failure Unit
  | disconnect => Except Failure Unit
  | close => Except Failure Unit
  | describe _ _ => Except Failure String
  | ask _ _ _ => Except Failure Outcome

/-- The calls of the console and their answers. -/
def interface : Interface := ⟨Call, Call.Answer⟩

def call (c : Call) : Program interface c.Answer := Program.ask c .done

/-- How a run ends. -/
inductive Ending where
  | finished
  | failed
  | told (t : CommandLine.Told)
  /-- A failure that nothing handles. -/
  | uncaught (f : Failure)
  deriving Repr

def Ending.exitCode : Ending → Nat
  | finished => 0
  | failed => 1
  | told t => t.exitCode
  | uncaught _ => 1

end Console

abbrev ConsoleProgram := Program Console.interface

namespace Console

def display (d : Display) : ConsoleProgram (Except Failure Unit) := do
  return (← call (.display d)).mapError .fault

/-- Show displays in order, up to the first that cannot be shown. -/
def showAll : List Display → ConsoleProgram (Except Failure Unit)
  | [] => return .ok ()
  | d :: rest => do
    match ← display d with
    | .error f => return .error f
    | .ok () => showAll rest

/-- Show what there is to show; the failure that stopped it is the result. -/
def report (s : Shown) : ConsoleProgram (Except Failure Unit) := do
  match ← showAll s.displays with
  | .error f => return .error f
  | .ok () => return s.failure.elim (.ok ()) .error

/-- Do something between connecting and another call, which closes. Nothing is done and nothing
closed without a connection, and a failure to close comes before one of what was done. -/
def between {α : Type} (closing : ConsoleProgram (Except Failure Unit))
    (body : ConsoleProgram (Except Failure α)) : ConsoleProgram (Except Failure α) := do
  match ← call .connect with
  | .error f => return .error f
  | .ok () =>
    let r ← body
    match ← closing with
    | .error f => return .error f
    | .ok () => return r

/-- Show a failure and end with it. Nothing handles a failure to show it. -/
def endShowing (displays : List Display) : ConsoleProgram Ending := do
  match ← showAll displays with
  | .error f => return .uncaught f
  | .ok () => return .failed

/-- End with a failure: it is shown, unless it is a cancellation. -/
def endWith (displays : Failure → List Display) (f : Failure) : ConsoleProgram Ending :=
  if f.isOrdinary then endShowing (displays f) else return .uncaught f

def conclude (displays : Failure → List Display) (r : Except Failure Unit) :
    ConsoleProgram Ending :=
  match r with
  | .ok () => return .finished
  | .error f => endWith displays f

end Console

end QueryPlans
