import QueryPlans.Console.Call

/-!
# The console on a terminal

The calls of the console come down to showing, reading, and the calls of the session.

* `Terminal.Call` — the calls of a terminal and of the session behind it; `Terminal.interface`.
* `Console.answerCall` — the answer to a call of the console, with the plan that is retained then.
* `Console.onTerminal` — a program of the console on a terminal.
-/

namespace QueryPlans

namespace Terminal

/-- A call of a terminal, or of the session behind it. -/
inductive Call where
  | display (d : Display)
  | read (file : String)
  | session (c : Session.Call)
  deriving DecidableEq, Repr

/-- The type of the answer to a call. -/
abbrev Call.Answer : Call → Type
  | display _ => Except Fault Unit
  | read _ => Except String String
  | session c => Except Fault c.Value

/-- The calls of a terminal and their answers. -/
def interface : Interface := ⟨Call, Call.Answer⟩

def call (c : Call) : Program interface c.Answer := Program.ask c .done

end Terminal

abbrev TerminalProgram := Program Terminal.interface

namespace Console

/-- Carry out a program of a session. -/
def onSession {α : Type} (p : SessionProgram α) : TerminalProgram α :=
  p.interpret (J := Terminal.interface) fun c => Terminal.call (.session c)

/-- The answer to a call of the console, with the plan that is retained then. -/
def answerCall (retained : Retained) : (c : Call) → TerminalProgram (c.Answer × Retained)
  | .display d => (·, retained) <$> Terminal.call (.display d)
  | .read file => (·, retained) <$> Terminal.call (.read file)
  | .connect => (·, retained) <$> onSession Session.connect
  | .disconnect => (·, retained) <$> onSession Session.disconnect
  | .close => (·, retained) <$> onSession Session.close
  | .describe table withRelated =>
    (·, retained) <$> onSession (Session.onDatabase (Schema.fetchText table withRelated))
  | .ask s table question => onSession (s.ask retained table question)

/-- A program of the console on a terminal. It begins without a plan. -/
def onTerminal {α : Type} (p : ConsoleProgram α) : TerminalProgram α :=
  (·.1) <$> p.serve (J := Terminal.interface) answerCall none

end Console

end QueryPlans
