import QueryPlans.Console.Call
import QueryPlans.Text.Blank
import QueryPlans.Text.Case

/-!
# Chats

A chat answers the lines of its input one after the other, until a line asks to leave or the input
ends.  A question that fails does not end the chat.

* `Console.Line.ofText` — what a line asks for.
* `Console.answer` — the answer to a question, shown.
* `Console.converse` — the answers to all lines; `Console.chat` — between connecting and closing.
-/

namespace QueryPlans.Console

/-- What comes from the prompt. -/
inductive Input where
  | line (text : String)
  | interrupt
  deriving DecidableEq, Repr, Inhabited

/-- What a line asks for. -/
inductive Line where
  | blank
  | leave
  | question (text : String)
  deriving DecidableEq, Repr, Inhabited

namespace Line

def leaveWords : List String := ["exit", "quit", "q", ":q"]

/-- What a line asks for; blanks around it and the case of its letters do not matter to that. -/
def ofText (text : String) : Line :=
  let trimmed := Text.strip text
  if trimmed = "" then blank
  else if leaveWords.contains (Text.lower trimmed) then leave
  else question trimmed

end Line

/-- The first thing that is shown. -/
def banner (table : String) : Display :=
  .panel (Markup.styled "bold green" "QueryPilot" ++ " on " ++ Markup.styled "bold" table ++
    "\nAsk questions in natural language, say 'next page' or 'previous page' to paginate. " ++
    "Type 'exit' or 'quit' to leave.") none "green" false

def promptMarkup : String := Markup.styled "bold cyan" "You:" ++ " "

def farewell : String := Markup.styled "yellow" "Goodbye!"

/-- What is shown of a chat that could not be held. -/
def openingFailure (f : Failure) : List Display :=
  [.line (Markup.styled "red" ("Failed to start session: " ++ Markup.escape f.message))]

/-- Handle a result: a failure is shown, but a cancellation comes through, and so does a failure to show. -/
def handle (r : Except Failure Unit) : ConsoleProgram (Except Failure Unit) :=
  match r with
  | .ok () => return .ok ()
  | .error f => if f.isOrdinary then showAll f.displays else return .error f

/-- Ask the session and show the outcome. -/
def askAndShow (s : Session) (status table question : String) :
    ConsoleProgram (Except Failure Unit) := do
  match ← display (.status (Markup.styled "cyan" status)) with
  | .error f => return .error f
  | .ok () =>
    match ← call (.ask s table question) with
    | .error f => return .error f
    | .ok outcome => report outcome.shown

/-- Answer a question of a chat. -/
def answer (s : Session) (table question : String) : ConsoleProgram (Except Failure Unit) := do
  handle (← askAndShow s "Processing..." table question)

/-- The end of a chat whose input ends. -/
def endOfInput : ConsoleProgram (Except Failure Unit) := display (.line ("\n" ++ farewell))

/-- Go on behind the prompt, if that can be shown. -/
def atPrompt (next : ConsoleProgram (Except Failure Unit)) : ConsoleProgram (Except Failure Unit) := do
  match ← display (.prompt promptMarkup) with
  | .error f => return .error f
  | .ok () => next

/-- Go on with the rest if a question was answered. -/
def unlessBroken (answered rest : ConsoleProgram (Except Failure Unit)) :
    ConsoleProgram (Except Failure Unit) := do
  match ← answered with
  | .error f => return .error f
  | .ok () => rest

def converse (s : Session) (table : String) : List Input → ConsoleProgram (Except Failure Unit)
  | [] => atPrompt endOfInput
  | .interrupt :: _ => atPrompt endOfInput
  | .line text :: rest => atPrompt (
      match Line.ofText text with
      | .blank => converse s table rest
      | .leave => display (.line farewell)
      | .question question => unlessBroken (answer s table question) (converse s table rest))

def chat (s : Session) (table : String) (inputs : List Input) :
    ConsoleProgram (Except Failure Unit) :=
  between (call .close) (converse s table inputs)

end QueryPlans.Console
