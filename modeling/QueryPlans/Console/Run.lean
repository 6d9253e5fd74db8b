import QueryPlans.Console.Chat
import QueryPlans.Console.Compile
import QueryPlans.Session.Open
import QueryPlans.Text.LineEnd

/-!
# Runs of the command line

* `Console.runCompile`, `Console.runSchema`, `Console.runAsk`, `Console.runChat` — the commands.
* `Console.run` — the command line as a whole.  What stands before the command counts first, then
  the settings if the log is wanted, then what stands behind the command.
-/

namespace QueryPlans.Console

open CommandLine

def settingsOf (o : Origin) : Except Failure Settings :=
  (Settings.recall none o).mapError (·.toFailure o.host.reports)

/-- End with a failure of a compilation: only errors of the plan are shown. -/
def endCompile (f : Failure) : ConsoleProgram Ending :=
  if f.isPlanError then endShowing f.displays else return .uncaught f

/-- Compile the plan in a text. -/
def runCompile (o : Origin) (text : String) : ConsoleProgram Ending := do
  match ← report (compile (Text.unifyLineEnds text) o.host) with
  | .ok () => return .finished
  | .error f => endCompile f

/-- The text of a table, read while connected. -/
def describe (o : Origin) (table : String) : ConsoleProgram (Except Failure String) := do
  match settingsOf o with
  | .error f => return .error f
  | .ok settings =>
    match settings.connection with
    | .error f => return .error f
    | .ok _ =>
      between (call .disconnect) (call (.describe table settings.planner.includeRelatedSchemas))

/-- Show the text of a table. -/
def runSchema (o : Origin) (table : String) : ConsoleProgram Ending := do
  match ← describe o table with
  | .error f => endWith Failure.displays f
  | .ok text => conclude Failure.displays (← display (.text text))

/-- The session that the settings describe. -/
def sessionOf (o : Origin) : Except Failure Session := do
  return (← Session.ofSettings (← settingsOf o) o.host).2

/-- Do something with a session, if there is one. -/
def withSession (s : Except Failure Session)
    (body : Session → ConsoleProgram (Except Failure Unit)) :
    ConsoleProgram (Except Failure Unit) :=
  match s with
  | .error f => return .error f
  | .ok s => body s

def runAsk (o : Origin) (table question : String) : ConsoleProgram Ending := do
  let r ← withSession (sessionOf o) fun s =>
    between (call .close) (askAndShow s "Planning query..." table question)
  conclude Failure.displays r

def runChat (o : Origin) (inputs : List Input) (table : String) : ConsoleProgram Ending := do
  match ← display (banner table) with
  | .error f => return .uncaught f
  | .ok () =>
    let r ← withSession (sessionOf o) fun s => chat s table inputs
    conclude openingFailure r

/-- Go on if the command line is in order. -/
def after (check : Except Told Unit) (next : ConsoleProgram Ending) : ConsoleProgram Ending :=
  match check with
  | .error t => return .told t
  | .ok () => next

/-- Compile the plan in a file, which is read before the rest of the command line is checked. -/
def runFile (o : Origin) (check : Except Told Unit) (file : String) : ConsoleProgram Ending := do
  match ← call (.read file) with
  | .error reason => return .told (refuseFile file reason)
  | .ok text => after check (runCompile o text)

def runRequest (o : Origin) (inputs : List Input) (check : Except Told Unit) :
    Request → ConsoleProgram Ending
  | .compile file => runFile o check file
  | .schema table => after check (runSchema o table)
  | .ask table question => after check (runAsk o table question)
  | .chat table => after check (runChat o inputs table)

/-- Run what stands behind a command. -/
def runWords (o : Origin) (inputs : List Input) (c : Command) (words : List String) :
    ConsoleProgram Ending :=
  match c.read words with
  | .error t => return .told t
  | .ok (request, extra) => runRequest o inputs (c.finish extra) request

/-- The settings for the log, if it is wanted. -/
def configureLog (o : Origin) (verbose : Bool) : Except Failure Unit :=
  if verbose then (settingsOf o).map fun _ => () else .ok ()

def run (o : Origin) (inputs : List Input) (words : List String) : ConsoleProgram Ending :=
  match readGroup words with
  | .error t => return .told t
  | .ok (verbose, rest) =>
    match findCommand rest with
    | .error t => return .told t
    | .ok (c, rest) =>
      match configureLog o verbose with
      | .error f => return .uncaught f
      | .ok () => runWords o inputs c rest

end QueryPlans.Console
