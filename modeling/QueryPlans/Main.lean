import QueryPlans.Console.Layout
import QueryPlans.Console.Run
import QueryPlans.Console.Terminal
import QueryPlans.Database.Connector
import QueryPlans.Program.Run
import QueryPlans.Service.Generate

/-!
# The program

The command line with the settings of the process.  Plans are compiled without any connection; the
program itself brings no driver for a database and no client for a model, so that what needs one
ends with the fault that there is none.
-/

namespace QueryPlans.Main

/-- A driver that reaches no database. -/
def noDriver : World Pool.interface Unit := fun s c =>
  let fault : Fault := .raised .driver "no database driver is available"
  match c with
  | .create _ => (.error fault, s)
  | .acquire _ => (.error fault, s)
  | .release _ => (.error fault, s)
  | .execute _ _ => (.error fault, s)
  | .prepare _ _ => (.error fault, s)
  | .fetchPrepared _ _ => (.error fault, s)
  | .fetch _ _ _ => (.error fault, s)
  | .fetchValue _ _ _ => (.error fault, s)
  | .close _ => (.error fault, s)

/-- A client that reaches no service. -/
def noClient : World Service.interface Unit := fun s c =>
  let fault : Fault := .raised .connectFailed "no connection to a model is available"
  match c with
  | .complete _ => (.error fault, s)
  | .converse _ => (.error fault, s)
  | .post _ _ => (.error fault, s)
  | .close => (.ok (), s)

/-- Where the sessions of the process lead. -/
def surroundings (o : Origin) : Target × Provider :=
  match (Console.settingsOf o).bind (Session.ofSettings · o.host) with
  | .ok (target, s) => (target, s.provider)
  | .error _ => default

/-- The answer to a call of a session. -/
def answerSession (o : Origin) (s : Connector) :
    (c : Session.Call) → Except Fault c.Value × Connector
  | .database c => ((Connector.answer (surroundings o).1 s c).run noDriver ()).value
  | .model c => ((Provider.answer (surroundings o).2 c).run noClient ()).value |> (·, s)

/-- Why a file cannot be read. -/
def reason : IO.Error → String
  | .noFileOrDirectory .. => "No such file or directory"
  | .permissionDenied .. => "Permission denied"
  | .inappropriateType .. => "Is a directory"
  | e => toString e

/-- All lines of the standard input. -/
partial def readLines (input : IO.FS.Stream) (lines : List String) : IO (List String) := do
  let line ← input.getLine
  if line.isEmpty then return lines.reverse
  else readLines input (line :: lines)

/-- The text of a file, or of the standard input for `-`. -/
def readFile (file : String) : IO (Except String String) := do
  if file = "-" then
    return .ok (String.join (← readLines (← IO.getStdin) []))
  else
    try
      return .ok (← IO.FS.readFile file)
    catch e => return .error (reason e)

/-- Print a display on the standard output. -/
def print (d : Display) : IO (Except Fault Unit) := do
  match d.encode with
  | .error f => return .error f
  | .ok text =>
    try
      IO.print text
      return .ok ()
    catch e => return .error (.raised .system (toString e))

/-- Carry out a program on the terminal. -/
def perform {α : Type} (o : Origin) : TerminalProgram α → Connector → IO α
  | .done a, _ => return a
  | .note _ rest, s => perform o rest s
  | .ask (.display d) next, s => do
    perform o (next (← print d)) s
  | .ask (.read file) next, s => do
    perform o (next (← readFile file)) s
  | .ask (.session c) next, s =>
    let (r, s) := answerSession o s c
    perform o (next r) s

/-- The variables of the process that settings are read from. -/
def readOrigin : IO Origin := do
  let environment ← Origin.variableNames.filterMapM fun name => do
    return (← IO.getEnv name).map fun value => (name, value)
  let file ← try pure (some (← IO.FS.readFile ".env")) catch _ => pure none
  return { environment, file, host := { reports := .listed } }

/-- The lines of a chat: they are read before it begins. -/
def readInputs (words : List String) : IO (List Console.Input) := do
  if CommandLine.asksToChat words then
    return (← readLines (← IO.getStdin) []).map .line
  else return []

end QueryPlans.Main

/-- Run the command line. -/
def main (words : List String) : IO UInt32 := do
  let o ← QueryPlans.Main.readOrigin
  let inputs ← QueryPlans.Main.readInputs words
  let program := QueryPlans.Console.onTerminal (QueryPlans.Console.run o inputs words)
  let ending ← QueryPlans.Main.perform o program {}
  match ending with
  | .told t => IO.print t.output
  | .uncaught f => (← IO.getStderr).putStrLn f.message
  | _ => pure ()
  return ending.exitCode.toUInt32
