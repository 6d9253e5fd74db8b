import QueryPlans.Chat.Model
import QueryPlans.Plan.Accept
import QueryPlans.Plan.Prompt
import QueryPlans.Schema.Resolve
import QueryPlans.Settings.Planner

/-!
# Sessions

A session answers questions about a table: it describes the table to the model, reads the plan in
the reply, and accepts it.  A question for another page moves the retained plan without the model.

* `Session.Call` — the calls of a session: on the database and on the model.
* `Session.replyTo` — the reply of the model; `Session.noteRejection`, `Session.noteOutcome` — what is
  noted about it.
* `Session.ask`, `Session.navigate` — the answer to a question, with the plan that is retained then.
* `Session.connect`, `Session.close` — the connections of a session.
-/

namespace QueryPlans

namespace Session

/-- A call on the database or on the model. -/
inductive Call where
  | database (c : Database.Call)
  | model (c : Chat.Call)
  deriving DecidableEq, Repr

/-- The type of the value that a call gives. -/
abbrev Call.Value : Call → Type
  | database c => c.Value
  | model c => c.Value

/-- Every call is answered with its value or with a fault. -/
def interface : Interface := ⟨Call, fun c => Except Fault c.Value⟩

end Session

/-- A program that calls on the database and the model. -/
abbrev SessionProgram := Program Session.interface

/-- What stays the same during a session. -/
structure Session where
  settings : PlannerSettings
  provider : Provider
  host : Host := {}
  deriving Repr, Inhabited

namespace Session

/-- Carry out a program that calls on the database alone. -/
def onDatabase {α : Type} (p : DatabaseProgram α) : SessionProgram α :=
  p.interpret (J := Session.interface) fun c =>
    Program.ask (I := Session.interface) (.database c) .done

/-- Carry out a program that calls on the model alone. -/
def onModel {α : Type} (p : ChatProgram α) : SessionProgram α :=
  p.interpret (J := Session.interface) fun c =>
    Program.ask (I := Session.interface) (.model c) .done

/-- Where entries of the log come from. -/
def logSource : String := "querypilot.pipeline.session"

/-- Write an entry to the log. -/
def log (level : LogLevel) (message : String) : SessionProgram Unit :=
  Program.log level logSource message

/-- The text of a table for the model. -/
def schemaText (s : Session) (table : String) : SessionProgram (Except Failure String) :=
  onDatabase (Schema.fetchText table s.settings.includeRelatedSchemas)

/-- The prompt for a question about a table. -/
def promptFor (s : Session) (retained : Retained) (table question : String) :
    SessionProgram (Except Failure String) := do
  match ← s.schemaText table with
  | .error f => return .error f
  | .ok schema =>
    match retained.viewState (some table) s.settings.defaultLimit with
    | .error e => return .error (.ofNumeral e)
    | .ok state => return .ok (Plan.prompt schema state question)

/-- The reply of the model to a prompt about a table. -/
def replyTo (s : Session) (table prompt : String) : SessionProgram (Except Failure String) := do
  log .info ("Requesting query plan for " ++ table)
  match ← onModel (Chat.generateText s.provider prompt (some Plan.systemPrompt)
    s.settings.jsonOutput) with
  | .error f => return .error (.fault f)
  | .ok reply =>
    log .debug "Query plan response received"
    return .ok reply

/-- The plan of a reply with the page size that the settings ask for. -/
def readPlan (s : Session) (reply : String) : Except Failure Plan :=
  ((Plan.read reply s.host).mapError .unreadable).map s.settings.applyTo

/-- The plan of a reply and its statement; a plan that needs other tables has none. -/
def planOf (s : Session) (reply : String) : Except Failure (Plan × Option String) := do
  let p ← s.readPlan reply
  if p.needOtherTables then return (p, none)
  else
    let sql ← p.statement.mapError .ofStatement
    return (p, some sql)

/-- The reply of the model to a question about a table. -/
def replyFor (s : Session) (retained : Retained) (table question : String) :
    SessionProgram (Except Failure String) := do
  match ← s.promptFor retained table question with
  | .error f => return .error f
  | .ok prompt => s.replyTo table prompt

/-- Note that a reply has no usable plan, if that is an error of the plan. -/
def noteRejection (f : Failure) : SessionProgram Unit :=
  match f.planError? with
  | some e => log .error ("Rejected query plan: " ++ e.message)
  | none => return ()

/-- Note what became of a plan, unless it failed. -/
def noteOutcome : Except Failure Outcome → SessionProgram Unit
  | .error _ => return ()
  | .ok o => log .info ("Plan outcome: " ++ o.kind)

/-- Ask the model for a plan and accept it. -/
def planAndAccept (s : Session) (retained : Retained) (table question : String) :
    SessionProgram (Except Failure Outcome × Retained) := do
  match ← s.replyFor retained table question with
  | .error f => return (.error f, retained)
  | .ok reply =>
    match s.planOf reply with
    | .error f =>
      noteRejection f
      return (.error f, retained)
    | .ok (p, sql) =>
      let answered ← onDatabase (retained.accept p sql)
      noteOutcome answered.1
      return answered

/-- Move the retained plan to another page. -/
def navigate (retained : Retained) (direction : Navigation) :
    SessionProgram (Except Failure Outcome × Retained) :=
  onDatabase (retained.navigate direction)

/-- Answer a question about a table. -/
def ask (s : Session) (retained : Retained) (table question : String) :
    SessionProgram (Except Failure Outcome × Retained) :=
  match Navigation.ofRequest? question with
  | some direction => navigate retained direction
  | none => s.planAndAccept retained table question

def connect : SessionProgram (Except Failure Unit) := do
  return (← onDatabase (Database.call .connect)).mapError .fault

/-- Close the connection to the database. -/
def disconnect : SessionProgram (Except Failure Unit) := do
  return (← onDatabase (Database.call .close)).mapError .fault

/-- Close the connection to the database, then that to the model. -/
def close : SessionProgram (Except Failure Unit) := do
  match ← disconnect with
  | .error f => return .error f
  | .ok () => return (← onModel (Chat.call .close)).mapError .fault

end Session

end QueryPlans
