import QueryPlans.Chat.Message
import QueryPlans.Chat.Provider
import QueryPlans.Fault
import QueryPlans.Program.Basic

/-!
# Calls on a model

* `Chat.Call` — the calls that a model answers; `Chat.interface` with their answers.
* `Chat.generateText` — the text for one prompt; a text that was cut short is noted.
-/

namespace QueryPlans

namespace Chat

/-- A call on a model. -/
inductive Call where
  | generate (request : Request)
  | close
  deriving DecidableEq, Repr

/-- The type of the value that a call gives. -/
abbrev Call.Value : Call → Type
  | generate _ => Response
  | close => Unit

/-- Every call is answered with its value or with a fault. -/
def interface : Interface := ⟨Call, fun c => Except Fault c.Value⟩

def call (c : Call) : Program interface (Except Fault c.Value) := Program.ask c .done

/-- Where entries of the log come from. -/
def logSource : String := "querypilot.llm.base"

/-- The entry of the log for a text that was cut short. -/
def truncationNote (p : Provider) : String :=
  p.name.name ++ " reply stopped at max_tokens (" ++ Numeral.text p.maxTokens ++ ")"

end Chat

/-- A program that calls on a model. -/
abbrev ChatProgram := Program Chat.interface

def Chat.textOf (p : Provider) (r : Chat.Response) : ChatProgram String := do
  if r.isTruncated then Program.log .warning Chat.logSource (Chat.truncationNote p)
  return r.content

/-- The text for one prompt, perhaps after a system prompt. -/
def Chat.generateText (p : Provider) (prompt : String) (system : Option String)
    (jsonOutput : Bool) : ChatProgram (Except Fault String) := do
  match Chat.Request.ofPrompt prompt system jsonOutput with
  | .invalid issues =>
    -- only the user's prompt may be empty
    let given := (Chat.Message.mk .user prompt).toJson
    return .error (.invalid issues (p.reports.text "LLMMessage" given issues))
  | .valid request =>
    match ← Chat.call (.generate request) with
    | .error f => return .error f
    | .ok r => return .ok (← Chat.textOf p r)

end QueryPlans
