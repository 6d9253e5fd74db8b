import QueryPlans.Chat.Model
import QueryPlans.Service.Http

/-!
# Services that run models

* `Service.Call` — a call on a hosted service or on a server nearby; `Service.interface` with the
  answers.
* `Service.respond` — a response of parts that a service gave: the accounting is checked first,
  then the rest.
* `Service.fields`, `Service.presentOr` — parts of what a service gave.
-/

namespace QueryPlans

namespace Service

/-- A call on a service. -/
inductive Call where
  /-- A completion of a chat. -/
  | complete (parameters : Json.Fields)
  /-- The next message of a conversation. -/
  | converse (parameters : Json.Fields)
  | post (url : String) (payload : Json.Fields)
  | close

/-- The type of the value that a call gives. -/
abbrev Call.Value : Call → Type
  | complete _ => Json
  | converse _ => Json
  | post _ _ => Http.Reply
  | close => Unit

/-- Every call is answered with its value or with a fault. -/
def interface : Interface := ⟨Call, fun c => Except Fault c.Value⟩

def call (c : Call) : Program interface (Except Fault c.Value) := Program.ask c .done

/-- The fault of a value that lacks something. -/
def lacking (name : String) (v : Json) : Fault :=
  .raised .noAttribute
    (Text.quote (Plan.kindName v) ++ " object has no attribute " ++ Text.quote name)

/-- The fields of an object; another value has none to ask for. -/
def fields : Json → Except Fault Json.Fields
  | .obj fields => .ok fields
  | v => .error (lacking "get" v)

/-- A value that counts as present, or the default. -/
def presentOr (default : Json) (v : Option Json) : Json := (v.filter Json.isTruthy).getD default

def usageFields (prompt completion : Json) : Json.Fields :=
  [("prompt_tokens", prompt), ("completion_tokens", completion)]

def respond (p : Provider) (content model : Json) (usage : Json.Fields) (finish : Chat.Finish) :
    Except Fault Chat.Response := do
  let usage ← p.reports.check "LLMUsage" usage Chat.Usage.ofFields
  let response ← p.reports.check "LLMResponse" [("content", content), ("model", model),
    ("provider", .str p.name.name), ("finish_reason", .str finish.name)] Chat.Response.ofFields
  return { response with usage }

/-- The turns of a chat as a list of objects. -/
def turns (messages : List Chat.Message) : Json := .arr (messages.map (·.toJson))

end Service

/-- A program that calls on a service. -/
abbrev ServiceProgram := Program Service.interface

end QueryPlans
