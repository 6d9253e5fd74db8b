import QueryPlans.Validation.Reader

/-!
# Exchanges with a model

* `Role`, `Message`, `Request` — what is sent: at least one message, each with some text.
* `Finish`, `Usage`, `Response` — what comes back, with its accounting.
* `Request.system?`, `Request.chatTurns` — the request taken apart into system prompt and turns.
* `Message.make`, `Request.make`, `Response.make` — checked constructors.
* `Request.ofPrompt` — the request of one user prompt and perhaps a system prompt.
-/

namespace QueryPlans.Chat

/-- Who speaks. -/
inductive Role where
  | system
  | user
  | assistant
  deriving DecidableEq, Repr, Inhabited

def Role.name : Role → String
  | system => "system"
  | user => "user"
  | assistant => "assistant"

def Role.options : List (String × Role) :=
  [("system", .system), ("user", .user), ("assistant", .assistant)]

/-- One turn of a chat. -/
structure Message where
  role : Role
  content : String
  deriving DecidableEq, Repr, Inhabited

def Message.toJson (m : Message) : Json :=
  .obj [("role", .str m.role.name), ("content", .str m.content)]

/-- A request to a model. -/
structure Request where
  messages : List Message
  /-- Ask for a single JSON object, where the model can be asked for that. -/
  jsonOutput : Bool := false
  deriving DecidableEq, Repr, Inhabited

namespace Request

/-- The system prompts, with a blank line between them. -/
def system? (r : Request) : Option String :=
  match (r.messages.filter (·.role == .system)).map (·.content) with
  | [] => none
  | prompts => some (Text.joined "\n\n" prompts)

/-- The turns that are not system prompts. -/
def chatTurns (r : Request) : List Message := r.messages.filter (·.role != .system)

end Request

/-- Why a model stopped. -/
inductive Finish where
  | stop
  | length
  | contentFilter
  deriving DecidableEq, Repr, Inhabited

/-- The word of a reason to stop. -/
def Finish.name : Finish → String
  | stop => "stop"
  | length => "length"
  | contentFilter => "content_filter"

/-- The reasons to stop by their words. -/
def Finish.options : List (String × Finish) :=
  [("stop", .stop), ("length", .length), ("content_filter", .contentFilter)]

/-- Tokens read and written. -/
structure Usage where
  promptTokens : Int := 0
  completionTokens : Int := 0
  deriving DecidableEq, Repr, Inhabited

def Usage.totalTokens (u : Usage) : Int := u.promptTokens + u.completionTokens

/-- A model's answer. -/
structure Response where
  content : String
  model : String
  provider : String
  usage : Usage := {}
  finish : Finish := .stop
  deriving DecidableEq, Repr, Inhabited

/-- The model stopped because it had written as much as it may. -/
def Response.isTruncated (r : Response) : Bool := r.finish == .length

/-! ## Checked construction -/

/-- A message from the fields of an object. -/
def Message.ofFields (fields : Json.Fields) : Checked Message :=
  Message.mk
    <$> Reader.required fields "role" (Reader.oneOf Role.options)
    <*> Reader.required fields "content" (Reader.textOfAtLeast 1)

def Message.read : Reader Message := Reader.model "LLMMessage" Message.ofFields

def readMessages : Reader (List Message) := fun v =>
  (Reader.listOf Message.read v).andThen fun messages =>
    if messages = [] then .issue (.listTooShort 1 0) else .valid messages

/-- A request from the fields of an object. -/
def Request.ofFields (fields : Json.Fields) : Checked Request :=
  Request.mk
    <$> Reader.required fields "messages" readMessages
    <*> Reader.optional fields "json_output" false Reader.boolean

/-- Accounting from the fields of an object. -/
def Usage.ofFields (fields : Json.Fields) : Checked Usage :=
  let tokens (name : String) := Reader.optional fields name 0 (Reader.atLeast 0 Reader.integer)
  Usage.mk <$> tokens "prompt_tokens" <*> tokens "completion_tokens"

def Usage.read : Reader Usage := Reader.model "LLMUsage" Usage.ofFields

/-- A response from the fields of an object. -/
def Response.ofFields (fields : Json.Fields) : Checked Response :=
  Response.mk
    <$> Reader.required fields "content" Reader.text
    <*> Reader.required fields "model" Reader.text
    <*> Reader.required fields "provider" Reader.text
    <*> Reader.optional fields "usage" {} Usage.read
    <*> Reader.optional fields "finish_reason" .stop (Reader.oneOf Finish.options)

def Message.make (role : Role) (content : String) : Checked Message :=
  Message.ofFields [("role", .str role.name), ("content", .str content)]

/-- The request of one user prompt, after a system prompt if there is one. -/
def Request.ofPrompt (prompt : String) (system : Option String) (jsonOutput : Bool) :
    Checked Request :=
  let user := Message.make .user prompt
  match system.filter (· != "") with
  | none => user.map fun u => ⟨[u], jsonOutput⟩
  | some s =>
    (Message.make .system s).andThen fun s => user.map fun u => ⟨[s, u], jsonOutput⟩

end QueryPlans.Chat
