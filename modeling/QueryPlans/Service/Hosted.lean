import QueryPlans.Service.Basic

/-!
# Hosted services

* `Service.completionParameters`, `Service.decodeCompletion` — the service that completes chats: the
  system prompts travel among the turns, and a JSON object can be asked for.
* `Service.conversationParameters`, `Service.decodeConversation` — the service that continues
  conversations: the system prompt travels apart, and only blocks of text are read.
* `Service.complete`, `Service.converse` — one request to each; faults of a service are noted.
-/

namespace QueryPlans.Service

/-- The parameter that asks for a JSON object. -/
def jsonObjectFormat (wanted : Bool) : Json.Fields :=
  if wanted then [("response_format", .obj [("type", .str "json_object")])] else []

def completionParameters (p : Provider) (r : Chat.Request) : Json.Fields :=
  [("model", .str p.model), ("messages", turns r.messages), ("temperature", .float p.temperature),
    ("max_tokens", .int p.maxTokens)] ++ jsonObjectFormat r.jsonOutput

def completionFinish : Option Json → Chat.Finish
  | some (.str "length") => .length
  | some (.str "content_filter") => .contentFilter
  | _ => .stop

/-- The first choice of a completion. -/
def firstChoice (completion : Json.Fields) : Except Fault Json.Fields :=
  match completion.get? "choices" with
  | some (.arr (choice :: _)) => fields choice
  | some (.arr []) => .error (.raised .badIndex "list index out of range")
  | v => .error (lacking "choices" (v.getD .null))

/-- The accounting of a completion: nothing if none is given. -/
def completionUsage (completion : Json.Fields) : Except Fault Json.Fields :=
  match presentOr .null (completion.get? "usage") with
  | .null => .ok []
  | v => fields v

def decodeCompletion (p : Provider) (v : Json) : Except Fault Chat.Response := do
  let completion ← fields v
  let choice ← firstChoice completion
  let usage ← completionUsage completion
  let message ← fields ((choice.get? "message").getD .null)
  respond p (presentOr (.str "") (message.get? "content"))
    ((completion.get? "model").getD .null) usage (completionFinish (choice.get? "finish_reason"))

def conversationParameters (p : Provider) (r : Chat.Request) : Json.Fields :=
  [("model", .str p.model), ("max_tokens", .int p.maxTokens), ("temperature", .float p.temperature),
    ("messages", turns r.chatTurns)] ++
  match r.system? with
  | some s => if s = "" then [] else [("system", .str s)]
  | none => []

def isText (block : Json) : Bool :=
  match block.field? "type" with
  | some (.str word) => word == "text"
  | _ => false

/-- What a block holds as its text. -/
def blockText (block : Json) : Except Fault Json :=
  match block.field? "text" with
  | some v => .ok v
  | none => .error (lacking "text" block)

def textPart : Json → Except Fault String
  | .str s => .ok s
  | v => .error (.raised .badType ("expected text, " ++ Plan.kindName v ++ " found"))

/-- The texts of the blocks that hold text. -/
def blockTexts (blocks : List Json) : Except Fault (List String) := do
  let parts ← (blocks.filter isText).mapM blockText
  parts.mapM textPart

def conversationFinish : Option Json → Chat.Finish
  | some (.str "max_tokens") => .length
  | _ => .stop

def decodeConversation (p : Provider) (v : Json) : Except Fault Chat.Response := do
  let message ← fields v
  let blocks := match message.get? "content" with
    | some (.arr blocks) => blocks
    | _ => []
  let content ← blockTexts blocks
  let usage ← fields ((message.get? "usage").getD .null)
  let tokens (name : String) := (usage.get? name).getD .null
  respond p (.str (Text.joined "" content)) ((message.get? "model").getD .null)
    (usageFields (tokens "input_tokens") (tokens "output_tokens"))
    (conversationFinish (message.get? "stop_reason"))

/-- Where the entries of the log come from. -/
def logSource (name : ProviderName) : String := "querypilot.llm." ++ name.name

/-- Note a fault of the service that completes chats. -/
def noteCompletion (p : Provider) (f : Fault) : ServiceProgram Unit :=
  if f.isOneOf [.apiTimeout] then
    Program.log .error (logSource .openai)
      ("OpenAI request timed out after " ++ Numeral.text p.timeout ++ "s: " ++ f.message)
  else if f.isApi then
    Program.log .error (logSource .openai) ("OpenAI API error: " ++ f.message)
  else return ()

/-- Note a fault of the service that continues conversations. -/
def noteConversation (f : Fault) : ServiceProgram Unit :=
  if f.isApi then
    Program.log .error (logSource .anthropic) ("Anthropic API error: " ++ f.message)
  else return ()

/-- One request to the service that completes chats. -/
def complete (p : Provider) (r : Chat.Request) : ServiceProgram (Except Fault Chat.Response) := do
  match ← call (.complete (completionParameters p r)) with
  | .ok v => return decodeCompletion p v
  | .error f =>
    noteCompletion p f
    return .error f

/-- One request to the service that continues conversations. -/
def converse (p : Provider) (r : Chat.Request) : ServiceProgram (Except Fault Chat.Response) := do
  match ← call (.converse (conversationParameters p r)) with
  | .ok v => return decodeConversation p v
  | .error f =>
    noteConversation f
    return .error f

end QueryPlans.Service
