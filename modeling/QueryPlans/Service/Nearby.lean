import QueryPlans.Service.Hosted

/-!
# A server nearby

The server has two endpoints.  The one for chats is asked first; the other, which takes and gives
what the hosted completions do, is asked when the first cannot be reached or reports no success.

* `Service.chatPayload`, `Service.decodeChat` — the endpoint for chats.
* `Service.completionParameters`, `Service.decodeServed` — the endpoint for completions.  What a
  server leaves out counts as empty.
* `Service.askNearby` — one request to the server.
-/

namespace QueryPlans.Service

/-- The path of the endpoint for chats. -/
def chatPath : String := "/api/chat"

/-- The path of the endpoint for completions. -/
def completionPath : String := "/v1/chat/completions"

/-- What is sent to the endpoint for chats. -/
def chatPayload (p : Provider) (r : Chat.Request) : Json.Fields :=
  [("model", .str p.model), ("messages", turns r.messages), ("stream", .bool false),
    ("options", .obj [("temperature", .float p.temperature), ("num_predict", .int p.maxTokens)])] ++
  if r.jsonOutput then [("format", .str "json")] else []

/-- The content of the message in an object. -/
def messageContent (holder : Json.Fields) : Except Fault Json := do
  let message ← fields ((holder.get? "message").getD (.obj []))
  return presentOr (.str "") (message.get? "content")

/-- A word says that a model wrote as much as it may. -/
def finishOfWord : Option Json → Chat.Finish
  | some (.str "length") => .length
  | _ => .stop

/-- The model that a server names, or the one it was asked for. -/
def servedModel (p : Provider) (data : Json.Fields) : Json :=
  (data.get? "model").getD (.str p.model)

/-- The response of the endpoint for chats. -/
def decodeChat (p : Provider) (v : Json) : Except Fault Chat.Response := do
  let data ← fields v
  let content ← messageContent data
  respond p content (servedModel p data)
    (usageFields (presentOr (.int 0) (data.get? "prompt_eval_count"))
      (presentOr (.int 0) (data.get? "eval_count")))
    (finishOfWord (data.get? "done_reason"))

/-- The first choice that a server gives; nothing is said in none. -/
def servedChoice (data : Json.Fields) : Except Fault Json :=
  match presentOr (.arr [.obj []]) (data.get? "choices") with
  | .arr (choice :: _) => .ok choice
  | .str s => .ok (.str (Text.take 1 s))
  | .obj _ => .error (.raised .badKey "0")
  | v => .error (.raised .badType (Text.quote (Plan.kindName v) ++ " object is not subscriptable"))

/-- The response of the endpoint for completions. -/
def decodeServed (p : Provider) (v : Json) : Except Fault Chat.Response := do
  let data ← fields v
  let choice ← servedChoice data
  let choice ← fields choice
  let content ← messageContent choice
  let usage ← fields (presentOr (.obj []) (data.get? "usage"))
  let tokens (name : String) := (usage.get? name).getD (.int 0)
  respond p content (servedModel p data)
    (usageFields (tokens "prompt_tokens") (tokens "completion_tokens"))
    (finishOfWord (choice.get? "finish_reason"))

/-- Post to a path of the server and read the value in its reply. -/
def post (p : Provider) (path : String) (payload : Json.Fields) :
    ServiceProgram (Except Fault Json) := do
  let url := p.baseUrl.getD "" ++ path
  match ← call (.post url payload) with
  | .error f => return .error f
  | .ok reply => return reply.json url

/-- One request to the endpoint for chats. -/
def askChat (p : Provider) (r : Chat.Request) : ServiceProgram (Except Fault Chat.Response) := do
  return (← post p chatPath (chatPayload p r)).bind (decodeChat p)

/-- One request to the endpoint for completions. -/
def askCompletion (p : Provider) (r : Chat.Request) :
    ServiceProgram (Except Fault Chat.Response) := do
  return (← post p completionPath (completionParameters p r)).bind (decodeServed p)

/-- One request to the server: to the second endpoint if the first is of no use. -/
def askNearby (p : Provider) (r : Chat.Request) : ServiceProgram (Except Fault Chat.Response) := do
  match ← askChat p r with
  | .ok response => return .ok response
  | .error f => if f.isHttp then askCompletion p r else return .error f

end QueryPlans.Service
