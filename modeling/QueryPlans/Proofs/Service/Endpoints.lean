import Mathlib.Control.Monad.Basic
import QueryPlans.Proofs.Json.Equality
import QueryPlans.Proofs.Program.Trace
import QueryPlans.Service.Generate

/-!
# The two endpoints of a server nearby

Both endpoints answer with the same things under different names.  What the endpoint for chats leaves out or
has as null counts as nothing.  The endpoint for completions keeps its accounting in an object of its own:
there it counts as nothing if it is left out, but a number that is null is refused.

* `Service.TokenCount` — a number of tokens in a reply, or what stands in its place.
* `Service.Answer` — what a server answers; `Answer.response` — the response that it stands for.
* `Answer.InChat`, `Answer.InCompletion` — objects of the two endpoints that carry an answer.
* `Service.CameFromChat`, `Service.CameFromCompletion` — exchanges in which an object was replied.

Principal results: `decodeChat_eq`, `decodeServed_eq` — what is made of the two objects;
`endpoints_agree_iff` — when they come to the same; `null_count_is_refused` — when they do not.
-/

namespace QueryPlans.Service

/-- A number of tokens in a reply, or what stands in its place. -/
inductive TokenCount where
  | given (n : Nat)
  | null
  | absent
  deriving DecidableEq

namespace TokenCount

/-- What a reply has for the number. -/
def value? : TokenCount → Option Json
  | given n => some (.int n)
  | null => some .null
  | absent => none

/-- The tokens that are counted. -/
def tokens : TokenCount → Nat
  | given n => n
  | null => 0
  | absent => 0

/-- The issue with a number that is null. -/
def issues (name : String) : TokenCount → List Issue
  | null => [⟨[.field name], .integerExpected⟩]
  | _ => []

/-- What a reader makes of the number, where zero stands for one that is left out. -/
def checked (name : String) (count : TokenCount) : Checked Int :=
  if count = null then .invalid (count.issues name) else .valid count.tokens

end TokenCount

/-- What a server answers. -/
structure Answer where
  text : String
  prompt : TokenCount
  completion : TokenCount
  model : Option String
  /-- The model had written as much as it may. -/
  isCut : Bool

variable {p : Provider} {r : Chat.Request} {a : Answer} {data : Json.Fields}
  {es : List (Event interface)} {v : Except Fault Chat.Response}

namespace Answer

/-- The response that an answer stands for. -/
def response (p : Provider) (a : Answer) : Chat.Response where
  content := a.text
  model := a.model.getD p.model
  provider := p.name.name
  usage := ⟨a.prompt.tokens, a.completion.tokens⟩
  finish := if a.isCut then .length else .stop

/-- The issues with numbers that are null. -/
def issues (a : Answer) : List Issue :=
  a.prompt.issues "prompt_tokens" ++ a.completion.issues "completion_tokens"

/-- An object with a message of the text. -/
def InMessage (a : Answer) (holder : Json.Fields) : Prop :=
  ∃ message : Json.Fields, holder.get? "message" = some (.obj message) ∧
    message.get? "content" = some (.str a.text)

/-- An object of the endpoint for chats that carries the answer. -/
structure InChat (a : Answer) (data : Json.Fields) : Prop where
  message : a.InMessage data
  model : data.get? "model" = a.model.map .str
  prompt : data.get? "prompt_eval_count" = a.prompt.value?
  completion : data.get? "eval_count" = a.completion.value?
  finish : a.isCut = true ↔ data.get? "done_reason" = some (.str "length")

/-- The accounting of an answer: an object, or nothing if there are no numbers. -/
inductive InUsage (a : Answer) : Option Json → Prop
  | absent (hprompt : a.prompt = .absent) (hcompletion : a.completion = .absent) : InUsage a none
  | null (hprompt : a.prompt = .absent) (hcompletion : a.completion = .absent) : InUsage a (some .null)
  | fields {usage : Json.Fields} (hprompt : usage.get? "prompt_tokens" = a.prompt.value?)
      (hcompletion : usage.get? "completion_tokens" = a.completion.value?) :
      InUsage a (some (.obj usage))

/-- An object of the endpoint for completions that carries the answer in its first choice. -/
structure InCompletion (a : Answer) (data : Json.Fields) : Prop where
  choice : ∃ (choice : Json.Fields) (others : List Json),
    data.get? "choices" = some (.arr (.obj choice :: others)) ∧
    a.InMessage choice ∧ (a.isCut = true ↔ choice.get? "finish_reason" = some (.str "length"))
  model : data.get? "model" = a.model.map .str
  usage : a.InUsage (data.get? "usage")

end Answer

/-! ## Parts of a reply -/

@[simp] theorem fields_obj (data : Json.Fields) : fields (.obj data) = .ok data := rfl

theorem presentOr_some (default v : Json) :
    presentOr default (some v) = if v.isTruthy then v else default := by
  unfold presentOr
  rw [Option.filter_some]
  split <;> rfl

theorem presentOr_text (s : String) : presentOr (.str "") (some (.str s)) = .str s := by
  rw [presentOr_some]
  by_cases h : s = ""
  · subst h
    rfl
  · exact if_pos (by simpa [Json.isTruthy] using h)

/-- Null and what is left out count as nothing. -/
theorem presentOr_tokens (count : TokenCount) :
    presentOr (.int 0) count.value? = .int count.tokens := by
  cases count with
  | given n =>
    rw [TokenCount.value?, presentOr_some]
    by_cases h : n = 0
    · subst h
      rfl
    · exact if_pos (by simpa [Json.isTruthy] using h)
  | null => rfl
  | absent => rfl

theorem messageContent_eq {holder : Json.Fields} (h : a.InMessage holder) :
    messageContent holder = .ok (.str a.text) := by
  obtain ⟨message, hmessage, hcontent⟩ := h
  unfold messageContent
  rw [hmessage, ← presentOr_text a.text, ← hcontent]
  rfl

theorem servedModel_eq (h : data.get? "model" = a.model.map .str) :
    servedModel p data = .str (a.response p).model := by
  unfold servedModel Answer.response
  rw [h]
  cases a.model <;> rfl

theorem finishOfWord_eq {word : Option Json} (h : a.isCut = true ↔ word = some (.str "length")) :
    finishOfWord word = (a.response p).finish := by
  unfold Answer.response
  by_cases hcut : a.isCut = true
  · rw [h.1 hcut, if_pos hcut]
    rfl
  · have hword := mt h.2 hcut
    rw [if_neg hcut]
    unfold finishOfWord
    split
    · exact absurd rfl hword
    · rfl

/-! ## Responses -/

theorem respond_of_valid {usage : Json.Fields} {u : Chat.Usage} (hu : Chat.Usage.ofFields usage = .valid u)
    (content model : String) (finish : Chat.Finish) :
    respond p (.str content) (.str model) usage finish =
      .ok { content, model, provider := p.name.name, usage := u, finish } := by
  unfold respond Reports.check
  rw [hu]
  cases finish <;> rfl

theorem respond_of_invalid {usage : Json.Fields} {issues : List Issue}
    (hu : Chat.Usage.ofFields usage = .invalid issues) (content model : Json) (finish : Chat.Finish) :
    respond p content model usage finish =
      .error (.invalid issues (p.reports.text "LLMUsage" (.obj usage) issues)) := by
  unfold respond Reports.check
  rw [hu]
  rfl

theorem atLeast_zero_int (n : Nat) : Reader.atLeast 0 Reader.integer (.int n) = .valid (n : Int) := by
  unfold Reader.atLeast Reader.integer Checked.andThen
  exact if_neg (by omega)

/-- A number of an accounting is read, unless it is null. -/
theorem optional_count {usage : Json.Fields} {name : String} {count : TokenCount}
    (h : usage.get? name = some (count.value?.getD (.int 0))) :
    Reader.optional usage name 0 (Reader.atLeast 0 Reader.integer) = count.checked name := by
  unfold Reader.optional
  rw [h]
  cases count with
  | given n => exact congrArg (Checked.under (.field name)) (atLeast_zero_int n)
  | null => rfl
  | absent => rfl

/-- An accounting is read, unless it has a number that is null. -/
theorem ofFields_counts (m n : TokenCount) :
    Chat.Usage.ofFields (usageFields (m.value?.getD (.int 0)) (n.value?.getD (.int 0))) =
      if m = .null ∨ n = .null then
        .invalid (m.issues "prompt_tokens" ++ n.issues "completion_tokens")
      else .valid ⟨m.tokens, n.tokens⟩ := by
  have hprompt : Json.Fields.get? (usageFields (m.value?.getD (.int 0)) (n.value?.getD (.int 0)))
      "prompt_tokens" = some (m.value?.getD (.int 0)) := rfl
  have hcompletion : Json.Fields.get? (usageFields (m.value?.getD (.int 0)) (n.value?.getD (.int 0)))
      "completion_tokens" = some (n.value?.getD (.int 0)) := rfl
  unfold Chat.Usage.ofFields
  simp only [optional_count hprompt, optional_count hcompletion]
  cases m <;> cases n <;> rfl

/-- The endpoint for chats: whatever is null or left out of the accounting counts as nothing. -/
theorem decodeChat_eq (h : a.InChat data) : decodeChat p (.obj data) = .ok (a.response p) := by
  -- Nothing null is left when the accounting is read: each number is taken for the one that it counts as.
  have husage : Chat.Usage.ofFields (usageFields (.int a.prompt.tokens) (.int a.completion.tokens)) =
      .valid ⟨a.prompt.tokens, a.completion.tokens⟩ :=
    ofFields_counts (.given a.prompt.tokens) (.given a.completion.tokens)
  have hrespond := respond_of_valid (p := p) husage a.text (a.response p).model (a.response p).finish
  unfold decodeChat
  simp only [fields_obj, bind, Except.bind, messageContent_eq h.message, h.prompt, h.completion,
    presentOr_tokens, servedModel_eq (p := p) h.model, finishOfWord_eq (p := p) h.finish, hrespond]
  rfl

/-- What the accounting of an answer is taken for: an object with the two numbers, as they stand. -/
theorem fields_usage (h : a.InUsage (data.get? "usage")) :
    ∃ usage : Json.Fields, fields (presentOr (.obj []) (data.get? "usage")) = .ok usage ∧
      usage.get? "prompt_tokens" = a.prompt.value? ∧
      usage.get? "completion_tokens" = a.completion.value? := by
  generalize data.get? "usage" = v at h ⊢
  cases h with
  | absent hprompt hcompletion | null hprompt hcompletion =>
    refine ⟨[], rfl, ?_⟩
    rw [hprompt, hcompletion]
    exact ⟨rfl, rfl⟩
  | @fields usage hprompt hcompletion =>
    refine ⟨usage, ?_, hprompt, hcompletion⟩
    rw [presentOr_some]
    cases usage <;> rfl

/-- The fault of an answer whose accounting does not fit: it lists the issues, and reports them as the
library does that checked it. -/
def Answer.misfit (p : Provider) (a : Answer) : Fault :=
  let usage := usageFields (a.prompt.value?.getD (.int 0)) (a.completion.value?.getD (.int 0))
  .invalid a.issues (p.reports.text "LLMUsage" (.obj usage) a.issues)

/-- The endpoint for completions: a number that is null is refused. -/
theorem decodeServed_eq (h : a.InCompletion data) :
    decodeServed p (.obj data) =
      if a.prompt = .null ∨ a.completion = .null then .error (a.misfit p)
      else .ok (a.response p) := by
  obtain ⟨choice, others, hchoices, hmessage, hfinish⟩ := h.choice
  obtain ⟨usage, husage, hprompt, hcompletion⟩ := fields_usage h.usage
  have hchoice : servedChoice data = .ok (.obj choice) := by
    unfold servedChoice
    rw [hchoices]
    rfl
  have hread := ofFields_counts a.prompt a.completion
  unfold decodeServed
  simp only [fields_obj, bind, Except.bind, hchoice, messageContent_eq hmessage, husage, hprompt,
    hcompletion, servedModel_eq (p := p) h.model, finishOfWord_eq (p := p) hfinish]
  by_cases hnull : a.prompt = .null ∨ a.completion = .null
  · rw [if_pos hnull] at hread ⊢
    exact respond_of_invalid hread _ _ _
  · rw [if_neg hnull] at hread ⊢
    exact respond_of_valid hread _ _ _

/-! ## Exchanges with the server -/

/-- Where a path of the server is. -/
def address (p : Provider) (path : String) : String := p.baseUrl.getD "" ++ path

/-- Something was posted to a path of the server, and answered. -/
def posted (p : Provider) (path : String) (payload : Json.Fields) (reply : Except Fault Http.Reply) :
    Event interface :=
  .answered (.post (address p path) payload) reply

/-- What is made of the answer from a path of the server. -/
def outcome (p : Provider) (path : String) (decode : Json → Except Fault Chat.Response)
    (reply : Except Fault Http.Reply) : Except Fault Chat.Response :=
  (reply.bind (·.json (address p path))).bind decode

/-- The endpoint for chats was asked. -/
def chatEvent (p : Provider) (r : Chat.Request) (reply : Except Fault Http.Reply) : Event interface :=
  posted p chatPath (chatPayload p r) reply

/-- The endpoint for completions was asked. -/
def completionEvent (p : Provider) (r : Chat.Request) (reply : Except Fault Http.Reply) :
    Event interface :=
  posted p completionPath (completionParameters p r) reply

def chatOutcome (p : Provider) : Except Fault Http.Reply → Except Fault Chat.Response :=
  outcome p chatPath (decodeChat p)

def completionOutcome (p : Provider) : Except Fault Http.Reply → Except Fault Chat.Response :=
  outcome p completionPath (decodeServed p)

theorem call_trace {c : Call} {reply : Except Fault c.Value} :
    (call c).Trace es reply ↔ es = [.answered c reply] := by
  constructor
  · intro h
    obtain ⟨reply', tail, rfl, hrest⟩ := Program.trace_ask_iff.1 h
    obtain ⟨rfl, rfl⟩ := Program.trace_done_iff.1 hrest
    rfl
  · rintro rfl
    exact .ask _ (.done _)

theorem post_eq (path : String) (payload : Json.Fields) :
    post p path payload =
      (fun reply => reply.bind (·.json (address p path))) <$>
        call (.post (address p path) payload) := by
  rw [map_eq_pure_bind]
  unfold post
  refine congrArg (Program.bind _) (funext fun reply => ?_)
  cases reply <;> rfl

/-- To ask an endpoint is to post something once. -/
theorem exchange_trace {path : String} {payload : Json.Fields}
    {decode : Json → Except Fault Chat.Response} :
    Program.Trace (do return (← post p path payload).bind decode) es v ↔
      ∃ reply, es = [posted p path payload reply] ∧ v = outcome p path decode reply := by
  rw [bind_pure_comp, Program.trace_map_iff, post_eq]
  constructor
  · rintro ⟨json, h, rfl⟩
    obtain ⟨reply, hcall, rfl⟩ := Program.trace_map_iff.1 h
    exact ⟨reply, call_trace.1 hcall, rfl⟩
  · rintro ⟨reply, rfl, rfl⟩
    exact ⟨_, Program.trace_map_iff.2 ⟨reply, call_trace.2 rfl, rfl⟩, rfl⟩

theorem askChat_trace :
    (askChat p r).Trace es v ↔ ∃ reply, es = [chatEvent p r reply] ∧ v = chatOutcome p reply :=
  exchange_trace

theorem askCompletion_trace :
    (askCompletion p r).Trace es v ↔
      ∃ reply, es = [completionEvent p r reply] ∧ v = completionOutcome p reply :=
  exchange_trace

/-- All that a request to the server can come to. The second endpoint is asked after a fault of HTTP. -/
theorem askNearby_trace :
    (askNearby p r).Trace es v ↔ ∃ reply,
      (es = [chatEvent p r reply] ∧ v = chatOutcome p reply ∧
        ∀ f, chatOutcome p reply = .error f → f.isHttp = false) ∨
      ∃ f second, chatOutcome p reply = .error f ∧ f.isHttp = true ∧
        es = [chatEvent p r reply, completionEvent p r second] ∧ v = completionOutcome p second := by
  unfold askNearby
  rw [Program.trace_bind_iff]
  constructor
  -- The first outcome decides whether there is a second request, so it is split before the rest of the trace.
  · rintro ⟨es₁, es₂, first, hfirst, hrest, rfl⟩
    obtain ⟨reply, rfl, hreply⟩ := askChat_trace.1 hfirst
    refine ⟨reply, ?_⟩
    rw [← hreply]
    cases first with
    | ok response =>
      obtain ⟨rfl, rfl⟩ := Program.trace_done_iff.1 hrest
      exact .inl ⟨rfl, rfl, nofun⟩
    | error f =>
      cases hhttp : f.isHttp with
      | true =>
        simp only [hhttp, ↓reduceIte] at hrest
        obtain ⟨second, rfl, rfl⟩ := askCompletion_trace.1 hrest
        exact .inr ⟨f, second, rfl, hhttp, rfl, rfl⟩
      | false =>
        simp only [hhttp] at hrest
        obtain ⟨rfl, rfl⟩ := Program.trace_done_iff.1 hrest
        refine .inl ⟨rfl, rfl, fun g hg => ?_⟩
        cases hg
        exact hhttp
  · rintro ⟨reply, ⟨rfl, rfl, hother⟩ | ⟨f, second, hfault, hhttp, rfl, rfl⟩⟩
    · refine ⟨_, [], _, askChat_trace.2 ⟨reply, rfl, rfl⟩, ?_, rfl⟩
      cases hreply : chatOutcome p reply with
      | ok response => exact .done _
      | error f =>
        simp only [hother f hreply, Bool.false_eq_true, ↓reduceIte]
        exact .done _
    · refine ⟨_, _, _, askChat_trace.2 ⟨reply, rfl, rfl⟩, ?_, rfl⟩
      rw [hfault]
      simp only [hhttp, ↓reduceIte]
      exact askCompletion_trace.2 ⟨second, rfl, rfl⟩

/-- The endpoint for chats replied with the object. -/
def CameFromChat (p : Provider) (r : Chat.Request) (data : Json.Fields) (es : List (Event interface)) :
    Prop :=
  ∃ reply, Http.Reply.json reply (address p chatPath) = .ok (.obj data) ∧
    es = [chatEvent p r (.ok reply)]

/-- The endpoint for chats came to a fault of HTTP, and the one for completions replied with the object. -/
def CameFromCompletion (p : Provider) (r : Chat.Request) (data : Json.Fields)
    (es : List (Event interface)) : Prop :=
  ∃ first f reply, chatOutcome p first = .error f ∧ f.isHttp = true ∧
    Http.Reply.json reply (address p completionPath) = .ok (.obj data) ∧
    es = [chatEvent p r first, completionEvent p r (.ok reply)]

theorem chatOutcome_of_json {reply : Http.Reply} (h : a.InChat data)
    (hjson : reply.json (address p chatPath) = .ok (.obj data)) :
    chatOutcome p (.ok reply) = .ok (a.response p) := by
  rw [← decodeChat_eq h]
  unfold chatOutcome outcome
  rw [Except.bind, hjson]
  rfl

theorem completionOutcome_of_json {reply : Http.Reply}
    (hjson : reply.json (address p completionPath) = .ok (.obj data)) :
    completionOutcome p (.ok reply) = decodeServed p (.obj data) := by
  unfold completionOutcome outcome
  rw [Except.bind, hjson]
  rfl

theorem generate_eq (hname : p.name = .nearby) : p.generate r = askNearby p r := by
  unfold Provider.generate
  rw [hname]

/-- With an answer from the endpoint for chats a request succeeds. -/
theorem generate_of_chat (hname : p.name = .nearby) (h : a.InChat data)
    (hes : CameFromChat p r data es) : (p.generate r).Trace es v ↔ v = .ok (a.response p) := by
  obtain ⟨reply, hjson, rfl⟩ := hes
  have hout := chatOutcome_of_json h hjson
  rw [generate_eq hname, askNearby_trace]
  constructor
  · rintro ⟨reply', ⟨heq, rfl, -⟩ | ⟨f, second, -, -, heq, -⟩⟩
    · cases heq
      exact hout
    · cases heq
  · rintro rfl
    refine ⟨.ok reply, .inl ⟨rfl, hout.symm, fun f hf => ?_⟩⟩
    rw [hout] at hf
    cases hf

/-- With an answer from the endpoint for completions a request comes to what is made of it. -/
theorem generate_of_completion (hname : p.name = .nearby) (hes : CameFromCompletion p r data es) :
    (p.generate r).Trace es v ↔ v = decodeServed p (.obj data) := by
  obtain ⟨first, f, reply, hfault, hhttp, hjson, rfl⟩ := hes
  have hout := completionOutcome_of_json hjson
  rw [generate_eq hname, askNearby_trace]
  constructor
  · rintro ⟨reply', ⟨heq, -, -⟩ | ⟨g, second, -, -, heq, rfl⟩⟩
    · cases heq
    · cases heq
      exact hout
  · rintro rfl
    exact ⟨first, .inr ⟨f, .ok reply, hfault, hhttp, rfl, hout.symm⟩⟩

/-- **The two endpoints.** An object of the endpoint for chats always comes to the response that its answer
stands for, and so does the request that it answers.  An object of the endpoint for completions with the
same answer comes to the same response exactly if neither number of tokens is null; else each null is an
issue, and the request ends in a fault that lists them. -/
theorem endpoints_agree_iff {chat served : Json.Fields} (hchat : a.InChat chat)
    (hserved : a.InCompletion served) :
    decodeChat p (.obj chat) = .ok (a.response p) ∧
    (decodeServed p (.obj served) = decodeChat p (.obj chat) ↔ a.prompt ≠ .null ∧ a.completion ≠ .null) ∧
    (a.prompt = .null ∨ a.completion = .null →
      decodeServed p (.obj served) = .error (a.misfit p)) ∧
    (p.name = .nearby → ∀ r es,
      (CameFromChat p r chat es → ∀ v, (p.generate r).Trace es v ↔ v = .ok (a.response p)) ∧
      (CameFromCompletion p r served es →
        ∀ v, (p.generate r).Trace es v ↔ v = decodeServed p (.obj served))) := by
  have hresponse := decodeChat_eq (p := p) hchat
  have houtcome := decodeServed_eq (p := p) hserved
  refine ⟨hresponse, ?_, fun hnull => ?_, fun hname r es => ⟨fun hes v => ?_, fun hes v => ?_⟩⟩
  · rw [houtcome, hresponse]
    by_cases hnull : a.prompt = .null ∨ a.completion = .null
    · rw [if_pos hnull]
      exact iff_of_false nofun fun h => hnull.elim h.1 h.2
    · rw [if_neg hnull]
      exact iff_of_true rfl (not_or.1 hnull)
  · rw [houtcome, if_pos hnull]
  · exact generate_of_chat hname hchat hes
  · exact generate_of_completion hname hes

/-! ## A server that leaves out a number, and one that has null for it -/

def localServer : Provider :=
  { name := .nearby, model := "llama3.1:8b", baseUrl := some "http://localhost:11434" }

def allRows : Chat.Request := ⟨[⟨.user, "all rows"⟩], false⟩

/-- There is no such endpoint. -/
def notFound : Http.Reply := ⟨404, "\x7b\x7d"⟩

/-- An answer that was cut, without a number of its tokens. -/
def cutAnswer : Answer := ⟨"plan", .given 7, .absent, none, true⟩

def cutChat : Json.Fields :=
  [("message", .obj [("role", .str "assistant"), ("content", .str "plan")]),
    ("done_reason", .str "length"), ("prompt_eval_count", .int 7)]

def cutServed : Json.Fields :=
  [("choices", .arr [.obj [("finish_reason", .str "length"), ("message", .obj [("content", .str "plan")])]]),
    ("usage", .obj [("prompt_tokens", .int 7)])]

def cutChatReply : Http.Reply :=
  ⟨200, "\x7b\"message\": \x7b\"role\": \"assistant\", \"content\": \"plan\"\x7d, " ++
    "\"done_reason\": \"length\", \"prompt_eval_count\": 7\x7d"⟩

def cutServedReply : Http.Reply :=
  ⟨200, "\x7b\"choices\": [\x7b\"finish_reason\": \"length\", \"message\": \x7b\"content\": \"plan\"\x7d\x7d], " ++
    "\"usage\": \x7b\"prompt_tokens\": 7\x7d\x7d"⟩

/-- A number that is left out does no harm. -/
theorem cut_answer_agrees :
    decodeServed localServer (.obj cutServed) = decodeChat localServer (.obj cutChat) ∧
    (localServer.generate allRows).Trace [chatEvent localServer allRows (.ok cutChatReply)]
      (.ok (cutAnswer.response localServer)) ∧
    (localServer.generate allRows).Trace
      [chatEvent localServer allRows (.ok notFound), completionEvent localServer allRows (.ok cutServedReply)]
      (.ok (cutAnswer.response localServer)) := by
  have hchat : cutAnswer.InChat cutChat :=
    ⟨⟨_, rfl, rfl⟩, rfl, rfl, rfl, by decide +kernel⟩
  have hserved : cutAnswer.InCompletion cutServed :=
    ⟨⟨_, _, rfl, ⟨_, rfl, rfl⟩, by decide +kernel⟩, rfl, .fields rfl rfl⟩
  obtain ⟨hresponse, hagree, -, hgenerate⟩ := endpoints_agree_iff (p := localServer) hchat hserved
  have hsame := hagree.2 ⟨by decide, by decide⟩
  refine ⟨hsame, ((hgenerate rfl allRows _).1 ?_ _).2 rfl, ((hgenerate rfl allRows _).2 ?_ _).2 ?_⟩
  · exact ⟨cutChatReply, by decide +kernel, rfl⟩
  · exact ⟨.ok notFound, _, cutServedReply, rfl, by decide +kernel, by decide +kernel, rfl⟩
  · rw [hsame, hresponse]

/-- An answer that has null for a number of its tokens. -/
def nullAnswer : Answer := ⟨"plan", .null, .given 3, some "served", false⟩

def nullChat : Json.Fields :=
  [("model", .str "served"), ("message", .obj [("content", .str "plan")]), ("prompt_eval_count", .null),
    ("eval_count", .int 3)]

def nullServed : Json.Fields :=
  [("model", .str "served"), ("choices", .arr [.obj [("message", .obj [("content", .str "plan")])]]),
    ("usage", .obj [("prompt_tokens", .null), ("completion_tokens", .int 3)])]

def nullServedReply : Http.Reply :=
  ⟨200, "\x7b\"model\": \"served\", \"choices\": [\x7b\"message\": \x7b\"content\": \"plan\"\x7d\x7d], " ++
    "\"usage\": \x7b\"prompt_tokens\": null, \"completion_tokens\": 3\x7d\x7d"⟩

/-- **A number that is null.** The endpoint for chats counts it as nothing.  The endpoint for completions
refuses it, and the request fails although the text is there. -/
theorem null_count_is_refused :
    nullAnswer.InChat nullChat ∧ nullAnswer.InCompletion nullServed ∧
    decodeChat localServer (.obj nullChat) =
      .ok { content := "plan", model := "served", provider := "local", usage := ⟨0, 3⟩ } ∧
    decodeServed localServer (.obj nullServed) =
      .error (.invalid [⟨[.field "prompt_tokens"], .integerExpected⟩] "") ∧
    (localServer.generate allRows).Trace
      [chatEvent localServer allRows (.ok notFound), completionEvent localServer allRows (.ok nullServedReply)]
      (.error (.invalid [⟨[.field "prompt_tokens"], .integerExpected⟩] "")) := by
  have hchat : nullAnswer.InChat nullChat :=
    ⟨⟨_, rfl, rfl⟩, rfl, rfl, rfl, by decide +kernel⟩
  have hserved : nullAnswer.InCompletion nullServed :=
    ⟨⟨_, _, rfl, ⟨_, rfl, rfl⟩, by decide +kernel⟩, rfl, .fields rfl rfl⟩
  have hrefused : decodeServed localServer (.obj nullServed) =
      .error (.invalid [⟨[.field "prompt_tokens"], .integerExpected⟩] "") := decodeServed_eq hserved
  have hreply : CameFromCompletion localServer allRows nullServed
      [chatEvent localServer allRows (.ok notFound), completionEvent localServer allRows (.ok nullServedReply)] :=
    ⟨.ok notFound, _, nullServedReply, rfl, by decide +kernel, by decide +kernel, rfl⟩
  exact ⟨hchat, hserved, decodeChat_eq hchat, hrefused, (generate_of_completion rfl hreply).2 hrefused.symm⟩

end QueryPlans.Service
