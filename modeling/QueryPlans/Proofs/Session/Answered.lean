import QueryPlans.Proofs.Session.Steps

/-!
# Questions that are answered

A question reaches the model whatever its text: the prompt around it is a request that can be sent.
If the table can be described, and the reply is whole and holds a plan, the question ends in what is
done for that plan.

* `Session.requestFor` — what is sent to the model with a question.
* `Session.obliging` — a world where nothing fails; `Session.twoPages` — the steps of a run in it.

Principal results: `ofPrompt_prompt` — the request can be sent; `planAndAccept_run` — the end of the
question.
-/

namespace QueryPlans

/-! ## Requests -/

/-- A message may hold any text but the empty one. -/
theorem Chat.Message.make_eq_valid {role : Chat.Role} {content : String} (h : content ≠ "") :
    Chat.Message.make role content = .valid ⟨role, content⟩ := by
  have hlength : ¬ content.length < 1 := by
    rw [Nat.lt_one_iff]
    simpa using h
  have hrole : Reader.required [("role", .str role.name), ("content", .str content)] "role"
      (Reader.oneOf Chat.Role.options) = .valid role := by
    cases role <;> rfl
  have hcontent : Reader.required [("role", .str role.name), ("content", .str content)] "content"
      (Reader.textOfAtLeast 1) = .valid content := by
    simp [Reader.required, Json.Fields.get?, Reader.textOfAtLeast, Reader.text, Checked.andThen,
      hlength]
  unfold Chat.Message.make Chat.Message.ofFields
  rw [hrole, hcontent]
  rfl

/-- A prompt is sent with the system prompt in front. -/
theorem Chat.Request.ofPrompt_eq_valid {prompt system : String} {jsonOutput : Bool}
    (hprompt : prompt ≠ "") (hsystem : system ≠ "") :
    Chat.Request.ofPrompt prompt (some system) jsonOutput =
      .valid ⟨[⟨.system, system⟩, ⟨.user, prompt⟩], jsonOutput⟩ := by
  unfold Chat.Request.ofPrompt
  rw [Chat.Message.make_eq_valid hprompt]
  simp [Option.filter, hsystem, Chat.Message.make_eq_valid hsystem, Checked.andThen]

namespace Session

variable {σ : Type}

/-- What is sent to the model with a question. -/
def requestFor (s : Session) (schema state question : String) : Chat.Request :=
  ⟨[⟨.system, Plan.systemPrompt⟩, ⟨.user, Plan.prompt schema state question⟩], s.settings.jsonOutput⟩

/-- The prompt of every question can be sent. -/
theorem ofPrompt_prompt (s : Session) (schema state question : String) :
    Chat.Request.ofPrompt (Plan.prompt schema state question) (some Plan.systemPrompt)
      s.settings.jsonOutput = .valid (s.requestFor schema state question) := by
  refine Chat.Request.ofPrompt_eq_valid ?_ ?_
  · intro h
    unfold Plan.prompt at h
    simp only [String.append_eq_empty_iff] at h
    exact absurd h.1.1.1.1.1 (by decide)
  · intro h
    unfold Plan.systemPrompt at h
    exact absurd (String.append_eq_empty_iff.1 h).2 (by decide)

/-! ## Replies that are whole -/

/-- The text for a prompt is the content of a response that was not cut short. -/
theorem generateText_run {world : World Session.interface σ} {st st' : σ} (provider : Provider)
    {prompt : String} {system : Option String} {json : Bool} {request : Chat.Request}
    {response : Chat.Response} (hrequest : Chat.Request.ofPrompt prompt system json = .valid request)
    (hreply : world st (.model (.generate request)) = (.ok response, st'))
    (hwhole : response.isTruncated = false) :
    (onModel (Chat.generateText provider prompt system json)).run world st =
      ⟨.ok response.content, [.answered (.model (.generate request)) (.ok response)], st'⟩ := by
  have hcall : (onModel (Chat.call (.generate request))).run world st =
      ⟨.ok response, [.answered (.model (.generate request)) (.ok response)], st'⟩ := by
    change Program.run world (Program.ask (I := Session.interface) _ Program.done) st = _
    unfold Program.run
    rw [hreply]
    rfl
  have htext : Chat.textOf provider response = .done response.content := by
    unfold Chat.textOf
    rw [hwhole]
    rfl
  unfold Chat.generateText
  rw [hrequest]
  simp only [onModel, Program.interpret_bind, Program.run_bind] at hcall ⊢
  rw [hcall]
  simp only [htext]
  rfl

theorem replyTo_run {s : Session} {world : World Session.interface σ} {st st' : σ} (table : String)
    {schema state question : String} {response : Chat.Response}
    (hreply :
      world st (.model (.generate (s.requestFor schema state question))) = (.ok response, st'))
    (hwhole : response.isTruncated = false) :
    ∃ es, (s.replyTo table (Plan.prompt schema state question)).run world st =
      ⟨.ok response.content, es, st'⟩ := by
  have hasked := generateText_run s.provider (ofPrompt_prompt s schema state question) hreply hwhole
  unfold replyTo
  -- Names for what is long, so that comparing the two sides does not compute it.
  generalize Plan.prompt schema state question = prompt at hasked ⊢
  generalize some Plan.systemPrompt = system at hasked ⊢
  simp only [Program.run_bind, log, Program.run_log, hasked]
  exact ⟨_, rfl⟩

theorem noteOutcome_run (world : World Session.interface σ) (st : σ) (result : Except Failure Outcome) :
    ∃ notes, (noteOutcome result).run world st = ⟨(), notes, st⟩ := by
  cases result with
  | error f => exact ⟨[], rfl⟩
  | ok o => exact ⟨[_], rfl⟩

/-- **A question is answered.** If the table can be described, and the reply is whole and holds a
plan, the question ends in what is done for the plan. -/
theorem planAndAccept_run {s : Session} {w : World Session.interface σ} {st st' : σ}
    {retained : Retained} {table schema state : String} (question : String)
    {response : Chat.Response} {p : Plan} {sql? : Option String}
    (hschema : ((s.schemaText table).run w st).value = .ok schema)
    (hstate : retained.viewState (some table) s.settings.defaultLimit = .ok state)
    (hreply : w ((s.schemaText table).run w st).state
      (.model (.generate (s.requestFor schema state question))) = (.ok response, st'))
    (hwhole : response.isTruncated = false) (hplan : s.planOf response.content = .ok (p, sql?)) :
    ∃ early late, (s.planAndAccept retained table question).run w st =
      let r := (onDatabase (retained.accept p sql?)).run w st'
      ⟨r.value, early ++ (r.events ++ late), r.state⟩ := by
  have hprompt : (s.promptFor retained table question).run w st =
      ⟨.ok (Plan.prompt schema state question), ((s.schemaText table).run w st).events,
        ((s.schemaText table).run w st).state⟩ := by
    unfold promptFor
    simp only [Program.run_bind, hschema, hstate]
    simp
  obtain ⟨asked, hasked⟩ := replyTo_run table hreply hwhole
  have hended := noteOutcome_run w
  obtain ⟨notes, hnotes⟩ := hended ((onDatabase (retained.accept p sql?)).run w st').state
    ((onDatabase (retained.accept p sql?)).run w st').value.1
  unfold planAndAccept replyFor
  simp only [Program.run_bind, hprompt, hasked, hplan, hnotes]
  exact ⟨_, _, rfl⟩

/-! ## A world where nothing fails -/

/-- What the database answers: there are no rows, but a count. -/
def databaseAnswer : (c : Database.Call) → Except Fault c.Value
  | .connect => .ok ()
  | .close => .ok ()
  | .execute _ => .ok ⟨["id"], [], 0⟩
  | .fetchValue _ => .ok (.int 30)
  | .describeColumns _ => .ok []
  | .describeForeignKeys _ => .ok []
  | .tableExists _ => .ok false

/-- A world where nothing fails, and the model always replies the same. -/
def obliging (reply : String) : World Session.interface Unit
  | (), .database c => (databaseAnswer c, ())
  | (), .model (.generate _) =>
    (.ok { content := reply, model := "gpt-4o", provider := "openai" }, ())
  | (), .model .close => (.ok (), ())

/-- The statements that fetched rows in a step. -/
def Step.fetched (step : Step) : List String :=
  step.events.filterMap fun
    | .answered (.database (.execute sql)) _ => some sql
    | _ => none

theorem Step.mem_fetched {step : Step} {sql : String} (h : sql ∈ step.fetched) :
    ∃ reply, .answered (.database (.execute sql)) reply ∈ step.events := by
  obtain ⟨e, hmem, he⟩ := List.mem_filterMap.1 h
  split at he
  · cases he
    exact ⟨_, hmem⟩
  · cases he

theorem eq_ok_of_toOption {ε α : Type} {x : Except ε α} {a : α} (h : x.toOption = some a) :
    x = .ok a := by
  cases x <;> cases h
  rfl

/-- A session with small pages. -/
def sample : Session :=
  { settings := { defaultLimit := 5, maxLimit := some 10 }
    provider := { name := .openai, model := "gpt-4o" } }

/-- A world whose model replies with the rows of a table. -/
def sampleWorld : World Session.interface Unit := obliging "\x7b\"tables\": \"t\"\x7d"

/-- The plan of the reply, in the session. -/
def samplePlan : Plan :=
  { Plan.empty with tables := ["t"], limit := 5, given := [.tables, .limit] }

/-- The steps that show the first rows of the table, and then those of its second page. -/
def twoPages : List Step := sample.steps sampleWorld none () [.ask "t" "all rows", .navigate .next]

/-- The step that shows the second page. -/
def secondPage : Step :=
  let r := (navigate (some samplePlan) .next).run sampleWorld ()
  ⟨.navigate .next, some samplePlan, r.events, r.value.1, r.value.2⟩

theorem twoPages_eq : ∃ first, twoPages = [first, secondPage] := by
  have hquestion : Navigation.ofRequest? "all rows" = none := by decide +kernel
  have hschema : ((sample.schemaText "t").run sampleWorld ()).value =
      .ok "## Current Table: t\n\n### Columns\n" :=
    eq_ok_of_toOption (by decide +kernel)
  have hstate : Retained.viewState none (some "t") sample.settings.defaultLimit =
      .ok "Current table: t, Page: 1, Limit: 5" :=
    eq_ok_of_toOption (by decide +kernel)
  have hplan : sample.planOf "\x7b\"tables\": \"t\"\x7d" =
      .ok (samplePlan, some "SELECT *\nFROM t\nLIMIT 5") :=
    eq_ok_of_toOption (by decide +kernel)
  obtain ⟨early, late, hrun⟩ :=
    planAndAccept_run (w := sampleWorld) "all rows" hschema hstate rfl rfl hplan
  let accepted :=
    (onDatabase (Retained.accept none samplePlan (some "SELECT *\nFROM t\nLIMIT 5"))).run sampleWorld ()
  have hafter : accepted.value.2 = some samplePlan := by decide +kernel
  have hend : accepted.state = () := Subsingleton.elim _ _
  unfold twoPages secondPage
  rw [steps, answer, ask, hquestion]
  simp only [hrun, hafter, hend, steps, answer, accepted]
  exact ⟨_, rfl⟩

end Session

end QueryPlans
