import QueryPlans.Proofs.Program.Steady
import QueryPlans.Proofs.Schema.Related
import QueryPlans.Proofs.Session.Steps

/-!
# Requests that share a plan

Several requests may be under way in a session at the same time.  They share its retained plan: a question
looks at it once the table has been described, and replaces it once the reply of the model holds a plan
with a statement; a request for another page looks at it at once.

* `Session.SharedCall` — a call on the database or the model, a look at the retained plan, or its
  replacement.
* `Session.body` — a request step by step, with the related tables looked up all at once.
* `Session.remember` — the answers to the calls of a request that has the plan to itself.

Principal results: `body_serve` — step by step with its own plan, a request is answered as by
`Session.answer`; `body_partsOnly` — what is done at the same time reads the catalogue only.
-/

namespace QueryPlans

/-! ## Tables with their related tables -/

namespace Schema

/-- A table and, if wanted, the tables it refers to, those looked up all at once. -/
def fetchContextAtOnce (table : String) (withRelated : Bool) :
    Concurrent Database.interface (Except Failure Schema)
      (Except Failure (Schema × List (String × Schema))) :=
  (Concurrent.of (fetch table)).bind fun
    | .error f => .done (.error f)
    | .ok main =>
      if withRelated then
        (fetchRelatedAtOnce main).bind fun
          | .error f => .done (.error f)
          | .ok related => .done (.ok (main, related))
      else .done (.ok (main, []))

/-- The text of a table for a model. -/
def fetchTextAtOnce (table : String) (withRelated : Bool) :
    Concurrent Database.interface (Except Failure Schema) (Except Failure String) :=
  (fetchContextAtOnce table withRelated).bind fun
    | .error f => .done (.error f)
    | .ok (main, related) => .done (.ok (main.context related))

theorem inOrder_fetchTextAtOnce (table : String) (withRelated : Bool) :
    (fetchTextAtOnce table withRelated).inOrder = fetchText table withRelated := by
  unfold fetchTextAtOnce fetchText fetchContextAtOnce fetchContext
  rw [Concurrent.inOrder_bind, Concurrent.inOrder_bind, Concurrent.inOrder_of]
  congr 1
  · congr 1
    funext found
    cases found with
    | error f => rfl
    | ok main =>
      cases withRelated with
      | false => rfl
      | true =>
        simp only [↓reduceIte, Concurrent.inOrder_bind, inOrder_fetchRelatedAtOnce]
        congr 1
        funext related
        cases related <;> rfl
  · funext found
    cases found <;> rfl

theorem fetchTextAtOnce_partsOnly (table : String) (withRelated : Bool) :
    (fetchTextAtOnce table withRelated).PartsOnly IsLookup := by
  refine Concurrent.PartsOnly.bind ?_ fun found => ?_
  · refine (Concurrent.PartsOnly.of (fetch table)).bind fun found => ?_
    cases found with
    | error f => exact trivial
    | ok main =>
      simp only
      split
      · refine Concurrent.PartsOnly.bind ⟨fun p hp => ?_, fun found => .of _⟩ fun related => ?_
        · obtain ⟨target, -, rfl⟩ := List.mem_map.1 hp
          exact fetch_callsOnly target
        · cases related <;> exact trivial
      · exact trivial
  · cases found <;> exact trivial

end Schema

namespace Session

variable {α : Type} {s : Session} {retained : Retained} {request : Request}

/-! ## Requests step by step -/

/-- A call on the database or the model, a look at the retained plan, or its replacement. -/
inductive SharedCall where
  | collaborator (c : Call)
  | look
  | retain (p : Plan)

/-- The type of the answer to a call. -/
abbrev SharedCall.Reply : SharedCall → Type
  | collaborator c => Except Fault c.Value
  | look => Retained
  | retain _ => Unit

def sharing : Interface := ⟨SharedCall, SharedCall.Reply⟩

/-- Carry out a program that leaves the retained plan alone. -/
def apart (p : SessionProgram α) : Program sharing α :=
  p.interpret (J := sharing) fun c => Program.ask (I := sharing) (.collaborator c) .done

def look : Program sharing Retained := Program.ask (I := sharing) .look .done

def retain (p : Plan) : Program sharing Unit := Program.ask (I := sharing) (.retain p) .done

/-- Do with a plan what is to be done with it. -/
def acceptShared (p : Plan) (sql? : Option String) : Program sharing (Except Failure Outcome) := do
  match p.summary with
  | .error e => return .error (.ofNumeral e)
  | .ok summary =>
    if p.needOtherTables then
      apart (onDatabase (Plan.log .info "Plan requires other tables; nothing to execute"))
      return .ok (.needOtherTables p summary)
    else match p.statementOr sql? with
      | .error e => return .error (.ofStatement e)
      | .ok sql =>
        retain p
        apart (onDatabase (p.carryOut sql summary))

/-- Show a retained plan at another page. -/
def turnFrom (direction : Navigation) : Retained → Program sharing (Except Failure Outcome)
  | none => return .error (.plan (.noActivePlan PlanError.noActivePlanMessage))
  | some current =>
    if current.isReadOnly then
      let p := current.step direction
      match p.statement with
      | .error e => return .error (.ofStatement e)
      | .ok sql => do
        retain p
        apart (onDatabase (Retained.showPage p sql))
    else return .error (.plan (Plan.Violation.notPaginable current.action).toPlanError)

/-- Ask the model for a plan, from the position in the data, and accept it. -/
def questionFrom (s : Session) (table question schema : String) (retained : Retained) :
    Program sharing (Except Failure Outcome) := do
  match retained.viewState (some table) s.settings.defaultLimit with
  | .error e => return .error (.ofNumeral e)
  | .ok state =>
    match ← apart (s.replyTo table (Plan.prompt schema state question)) with
    | .error f => return .error f
    | .ok reply =>
      match s.planOf reply with
      | .error f =>
        apart (noteRejection f)
        return .error f
      | .ok (p, sql) =>
        let result ← acceptShared p sql
        apart (noteOutcome result)
        return result

/-- The text of a table, on the interface that requests share. -/
def schemaShared (s : Session) (table : String) :
    Concurrent sharing (Except Failure Schema) (Except Failure String) :=
  (Schema.fetchTextAtOnce table s.settings.includeRelatedSchemas).interpret (J := sharing) fun c =>
    Program.ask (I := sharing) (.collaborator (.database c)) .done

/-- A request step by step. -/
def body (s : Session) : Request → Concurrent sharing (Except Failure Schema) (Except Failure Outcome)
  | .navigate direction => .of (look >>= turnFrom direction)
  | .ask table question =>
    match Navigation.ofRequest? question with
    | some direction => .of (look >>= turnFrom direction)
    | none => (s.schemaShared table).bind fun
      | .error f => .done (.error f)
      | .ok schema => .of (look >>= s.questionFrom table question schema)

/-! ## One request with its own plan -/

/-- Answer the calls of a request from a plan of its own. -/
def remember (retained : Retained) : (c : sharing.Call) → SessionProgram (sharing.Reply c × Retained)
  | .collaborator c => Program.ask (I := Session.interface) c fun r => .done (r, retained)
  | .look => .done (retained, retained)
  | .retain p => .done ((), some p)

theorem apart_serve (p : SessionProgram α) :
    (apart p).serve remember retained = (p >>= fun a => .done (a, retained)) := by
  induction p with
  | done a => rfl
  | note entry rest ih =>
    change Program.note entry ((apart rest).serve remember retained) = _
    rw [ih]
    rfl
  | ask c next ih =>
    change (Program.ask c fun r => (apart (next r)).serve remember retained) = _
    simp only [ih]
    rfl

theorem look_serve (f : Retained → Program sharing α) :
    (look >>= f).serve remember retained = (f retained).serve remember retained := rfl

theorem retain_serve (p : Plan) (f : Unit → Program sharing α) :
    (retain p >>= f).serve remember retained = (f ()).serve remember (some p) := rfl

theorem onDatabase_bind {β : Type} (p : DatabaseProgram α) (f : α → DatabaseProgram β) :
    onDatabase (p >>= f) = (onDatabase p >>= fun a => onDatabase (f a)) :=
  Program.interpret_bind _ p f

theorem acceptShared_serve (p : Plan) (sql? : Option String) :
    (acceptShared p sql?).serve remember retained = onDatabase (retained.accept p sql?) := by
  unfold acceptShared Retained.accept
  cases p.summary with
  | error e => rfl
  | ok summary =>
    simp only
    split
    · rfl
    · cases p.statementOr sql? with
      | error e => rfl
      | ok sql =>
        simp only [retain_serve, apart_serve, onDatabase_bind]
        rfl

theorem turnFrom_serve (direction : Navigation) :
    (turnFrom direction retained).serve remember retained =
      onDatabase (retained.navigate direction) := by
  cases retained with
  | none => rfl
  | some current =>
    unfold turnFrom Retained.navigate
    simp only
    split
    · cases (current.step direction).statement with
      | error e => rfl
      | ok sql =>
        simp only [retain_serve, apart_serve, onDatabase_bind]
        rfl
    · rfl

/-- What follows the reply of the model. -/
def afterReply (s : Session) (retained : Retained) :
    Except Failure String → SessionProgram (Except Failure Outcome × Retained)
  | .error f => return (.error f, retained)
  | .ok reply =>
    match s.planOf reply with
    | .error f => do
      noteRejection f
      return (.error f, retained)
    | .ok (p, sql) => do
      let answered ← onDatabase (retained.accept p sql)
      noteOutcome answered.1
      return answered

/-- What follows the description of a table. -/
def afterSchema (s : Session) (retained : Retained) (table question : String) :
    Except Failure String → SessionProgram (Except Failure Outcome × Retained)
  | .error f => return (.error f, retained)
  | .ok schema =>
    match retained.viewState (some table) s.settings.defaultLimit with
    | .error e => return (.error (.ofNumeral e), retained)
    | .ok state => s.replyTo table (Plan.prompt schema state question) >>= s.afterReply retained

theorem planAndAccept_eq_afterReply (table question : String) :
    s.planAndAccept retained table question =
      (s.replyFor retained table question >>= s.afterReply retained) := by
  unfold planAndAccept
  refine bind_congr fun reply => ?_
  cases reply with
  | error f => rfl
  | ok reply =>
    cases hplan : s.planOf reply with
    | error f => simp only [afterReply, hplan]
    | ok plan => simp only [afterReply, hplan]

theorem planAndAccept_eq (table question : String) :
    s.planAndAccept retained table question =
      (s.schemaText table >>= s.afterSchema retained table question) := by
  rw [planAndAccept_eq_afterReply]
  unfold replyFor promptFor
  simp only [Program.bind_bind]
  refine bind_congr fun schema => ?_
  cases schema with
  | error f => simp only [Program.pure_eq_done, Program.done_bind, afterSchema, afterReply]
  | ok schema =>
    unfold afterSchema
    simp only
    cases retained.viewState (some table) s.settings.defaultLimit with
    | error e => simp only [Program.pure_eq_done, Program.done_bind, afterReply]
    | ok state =>
      simp only [Program.pure_eq_done]
      -- Names for what is long, so that comparing the two sides does not compute it.
      generalize Plan.prompt schema state question = prompt
      generalize s.afterReply retained = rest
      generalize s.replyTo = replyTo
      rw [Program.done_bind]

theorem questionFrom_serve (table question schema : String) :
    (s.questionFrom table question schema retained).serve remember retained =
      s.afterSchema retained table question (.ok schema) := by
  unfold questionFrom afterSchema
  simp only
  cases retained.viewState (some table) s.settings.defaultLimit with
  | error e => rfl
  | ok state =>
    simp only [Program.serve_bind, apart_serve, Program.bind_bind, Program.done_bind]
    refine bind_congr fun reply => ?_
    unfold afterReply
    cases reply with
    | error f => rfl
    | ok reply =>
      simp only
      cases s.planOf reply with
      | error f =>
        simp only [Program.serve_bind, apart_serve, Program.bind_bind, Program.done_bind]
        rfl
      | ok plan =>
        simp only [Program.serve_bind, acceptShared_serve, apart_serve, Program.bind_bind,
          Program.done_bind]
        rfl

theorem apart_onDatabase (p : DatabaseProgram α) :
    apart (onDatabase p) = p.interpret (J := sharing) fun c =>
      Program.ask (I := sharing) (.collaborator (.database c)) .done := by
  induction p with
  | done a => rfl
  | note entry rest ih => exact congrArg (Program.note entry) ih
  | ask c next ih => exact congrArg (Program.ask (I := sharing) (.collaborator (.database c))) (funext ih)

theorem schemaShared_serve (table : String) :
    (s.schemaShared table).inOrder.serve remember retained =
      (s.schemaText table >>= fun schema => .done (schema, retained)) := by
  unfold schemaShared schemaText
  rw [Concurrent.inOrder_interpret, Schema.inOrder_fetchTextAtOnce, ← apart_onDatabase, apart_serve]

/-- Step by step with its own plan, a request is answered as by the session. -/
theorem body_serve (s : Session) (retained : Retained) (request : Request) :
    (s.body request).inOrder.serve remember retained = s.answer retained request := by
  cases request with
  | navigate direction =>
    simp only [body, Concurrent.inOrder_of, look_serve, turnFrom_serve]
    rfl
  | ask table question =>
    cases hturn : Navigation.ofRequest? question with
    | some direction =>
      simp only [body, answer, ask, hturn, Concurrent.inOrder_of, look_serve, turnFrom_serve]
      rfl
    | none =>
      simp only [body, answer, ask, hturn, Concurrent.inOrder_bind, Program.serve_bind,
        schemaShared_serve, planAndAccept_eq, Program.bind_bind, Program.done_bind]
      refine bind_congr fun schema => ?_
      cases schema with
      | error f => rfl
      | ok schema =>
        simp only [Concurrent.inOrder_of, look_serve, questionFrom_serve]

/-- A call that reads the catalogue. -/
def SharedCall.IsLookup : SharedCall → Prop
  | collaborator (.database c) => Schema.IsLookup c
  | _ => False

/-- What is done at the same time reads the catalogue only. -/
theorem body_partsOnly (s : Session) (request : Request) :
    (s.body request).PartsOnly (I := sharing) SharedCall.IsLookup := by
  cases request with
  | navigate direction => exact .of _
  | ask table question =>
    cases hturn : Navigation.ofRequest? question with
    | some direction =>
      simp only [body, hturn]
      exact .of _
    | none =>
      simp only [body, hturn]
      refine Concurrent.PartsOnly.bind ?_ fun schema => ?_
      · exact (Schema.fetchTextAtOnce_partsOnly _ _).interpret fun c hc => ⟨hc, fun r => .of_done _⟩
      · cases schema with
        | error f => exact trivial
        | ok schema => exact .of _

end Session

end QueryPlans
