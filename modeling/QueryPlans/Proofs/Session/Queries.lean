import Mathlib.Data.List.Basic
import QueryPlans.Proofs.Plan.Paging
import QueryPlans.Proofs.Session.Answered

/-!
# A session sends nothing but queries

In every run, whatever the questions, the replies of the model, the catalogue and the answers of the
database are:

* a statement that is sent fetches a page of the plan in force, which only reads;
* a count that is sent is that of the very plan whose rows have just come;
* a plan that changes data, has no statement, or needs other tables sends nothing, neither when it
  arrives nor when pages are turned later.

`Session.InForce` — the plan that was accepted last; `Session.Shows` — a page of it with its
statement; `statements_are_queries` — the three together.
-/

namespace QueryPlans

/-- The plan only reads, and from tables that are there. -/
def Plan.IsQuery (p : Plan) : Prop := p.isReadOnly = true ∧ p.needOtherTables = false

namespace Session

variable {σ : Type}

/-- The plan that was accepted last in these steps. -/
def InForce (s : Session) (steps : List Step) (p : Plan) : Prop :=
  ∃ early source late, steps = early ++ source :: late ∧ source.Accepts s p ∧
    ∀ step ∈ late, ∀ q, ¬ step.Accepts s q

/-- The statement fetches a page of the plan in force, and this is a query. -/
structure Shows (s : Session) (steps : List Step) (p : Plan) (sql : String) : Prop where
  query : p.IsQuery
  statement : p.statement = .ok sql
  inForce : ∃ q, s.InForce steps q ∧ p.IsPageOf q

/-- The statement of a query fetches its rows. -/
theorem Shows.starts {s : Session} {steps : List Step} {p : Plan} {sql : String}
    (h : s.Shows steps p sql) : p.selectStatement = .ok sql ∧ ∃ rest, sql = "SELECT " ++ rest := by
  have hselect : p.selectStatement = .ok sql := by
    rw [← Plan.statement_of_isReadOnly h.query.1, h.statement]
  exact ⟨hselect, Plan.selectStatement_starts hselect⟩

/-! ## The plan in force -/

theorem InForce.of_accepts {s : Session} {step : Step} {p : Plan} (past : List Step)
    (h : step.Accepts s p) : s.InForce (past ++ [step]) p :=
  ⟨past, step, [], rfl, h, fun _ hmem => nomatch hmem⟩

theorem InForce.append {s : Session} {past : List Step} {step : Step} {p : Plan}
    (h : s.InForce past p) (hstep : ∀ q, ¬ step.Accepts s q) : s.InForce (past ++ [step]) p := by
  obtain ⟨early, source, late, rfl, haccepts, hlate⟩ := h
  refine ⟨early, source, late ++ [step], by simp, haccepts, fun t hmem => ?_⟩
  rcases List.mem_append.1 hmem with hmem | hmem
  · exact hlate t hmem
  · rw [List.mem_singleton.1 hmem]
    exact hstep

/-- What is retained is a page of the plan in force. -/
def FromForce (s : Session) (past : List Step) (retained : Retained) : Prop :=
  ∀ p, retained = some p → p.needOtherTables = false ∧ ∃ q, s.InForce past q ∧ p.IsPageOf q

theorem fromForce_step {s : Session} {past : List Step} {step : Step} (h : step.Possible s)
    (hpast : s.FromForce past step.before) : s.FromForce (past ++ [step]) step.after := by
  intro p hp
  cases h.effect with
  | idle _ kept _ refused =>
    rw [kept] at hp
    obtain ⟨hhere, q, hforce, hpage⟩ := hpast p hp
    exact ⟨hhere, q, hforce.append refused, hpage⟩
  | accepted q sql summary accepts only statement retained =>
    rw [retained] at hp
    cases hp
    exact ⟨accepts.here, p, .of_accepts past accepts, .refl p⟩
  | turned current direction sql unproposed retained reads statement moved =>
    rw [moved] at hp
    cases hp
    obtain ⟨hhere, q, hforce, hpage⟩ := hpast current retained
    refine ⟨by simpa using hhere, q, ?_, hpage.step direction⟩
    exact hforce.append fun q hq => unproposed q hq.proposed

/-! ## The statements of a step -/

/-- Running a plan sends its statement; after that nothing, or, once its rows have come, its count. -/
theorem execute_events {p : Plan} {sql summary : String} {ds : List (Event Database.interface)}
    {r : Except Failure Outcome} (h : (p.execute sql summary).Trace ds r) :
    ∃ reply rest, ds = .answered (.execute sql) reply :: rest ∧
      (CallFree rest ∨ ∃ rows count answer notes, reply = .ok rows ∧ p.countStatement? = some count ∧
        rest = .answered (.fetchValue count) answer :: notes ∧ CallFree notes) := by
  rcases Plan.execute_trace h with
    ⟨f, notes, rfl, hnotes, -⟩ | ⟨rows, counting, total, notes, rfl, hcount, hnotes, -⟩
  · exact ⟨.error f, notes, rfl, .inl hnotes⟩
  refine ⟨.ok rows, counting ++ notes, rfl, ?_⟩
  rcases Plan.countAll_trace hcount with ⟨-, rfl, -⟩ | ⟨count, answer, more, hc, rfl, hmore, -⟩
  · exact .inl hnotes
  · refine .inr ⟨rows, count, answer, more ++ notes, rfl, hc, rfl, fun e he => ?_⟩
    rcases List.mem_append.1 he with he | he
    · exact hmore e he
    · exact hnotes e he

/-- Running a plan sends no statement but its own. -/
theorem execute_sends {p : Plan} {sql summary : String} {ds : List (Event Database.interface)}
    {r : Except Failure Outcome} (h : (p.execute sql summary).Trace ds r) {sent : String}
    {reply : Except Fault Rows} (hmem : .answered (.execute sent) reply ∈ ds) : sent = sql := by
  obtain ⟨_, rest, rfl, hrest⟩ := execute_events h
  rcases List.mem_cons.1 hmem with heq | hlater
  · cases heq
    rfl
  rcases hrest with hfree | ⟨rows, count, answer, notes, -, -, rfl, hnotes⟩
  · exact absurd hlater (hfree.not_mem _ _)
  · rcases List.mem_cons.1 hlater with heq | hnote
    · cases heq
    · exact absurd hnote (hnotes.not_mem _ _)

/-- Running a plan sends no count but its own, and this right after its rows have come. -/
theorem execute_counts {p : Plan} {sql summary : String} {ds : List (Event Database.interface)}
    {r : Except Failure Outcome} (h : (p.execute sql summary).Trace ds r) {sent : String}
    {reply : Except Fault Json} (hmem : .answered (.fetchValue sent) reply ∈ ds) :
    p.countStatement? = some sent ∧ ∃ rows notes,
      ds = .answered (.execute sql) (.ok rows) :: .answered (.fetchValue sent) reply :: notes ∧
        CallFree notes := by
  obtain ⟨_, rest, rfl, hrest⟩ := execute_events h
  rcases List.mem_cons.1 hmem with heq | hlater
  · cases heq
  rcases hrest with hfree | ⟨rows, count, answer, notes, rfl, hc, rfl, hnotes⟩
  · exact absurd hlater (hfree.not_mem _ _)
  · rcases List.mem_cons.1 hlater with heq | hnote
    · cases heq
      exact ⟨hc, rows, notes, rfl, hnotes⟩
    · exact absurd hnote (hnotes.not_mem _ _)

/-- The statements that a step sends: none, or those of one plan. -/
inductive Step.Sends (step : Step) : Prop
  | nothing (free : DataFree step.events)
  | page (p : Plan) (sql summary : String) (reads : p.isReadOnly = true)
      (statement : p.statement = .ok sql) (retained : step.after = some p)
      (early : List (Event Session.interface)) (free : DataFree early)
      (ds : List (Event Database.interface)) (notes : List (Event Session.interface))
      (silent : CallFree notes) (events : step.events = early ++ ds.map liftDatabase ++ notes)
      (executed : (p.execute sql summary).Trace ds step.result)

theorem Step.Possible.sends {s : Session} {step : Step} (h : step.Possible s) : step.Sends := by
  cases h.effect with
  | idle free => exact .nothing free
  | accepted p sql summary accepts only statement retained early free ds notes silent events carried =>
    unfold Plan.carryOut at carried
    split at carried
    · rename_i hread
      exact .page p sql summary hread statement retained early free ds notes silent events carried
    · obtain ⟨hcalls, -⟩ := Plan.holdForReview_trace carried
      refine .nothing ?_
      rw [events, dataFree_append, dataFree_append]
      exact ⟨⟨free, dataFree_liftDatabase_of_callFree hcalls⟩, dataFree_of_callFree silent⟩
  | turned current direction sql unproposed retained reads statement moved ds events shown =>
    rcases Retained.showPage_trace shown with
      ⟨hcalls, -⟩ | ⟨entry, tail, summary, rfl, hsum, hexec⟩
    · exact .nothing (by rw [events]; exact dataFree_liftDatabase_of_callFree hcalls)
    · refine .page _ sql summary (by simpa using reads) statement moved [.noted entry] ?_ tail
        [] callFree_nil (by simpa [liftDatabase] using events) hexec
      intro c r hmem
      cases List.mem_singleton.1 hmem

variable {s : Session} {world : World Session.interface σ} {st : σ} {requests : List Request}
  {before after : List Step} {step : Step}

/-- What is retained after a step is a page of the plan in force. -/
theorem fromForce_steps (h : s.steps world none st requests = before ++ step :: after) :
    step.Possible s ∧ s.FromForce (before ++ [step]) step.after := by
  have hnone : s.FromForce [] none := fun _ hp => nomatch hp
  obtain ⟨hpossible, -, hforce⟩ := steps_invariant hnone (fun past step => fromForce_step) h
  exact ⟨hpossible, hforce⟩

theorem shows_of_sends {p : Plan} {sql : String} (hread : p.isReadOnly = true)
    (hsql : p.statement = .ok sql) (hretained : step.after = some p)
    (h : s.steps world none st requests = before ++ step :: after) :
    s.Shows (before ++ [step]) p sql := by
  obtain ⟨hhere, hforce⟩ := (fromForce_steps h).2 p hretained
  exact ⟨⟨hread, hhere⟩, hsql, hforce⟩

/-- Every statement that is sent fetches a page of the plan in force. -/
theorem execute_shows (h : s.steps world none st requests = before ++ step :: after) {sql : String}
    {reply : Except Fault Rows} (hmem : .answered (.database (.execute sql)) reply ∈ step.events) :
    ∃ p, s.Shows (before ++ [step]) p sql := by
  cases (fromForce_steps h).1.sends with
  | nothing free => cases free _ _ hmem
  | page p sent summary reads statement retained early free ds notes silent events executed =>
    rw [events, List.mem_append, List.mem_append] at hmem
    rcases hmem with (hmem | hmem) | hmem
    · cases free _ _ hmem
    · obtain rfl := execute_sends executed (answered_mem_map_liftDatabase.1 hmem)
      exact ⟨p, shows_of_sends reads statement retained h⟩
    · exact absurd hmem (silent.not_mem _ _)

/-- Every count that is sent is that of the plan whose rows have just come. -/
theorem fetchValue_counts (h : s.steps world none st requests = before ++ step :: after)
    {earlier later : List (Event Session.interface)} {sql : String} {reply : Except Fault Json}
    (hevents : step.events = earlier ++ .answered (.database (.fetchValue sql)) reply :: later) :
    ∃ p data rows first, s.Shows (before ++ [step]) p data ∧ p.countStatement? = some sql ∧
      earlier = first ++ [.answered (.database (.execute data)) (.ok rows)] := by
  have hmem : .answered (.database (.fetchValue sql)) reply ∈ step.events := by
    rw [hevents]
    simp
  cases (fromForce_steps h).1.sends with
  | nothing free => cases free _ _ hmem
  | page p data summary reads statement retained early free ds after silent events executed =>
    have hds : .answered (.fetchValue sql) reply ∈ ds := by
      rw [events, List.mem_append, List.mem_append] at hmem
      rcases hmem with (hmem | hmem) | hmem
      · cases free _ _ hmem
      · exact answered_mem_map_liftDatabase.1 hmem
      · exact absurd hmem (silent.not_mem _ _)
    obtain ⟨hcount, rows, notes, rfl, hnotes⟩ := execute_counts executed hds
    refine ⟨p, data, rows, early, shows_of_sends reads statement retained h, hcount, ?_⟩
    have hfirst : .answered (.database (.fetchValue sql)) reply ∉
        early ++ [.answered (.database (.execute data)) (.ok rows)] := by
      intro hin
      rcases List.mem_append.1 hin with hin | hin
      · cases free _ _ hin
      · cases List.mem_singleton.1 hin
    have hlast : .answered (.database (.fetchValue sql)) reply ∉ notes.map liftDatabase ++ after := by
      intro hin
      rcases List.mem_append.1 hin with hin | hin
      · exact hnotes.not_mem _ _ (answered_mem_map_liftDatabase.1 hin)
      · exact silent.not_mem _ _ hin
    have heq : earlier ++ .answered (.database (.fetchValue sql)) reply :: later =
        (early ++ [.answered (.database (.execute data)) (.ok rows)]) ++
          .answered (.database (.fetchValue sql)) reply :: (notes.map liftDatabase ++ after) := by
      rw [← hevents, events]
      simp [liftDatabase]
    exact ((List.append_cons_inj_of_notMem hfirst hlast).1 heq.symm).1.symm

/-! ## Plans that are no queries -/

/-- A plan that is no query sends nothing when it arrives, and is not accepted unless it changes
data. -/
theorem refused_sends_nothing {p : Plan} (hstep : step.Possible s) (hp : step.Proposes s p)
    (hquery : ¬ p.IsQuery) :
    DataFree step.events ∧
      ((¬ step.Accepts s p ∧ step.after = step.before) ∨
        (step.after = some p ∧ p.isReadOnly = false)) := by
  cases hstep.effect with
  | idle free kept _ refused => exact ⟨free, .inl ⟨refused p, kept⟩⟩
  | turned _ _ _ unproposed => exact absurd hp (unproposed p)
  | accepted q sql summary accepts only statement retained early free ds notes silent events carried =>
    obtain rfl := only p hp
    have hread : p.isReadOnly = false := by
      cases hr : p.isReadOnly with
      | false => rfl
      | true => exact absurd ⟨hr, accepts.here⟩ hquery
    unfold Plan.carryOut at carried
    simp only [hread, Bool.false_eq_true, ↓reduceIte] at carried
    obtain ⟨hcalls, -⟩ := Plan.holdForReview_trace carried
    refine ⟨?_, .inr ⟨retained, hread⟩⟩
    rw [events, dataFree_append, dataFree_append]
    exact ⟨⟨free, dataFree_liftDatabase_of_callFree hcalls⟩, dataFree_of_callFree silent⟩

/-- A plan that changes data stays until another one is accepted, and sends nothing. -/
theorem held_sends_nothing {p : Plan} (hstep : step.Possible s) (hnone : ∀ q, ¬ step.Accepts s q)
    (hbefore : step.before = some p) (hread : p.isReadOnly = false) :
    DataFree step.events ∧ step.after = some p := by
  cases hstep.effect with
  | idle free kept => exact ⟨free, kept.trans hbefore⟩
  | accepted q _ _ accepts => exact absurd accepts (hnone q)
  | turned current _ _ _ retained reads =>
    rw [hbefore] at retained
    cases retained
    rw [hread] at reads
    cases reads

/-- As long as no other plan is accepted, a plan that changes data is retained, and nothing is sent. -/
def HeldBack (s : Session) (past : List Step) (retained : Retained) : Prop :=
  ∀ early source later p, past = early ++ source :: later →
    (∀ t ∈ later, ∀ q, ¬ t.Accepts s q) → source.after = some p → p.isReadOnly = false →
      retained = some p ∧ ∀ t ∈ later, DataFree t.events

theorem heldBack_step {past : List Step} (hstep : step.Possible s)
    (hpast : s.HeldBack past step.before) : s.HeldBack (past ++ [step]) step.after := by
  intro early source later p heq hnone hafter hread
  rcases later.eq_nil_or_concat with rfl | ⟨later, last, rfl⟩
  · obtain ⟨-, hlast⟩ := List.append_inj' heq rfl
    simp only [List.cons.injEq, and_true] at hlast
    rw [hlast]
    exact ⟨hafter, fun t ht => nomatch ht⟩
  · have hsplit : past ++ [step] = (early ++ source :: later) ++ [last] := by
      rw [heq]
      simp
    obtain ⟨rfl, hlast⟩ := List.append_inj' hsplit rfl
    simp only [List.cons.injEq, and_true] at hlast
    subst hlast
    obtain ⟨hbefore, hfree⟩ := hpast early source later p rfl
      (fun t ht => hnone t (by simp [ht])) hafter hread
    obtain ⟨hsends, hkept⟩ := held_sends_nothing hstep (hnone step (by simp)) hbefore hread
    refine ⟨hkept, fun t ht => ?_⟩
    rcases List.mem_append.1 (List.concat_eq_append ▸ ht) with ht | ht
    · exact hfree t ht
    · rw [List.mem_singleton.1 ht]
      exact hsends

/-- Nothing is sent after a plan that changes data, until another one is accepted. -/
theorem heldBack_steps {later rest : List Step} {p : Plan}
    (h : s.steps world none st requests = before ++ step :: (later ++ rest))
    (hafter : step.after = some p) (hread : p.isReadOnly = false)
    (hnone : ∀ t ∈ later, ∀ q, ¬ t.Accepts s q) : ∀ t ∈ later, DataFree t.events := by
  intro t ht
  obtain ⟨front, back, rfl⟩ := List.append_of_mem ht
  have hsplit : s.steps world none st requests =
      (before ++ step :: front) ++ t :: (back ++ rest) := by
    rw [h]
    simp
  have hstart : s.HeldBack [] none := fun early source later p heq => by simp at heq
  obtain ⟨-, -, hheld⟩ := steps_invariant hstart (fun past step => heldBack_step) hsplit
  have hsource : before ++ step :: front ++ [t] = before ++ step :: (front ++ [t]) := by simp
  refine (hheld before step (front ++ [t]) p hsource (fun u hu => hnone u ?_) hafter hread).2 t
    (by simp)
  rcases List.mem_append.1 hu with hu | hu
  · simp [hu]
  · simp [List.mem_singleton.1 hu]

/-- **A session sends nothing but queries.** In every run, a statement that is sent fetches a page of
the plan in force; a count that is sent is that of the plan whose rows have just come; and a plan that
is no query sends nothing, neither at once nor when pages are turned later: it is not accepted, so that
the plan before it stays, or nothing is sent until another plan is accepted. -/
theorem statements_are_queries (s : Session) (world : World Session.interface σ) (st : σ)
    (requests : List Request) (before : List Step) (step : Step) (after : List Step)
    (h : s.steps world none st requests = before ++ step :: after) :
    (∀ sql reply, .answered (.database (.execute sql)) reply ∈ step.events →
      ∃ p, s.Shows (before ++ [step]) p sql ∧ p.selectStatement = .ok sql ∧
        ∃ rest, sql = "SELECT " ++ rest) ∧
    (∀ earlier later sql reply,
      step.events = earlier ++ .answered (.database (.fetchValue sql)) reply :: later →
      ∃ p data rows first, s.Shows (before ++ [step]) p data ∧ p.countStatement? = some sql ∧
        earlier = first ++ [.answered (.database (.execute data)) (.ok rows)]) ∧
    (∀ p, step.Proposes s p → ¬ p.IsQuery → DataFree step.events ∧
      ((¬ step.Accepts s p ∧ step.after = step.before) ∨ ∀ later rest, after = later ++ rest →
        (∀ t ∈ later, t.request.turn? ≠ none ∨ ∀ q, ¬ t.Accepts s q) →
          ∀ t ∈ later, DataFree t.events)) := by
  refine ⟨fun sql reply hmem => ?_, fun earlier later sql reply hevents => ?_,
    fun p hp hquery => ?_⟩
  · obtain ⟨p, hshows⟩ := execute_shows h hmem
    exact ⟨p, hshows, hshows.starts⟩
  · exact fetchValue_counts h hevents
  · obtain ⟨hfree, hkept | ⟨hafter, hread⟩⟩ :=
      refused_sends_nothing (fromForce_steps h).1 hp hquery
    · exact ⟨hfree, .inl hkept⟩
    refine ⟨hfree, .inr fun later rest hlater hall => ?_⟩
    rw [hlater] at h
    refine heldBack_steps h hafter hread fun t ht q hq => ?_
    rcases hall t ht with hturn | hnone
    · obtain ⟨direction, hturn⟩ := Option.ne_none_iff_exists'.1 hturn
      have hmem : t ∈ s.steps world none st requests := by
        rw [h]
        simp [ht]
      exact not_proposes_of_turn (possible_of_mem_steps hmem) hturn q hq.proposed
    · exact hnone q hq

/-- The second page of a table is fetched by a page of the plan in force. -/
theorem secondPage_is_query :
    ∃ before after, twoPages = before ++ secondPage :: after ∧
      ∃ p, sample.Shows (before ++ [secondPage]) p "SELECT *\nFROM t\nLIMIT 5 OFFSET 5" := by
  obtain ⟨first, htwo⟩ := twoPages_eq
  have hfetched : secondPage.fetched = ["SELECT *\nFROM t\nLIMIT 5 OFFSET 5"] := by decide +kernel
  obtain ⟨reply, hreply⟩ := Step.mem_fetched (hfetched ▸ List.mem_singleton_self _)
  obtain ⟨hqueries, -⟩ := statements_are_queries sample sampleWorld () _ [first] secondPage [] htwo
  obtain ⟨p, hshows, -⟩ := hqueries _ reply hreply
  exact ⟨[first], [], htwo, p, hshows⟩

end Session

end QueryPlans
