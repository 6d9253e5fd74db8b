import QueryPlans.Proofs.Plan.Limits
import QueryPlans.Proofs.Plan.Paging
import QueryPlans.Proofs.Session.Answered

/-!
# What a session retains and runs

Whatever is asked, replied and answered, the retained plan needs no other tables, has a table and a
statement, is at a page of at least one, and has a page size that the settings allow.  A plan that was
run is such a plan, and what was run is its statement.

* `Session.Fits` — all this of a plan.

Principal results: `Step.Possible.keeps_fit` — every step keeps it; `plans_fit` — it holds throughout
every run.
-/

namespace QueryPlans

/-! ## Outcomes of plans that were run -/

namespace Plan

variable {p : Plan} {sql summary : String} {es : List (Event Database.interface)}
  {r : Except Failure Outcome} {o : Outcome}

/-- The outcome is that the plan was run with its statement. -/
def RanAs (p : Plan) (sql : String) (o : Outcome) : Prop := o.plan = p ∧ o.sql? = some sql

theorem execute_ran (h : (p.execute sql summary).Trace es (.ok o)) : p.RanAs sql o := by
  rcases execute_trace h with ⟨f, -, -, -, hr⟩ | ⟨rows, -, total, -, -, -, -, hr⟩
  · cases hr
  · cases total with
    | error f => cases hr
    | ok total =>
      cases hr
      exact ⟨rfl, rfl⟩

theorem carryOut_ran (h : (p.carryOut sql summary).Trace es (.ok o)) (ho : o.isExecuted = true) :
    p.RanAs sql o := by
  unfold carryOut at h
  split at h
  · exact execute_ran h
  · obtain ⟨-, hr | ⟨f, hr⟩⟩ := holdForReview_trace h
    · cases hr
      cases ho
    · cases hr

theorem showPage_ran (h : (Retained.showPage p sql).Trace es (.ok o)) : p.RanAs sql o := by
  rcases Retained.showPage_trace h with ⟨-, e, hr⟩ | ⟨_, tail, summary, -, -, hexec⟩
  · cases hr
  · exact execute_ran hexec

end Plan

namespace Session

variable {σ : Type} {s : Session} {step : Step} {p : Plan}

/-- The plan needs no other tables, has a table and a statement, and its page and page size are
within bounds. -/
structure Fits (s : Session) (p : Plan) : Prop where
  here : p.needOtherTables = false
  page : 1 ≤ p.page
  limit : 1 ≤ p.limit
  most : ∀ most, s.settings.maxLimit = some most → p.limit ≤ most
  tables : p.tables ≠ []
  statement : ∃ sql, p.statement = .ok sql

theorem readPlan_bounds {reply : String} (hs : s.settings.Sound) (h : s.readPlan reply = .ok p) :
    1 ≤ p.page ∧ s.settings.Allows p.limit := by
  unfold readPlan at h
  cases hread : Plan.read reply s.host with
  | error e => rw [hread] at h; cases h
  | ok q =>
    rw [hread] at h
    cases h
    have hq := Plan.read_positive hread
    rw [PlannerSettings.applyTo_page]
    exact ⟨hq.page, PlannerSettings.allows_applyTo hs hq.limit⟩

theorem Step.Accepts.fits (hs : s.settings.Sound) (h : step.Accepts s p) : s.Fits p := by
  obtain ⟨request, response, -, hread⟩ := h.proposed
  obtain ⟨hpage, hlimit⟩ := readPlan_bounds hs hread
  obtain ⟨sql, hsql⟩ := h.statement
  exact ⟨h.here, hpage, hlimit.positive, hlimit.bounded, Plan.tables_ne_nil_of_statement hsql,
    sql, hsql⟩

/-- To turn the page leaves a plan that fits, if it has a statement there. -/
theorem Fits.turned {direction : Navigation} {sql : String} (h : s.Fits p)
    (hsql : (p.step direction).statement = .ok sql) : s.Fits (p.step direction) := by
  obtain ⟨page, hstep, hpage⟩ := p.step_eq_atPage direction
  refine ⟨?_, ?_, ?_, ?_, Plan.tables_ne_nil_of_statement hsql, sql, hsql⟩
  · rw [Plan.step_needOtherTables]
    exact h.here
  · rw [hstep]
    exact hpage h.page
  · rw [Plan.step_limit]
    exact h.limit
  · rw [Plan.step_limit]
    exact h.most

/-- The retained plan fits, if there is one. -/
def RetainedFits (s : Session) (retained : Retained) : Prop := ∀ p, retained = some p → s.Fits p

/-- A step that ends with a plan that was run has run the statement of a plan that fits. -/
def RunFits (s : Session) (step : Step) : Prop :=
  ∀ o, step.result = .ok o → o.isExecuted = true →
    s.Fits o.plan ∧ ∃ sql, o.sql? = some sql ∧ o.plan.statement = .ok sql

theorem runFits_of_ran {sql : String} (hp : s.Fits p) (hsql : p.statement = .ok sql)
    (h : ∀ o, step.result = .ok o → o.isExecuted = true → p.RanAs sql o) : s.RunFits step := by
  intro o hresult ho
  obtain ⟨rfl, hran⟩ := h o hresult ho
  exact ⟨hp, sql, hran, hsql⟩

/-- Every step keeps a retained plan that fits, and runs no other. -/
theorem Step.Possible.keeps_fit (hs : s.settings.Sound) (h : step.Possible s)
    (hbefore : s.RetainedFits step.before) : s.RetainedFits step.after ∧ s.RunFits step := by
  cases h.effect with
  | idle _ kept result =>
    refine ⟨by rw [kept]; exact hbefore, fun o hresult ho => ?_⟩
    rw [result o hresult] at ho
    cases ho
  | accepted p sql summary accepts _ statement retained early _ ds _ _ _ carried =>
    have hp : s.Fits p := accepts.fits hs
    refine ⟨fun q hq => ?_, runFits_of_ran hp statement fun o hresult ho => ?_⟩
    · rw [retained] at hq
      cases hq
      exact hp
    · rw [hresult] at carried
      exact Plan.carryOut_ran carried ho
  | turned current direction sql _ retained _ statement moved ds _ shown =>
    have hp : s.Fits (current.step direction) := (hbefore current retained).turned statement
    refine ⟨fun q hq => ?_, runFits_of_ran hp statement fun o hresult _ => ?_⟩
    · rw [moved] at hq
      cases hq
      exact hp
    · rw [hresult] at shown
      exact Plan.showPage_ran shown

/-- **What a session retains and runs is within bounds.** With settings that were read, in every run,
the plan that is retained before and after each step fits; and if a step ends with a plan that was
run, that plan fits, and what was run is its statement. -/
theorem plans_fit (s : Session) (fields : Json.Fields)
    (hsettings : PlannerSettings.ofFields fields = .valid s.settings)
    (world : World Session.interface σ) (st : σ) (requests : List Request) (before : List Step)
    (step : Step) (after : List Step)
    (h : s.steps world none st requests = before ++ step :: after) :
    (∀ p, step.before = some p ∨ step.after = some p → s.Fits p) ∧
    (∀ p summary sql count rows page,
      step.result = .ok (.executed p summary sql count rows page) →
        s.Fits p ∧ p.statement = .ok sql) := by
  have hs := PlannerSettings.ofFields_sound hsettings
  have hnone : s.RetainedFits none := fun p hp => nomatch hp
  obtain ⟨hpossible, hbefore, hafter⟩ :=
    steps_invariant (P := fun _ retained => s.RetainedFits retained) hnone
      (fun _ _ hstep hbefore => (hstep.keeps_fit hs hbefore).1) h
  refine ⟨fun p hp => hp.elim (hbefore p) (hafter p), fun p summary sql count rows page hr => ?_⟩
  obtain ⟨hfits, _, hsql, hstatement⟩ := (hpossible.keeps_fit hs hbefore).2 _ hr rfl
  cases hsql
  exact ⟨hfits, hstatement⟩

/-- The plan at the second page of the sample run fits, and its statement was run. -/
theorem secondPage_fits :
    PlannerSettings.ofFields [("default_limit", .int 5), ("max_limit", .int 10)] =
      .valid sample.settings ∧
    ∃ before after, twoPages = before ++ secondPage :: after ∧
      sample.Fits (samplePlan.step .next) ∧
      (samplePlan.step .next).statement = .ok "SELECT *\nFROM t\nLIMIT 5 OFFSET 5" := by
  have hsettings : PlannerSettings.ofFields [("default_limit", .int 5), ("max_limit", .int 10)] =
      .valid sample.settings := by
    rfl
  obtain ⟨first, htwo⟩ := twoPages_eq
  obtain ⟨-, hran⟩ := plans_fit sample _ hsettings sampleWorld () _ [first] secondPage [] htwo
  have hshown : secondPage.result.toOption.map (fun o => (o.isExecuted, o.plan, o.sql?)) =
      some (true, samplePlan.step .next, some "SELECT *\nFROM t\nLIMIT 5 OFFSET 5") := by
    decide +kernel
  obtain ⟨o, ho, heq⟩ := Option.map_eq_some_iff.1 hshown
  have hresult := eq_ok_of_toOption ho
  cases o with
  | needOtherTables => cases heq
  | review => cases heq
  | executed p summary sql count rows page =>
    cases heq
    obtain ⟨hfits, hstatement⟩ := hran _ _ _ _ _ _ hresult
    exact ⟨hsettings, [first], [], htwo, hfits, hstatement⟩

end Session

end QueryPlans
