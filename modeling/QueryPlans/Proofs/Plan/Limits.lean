import QueryPlans.Proofs.Plan.Fields
import QueryPlans.Settings.Planner

/-!
# Page sizes within the settings

* `PlannerSettings.Sound` — a page size for plans that say nothing, and not above the greatest.
* `PlannerSettings.Allows` — a page size that the settings leave to a plan.

Principal results: `ofFields_sound` — settings that were read hold together; `allows_applyTo` —
whatever page size a plan has, or none, the settings give it one that they allow.
-/

namespace QueryPlans

/-! ## Readers with bounds -/

theorem Reader.above_eq_valid {bound : Nat} {read : Reader Int} {v : Json} {n : Int}
    (h : Reader.above bound read v = .valid n) : (bound : Int) < n := by
  unfold Reader.above at h
  obtain ⟨m, -, hm⟩ := Checked.andThen_eq_valid_iff.1 h
  split at hm
  · cases hm
  · cases hm
    omega

namespace PlannerSettings

/-- The page size for plans that say nothing is positive, and not above the greatest. -/
structure Sound (s : PlannerSettings) : Prop where
  positive : 1 ≤ s.defaultLimit
  ordered : ∀ most, s.maxLimit = some most → s.defaultLimit ≤ most

/-- Settings that were read hold together. -/
theorem ofFields_sound {fields : Json.Fields} {s : PlannerSettings}
    (h : ofFields fields = .valid s) : s.Sound := by
  unfold ofFields at h
  obtain ⟨t, hread, hcheck⟩ := Checked.andThen_eq_valid_iff.1 h
  have hpositive : 1 ≤ t.defaultLimit := by
    simp only [Checked.ap_eq_valid_iff, Checked.map_eq_valid_iff] at hread
    obtain ⟨_, _, ⟨_, _, ⟨_, _, ⟨limit, hlimit, rfl⟩, -, rfl⟩, -, rfl⟩, -, rfl⟩ := hread
    change 1 ≤ limit
    rcases Reader.optional_eq_valid hlimit with rfl | ⟨v, hv⟩
    · decide
    · have := Reader.above_eq_valid hv
      omega
  unfold checkLimits at hcheck
  split at hcheck
  · rename_i hnone
    cases hcheck
    exact ⟨hpositive, fun most hmost => by rw [hnone] at hmost; cases hmost⟩
  · rename_i most hsome
    split at hcheck
    · cases hcheck
    · cases hcheck
      refine ⟨hpositive, fun most' hmost => ?_⟩
      rw [hsome] at hmost
      cases hmost
      omega

/-- The page size is positive, and not above the greatest. -/
structure Allows (s : PlannerSettings) (limit : Int) : Prop where
  positive : 1 ≤ limit
  bounded : ∀ most, s.maxLimit = some most → limit ≤ most

/-- A page size, but at most the greatest. -/
def capped (s : PlannerSettings) (limit : Int) : Int :=
  match s.maxLimit with
  | none => limit
  | some most => if most < limit then most else limit

theorem limitFor_eq (s : PlannerSettings) (p : Plan) :
    s.limitFor p = s.capped (if p.isGiven .limit then p.limit else s.defaultLimit) := rfl

/-- The page size that is wanted, but at most the greatest, is allowed. -/
theorem allows_capped {s : PlannerSettings} (hs : s.Sound) {wanted : Int} (hwanted : 1 ≤ wanted) :
    s.Allows (s.capped wanted) := by
  unfold capped
  cases hmost : s.maxLimit with
  | none => exact ⟨hwanted, fun most h => by rw [hmost] at h; cases h⟩
  | some most =>
    have hpositive : 1 ≤ most := by
      have := hs.ordered most hmost
      have := hs.positive
      omega
    refine ⟨?_, fun most' h => ?_⟩
    · show 1 ≤ (if most < wanted then most else wanted)
      split
      · exact hpositive
      · exact hwanted
    · rw [hmost] at h
      cases h
      show (if most < wanted then most else wanted) ≤ most
      split <;> omega

theorem allows_limitFor {s : PlannerSettings} {p : Plan} (hs : s.Sound) (hp : 1 ≤ p.limit) :
    s.Allows (s.limitFor p) := by
  rw [limitFor_eq]
  refine allows_capped hs ?_
  split
  · exact hp
  · exact hs.positive

theorem applyTo_limit (s : PlannerSettings) (p : Plan) : (s.applyTo p).limit = s.limitFor p := by
  unfold applyTo
  split
  · rename_i h
    exact h.symm
  · rfl

theorem applyTo_page (s : PlannerSettings) (p : Plan) : (s.applyTo p).page = p.page := by
  unfold applyTo
  split <;> rfl

/-- Whatever page size a plan has, the settings give it one that they allow. -/
theorem allows_applyTo {s : PlannerSettings} {p : Plan} (hs : s.Sound) (hp : 1 ≤ p.limit) :
    s.Allows (s.applyTo p).limit := by
  rw [applyTo_limit]
  exact allows_limitFor hs hp

end PlannerSettings

end QueryPlans
