import QueryPlans.Session
import QueryPlans.Settings.Load

/-!
# Sessions from settings

* `Settings.connection` — the target of the settings, or the failure to name one.
* `Session.ofSettings` — the target and the session that settings describe: the target is looked for
  before the model.
-/

namespace QueryPlans

/-- The failure of settings that cannot be read. -/
def SettingsError.toFailure (reports : Reports) : SettingsError → Failure
  | .invalid issues => .fault (.invalid issues (reports.text "Settings" .null issues))
  | .nested l => .fault (.ofLimit l)
  | e => .fault (.raised .settings e.message)

/-- The failure of a URL that names no target. -/
def TargetError.toFailure : TargetError → Failure
  | .takenOption name => .fault (.raised .badType (TargetError.takenOption name).message)
  | e => .fault (.raised .badValue e.message)

/-- The failure of settings without a model. -/
def ProviderError.toFailure (e : ProviderError) : Failure := .fault (.raised .badValue e.message)

def Settings.connection (s : Settings) : Except Failure Target :=
  s.database.target.mapError (·.toFailure)

/-- The target and the session that settings describe, in a process. -/
def Session.ofSettings (s : Settings) (host : Host := {}) : Except Failure (Target × Session) := do
  let target ← s.connection
  let provider ← (Provider.createDefault s.model).mapError (·.toFailure)
  return ({ target with reports := host.reports },
    ⟨s.planner, { provider with reports := host.reports }, host⟩)

end QueryPlans
