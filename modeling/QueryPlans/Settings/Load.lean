import QueryPlans.Json.Decode
import QueryPlans.Settings.Database
import QueryPlans.Settings.Logging
import QueryPlans.Settings.Model
import QueryPlans.Settings.Planner

/-!
# All settings

The four groups are read in order.  A group may be given as an object, in a variable of its own or
by the caller; its fields come before the variables of the group.  A group that is not given and
does not fit ends the reading at once; issues of given groups are put together.

* `Settings.load` — the settings of a source.
* `Origin` — the environment of a process with its files; `Origin.preferred` lets the project's
  file come first, unless the environment says otherwise.
* `Settings.recall` — the settings that were loaded before, or those of the process.
-/

namespace QueryPlans

/-- All settings. -/
structure Settings where
  model : ModelSettings
  database : DatabaseSettings
  planner : PlannerSettings
  logging : LogSettings
  deriving Repr, Inhabited

/-- Why there are no settings. -/
inductive SettingsError where
  /-- The variable of a group is not JSON. -/
  | unparsable (group source : String)
  /-- The variable of a group is nested too deep. -/
  | nested (l : Json.Limit)
  | invalid (issues : List Issue)
  deriving Repr

/-- What is reported. The issues of values are listed apart from the message. -/
def SettingsError.message : SettingsError → String
  | unparsable group source =>
    "error parsing value for field \"" ++ group ++ "\" from source \"" ++ source ++ "\""
  | nested l => l.message
  | invalid _ => ""

namespace Settings

/-- The groups, in the order in which they are read. -/
def groups : List String := ["llm", "database", "planner", "logging"]

/-- The object that a variable holds; null for none. -/
def decodeGroup (source group : String) : Option String → Except SettingsError (Option Json)
  | none => .ok none
  | some text =>
    match Json.decode text with
    | .error (.malformed ..) | .error (.exceeded (.digits _)) => .error (.unparsable group source)
    | .error (.exceeded l) => .error (.nested l)
    | .ok .null => .ok none
    | .ok v => .ok (some v)

/-- The values of all groups in one source. -/
def decodeGroups (source : String) (find? : String → Option String) :
    Except SettingsError Json.Fields :=
  groups.foldlM (fun fields group => do
    let v ← decodeGroup source group (find? group)
    return v.elim fields fun v => fields ++ [(group, v)]) []

/-- The fields of one object over those of another. -/
def overlay (front base : Json.Fields) : Json.Fields :=
  front.foldl (fun fields f => fields.put f.1 f.2) base

/-- The value of a group: given fields come before those of the environment, and those before the
file's. A value that is no object hides those behind it. -/
def layered : List (Option Json) → Option Json
  | [] => none
  | none :: rest => layered rest
  | some (.obj front) :: rest =>
    match layered rest with
    | some (.obj base) => some (.obj (overlay front base))
    | _ => some (.obj front)
  | some v :: _ => some v

def readGroup {α : Type} (read : Json.Fields → Checked α) (group model : String) :
    Option Json → Except SettingsError (Checked α)
  | none =>
    match read [] with
    | .valid a => .ok (.valid a)
    | .invalid issues => .error (.invalid issues)
  | some (.obj given) => .ok ((read given).under (.field group))
  | some _ => .ok ((Checked.issue (.modelExpected model)).under (.field group))

/-- The settings of a source, behind the given ones. -/
def load (s : Source) (given : Json.Fields) : Except SettingsError Settings := do
  let fromEnvironment ← decodeGroups "EnvSettingsSource" fun group =>
    Source.lastNamed? group s.environment
  let fromFile ← decodeGroups "DotEnvSettingsSource" fun group =>
    (Source.lastNamed? group s.file).join
  let value (group : String) : Option Json :=
    layered [given.get? group, fromEnvironment.get? group, fromFile.get? group]
  let model ← readGroup (ModelSettings.read s) "llm" "LLMSettings" (value "llm")
  let database ← readGroup (DatabaseSettings.read s) "database" "DatabaseSettings"
    (value "database")
  let planner ← readGroup (PlannerSettings.read s) "planner" "PlannerSettings" (value "planner")
  let logging ← readGroup (LogSettings.read s) "logging" "LoggingSettings" (value "logging")
  match Settings.mk <$> model <*> database <*> planner <*> logging with
  | .invalid issues => throw (.invalid issues)
  | .valid settings =>
    match settings.logging.formatError? with
    | some reason => throw (.invalid [⟨[], .refused reason⟩])
    | none => return settings

/-- The entry of the log when settings were loaded. -/
def loadedEntry (s : Settings) : LogEntry :=
  ⟨.info, "querypilot.config", "Settings loaded (provider: " ++ s.model.defaultProvider.name ++ ")"⟩

end Settings

/-- The environment of a process, with the files that it reads variables from and what else the process
decides. -/
structure Origin where
  environment : List (String × String) := []
  /-- The file in the working directory. -/
  file : Option String := none
  /-- The file of the project. -/
  projectFile : Option String := none
  host : Host := {}
  deriving Repr, Inhabited

namespace Origin

/-- The variable that says which variables come first. -/
def preferenceName : String := "QUERYPILOT_ENV_SOURCE"

/-- The names of the variables that settings are read from. -/
def variableNames : List String :=
  let named (start : String) (names : List String) := names.map (start ++ ·)
  preferenceName :: (Settings.groups ++ named "llm_" ModelSettings.names ++
    named "database_" DatabaseSettings.names ++ named "planner_" PlannerSettings.names ++
    named "log_" LogSettings.names).map Text.upper

/-- The variables of a file that may not be there, in an environment. -/
def variablesOf (environment : List (String × String)) (content : Option String) :
    List (String × Option String) :=
  content.elim [] fun text => Dotenv.expand environment (Dotenv.parse text)

/-- The source of settings in an environment. -/
def sourceIn (o : Origin) (environment : List (String × String)) : Source :=
  ⟨environment, variablesOf environment o.file⟩

/-- The source of settings. -/
def source (o : Origin) : Source := o.sourceIn o.environment

/-- The environment lets the project's file come first. -/
def prefersFile (o : Origin) : Bool :=
  match (o.environment.lookup preferenceName).map Text.lower with
  | none => true
  | some word => ["dotenv", "envfile", "file"].contains word

/-- The environment, in which the project's file may come first. -/
def preferredEnvironment (o : Origin) : List (String × String) :=
  if o.prefersFile then
    Source.withFile o.environment (variablesOf o.environment o.projectFile)
  else o.environment

/-- The source of settings in which the project's file may come first. -/
def preferred (o : Origin) : Source := o.sourceIn o.preferredEnvironment

end Origin

/-- The settings that were loaded before, or else those of their origin. -/
def Settings.recall (loaded : Option Settings) (o : Origin) : Except SettingsError Settings :=
  match loaded with
  | some s => .ok s
  | none => Settings.load o.preferred []

end QueryPlans
