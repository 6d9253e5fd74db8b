import QueryPlans.Database.Target
import QueryPlans.Settings.Source
import QueryPlans.Url.Normal
import QueryPlans.Validation.Reader

/-!
# Settings of the database

* `DatabaseSettings` — the URL of the database, and the limits of connections to it.
* `DatabaseSettings.read` — the settings of a source; a URL has to name a supported database and a
  host.
* `DatabaseSettings.target` — the target that the settings name.
-/

namespace QueryPlans

/-- The database to connect to. -/
structure DatabaseSettings where
  url : Option NormalUrl := none
  schemaName : String := "public"
  poolSize : Int := 5
  timeout : Int := 30
  deriving Repr, Inhabited

namespace DatabaseSettings

def readNormalUrl : Reader NormalUrl
  | .str s =>
    match NormalUrl.read s with
    | .ok u => .valid u
    | .error e => .issue (.urlUnreadable e.message)
  | _ => .issue .urlExpected

/-- Check that a URL names a supported database and a host. -/
def checkUrl (u : NormalUrl) : Checked NormalUrl :=
  match Url.split u.text with
  | .error e => .issue (.refused e.message)
  | .ok parts =>
    if !Target.isSupportedScheme parts.scheme then
      .issue (.refused "DATABASE_URL must use the postgresql scheme.")
    else if parts.host?.isNone then .issue (.refused "DATABASE_URL must include a host.")
    else .valid u

/-- The URL of a database; null and the empty text for none. -/
def readUrl : Reader (Option NormalUrl)
  | .null => .valid none
  | .str "" => .valid none
  | v => ((readNormalUrl v).andThen checkUrl).map some

def names : List String := ["url", "schema_name", "pool_size", "timeout"]

def ofFields (fields : Json.Fields) : Checked DatabaseSettings :=
  let default : DatabaseSettings := {}
  DatabaseSettings.mk
    <$> Reader.optional fields "url" none readUrl
    <*> Reader.optional fields "schema_name" default.schemaName (Reader.textOfAtLeast 1)
    <*> Reader.optional fields "pool_size" default.poolSize
      (Reader.above 0 (Reader.atMost 20 Reader.integer))
    <*> Reader.optional fields "timeout" default.timeout (Reader.above 0 Reader.integer)

/-- The settings of a source, behind the given ones. -/
def read (s : Source) (given : Json.Fields) : Checked DatabaseSettings :=
  ofFields (s.fields given "database_" names)

/-- The target that the settings name. -/
def target (s : DatabaseSettings) : Except TargetError Target :=
  match s.url with
  | none => .error .notConfigured
  | some u =>
    Target.ofUrl u.text { schemaName := s.schemaName, poolSize := s.poolSize, timeout := s.timeout }

end DatabaseSettings

end QueryPlans
