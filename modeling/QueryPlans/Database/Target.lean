import QueryPlans.Host
import QueryPlans.Url.Basic
import QueryPlans.Url.Percent

/-!
# Where to connect to

* `databaseType` — the kind of database that a URL names.
* `Target` — the database with the account and the limits of its connections.
* `Target.ofUrl` — the target of a URL.  A host is needed before anything else; user and password
  are unescaped; a missing part, or port zero, gets its default.
-/

namespace QueryPlans

/-- Why a URL names no target. -/
inductive TargetError where
  | url (e : Url.SplitError)
  | noHost
  | unsupportedScheme (scheme : String)
  | port (e : Url.PortError)
  /-- An option has the name of something that is given apart from the options. -/
  | takenOption (name : String)
  | notConfigured
  deriving DecidableEq, Repr

def TargetError.message : TargetError → String
  | url e => e.message
  | noHost => "Invalid database URL: host is required."
  | unsupportedScheme scheme => "Unsupported database URL scheme: " ++ scheme
  | port e => e.message
  | takenOption name => "multiple values for " ++ Text.quote name
  | notConfigured => "No target database configured. Set DATABASE_URL."

/-- A database, an account there, and the limits of its connections. -/
structure Target where
  host : String
  port : Int
  database : String
  user : String
  password : String
  schemaName : String := "public"
  poolSize : Int := 10
  /-- Seconds that a statement may take. -/
  timeout : Int := 30
  /-- Further options for the driver. -/
  options : Json.Fields := []
  reports : Reports := default
  deriving Repr, Inhabited

namespace Target

/-- The port of a database server. -/
def defaultPort : Nat := 5432

/-- The account and the database when a URL names none. -/
def defaultName : String := "postgres"

/-- The kind of database that is supported. -/
def supportedType : String := "postgresql"

/-- A scheme without the driver behind its plus sign. -/
def baseScheme (scheme : String) : String :=
  Text.lower (String.ofList (Text.cut '+' scheme.toList).1)

/-- The scheme names the supported kind of database. -/
def isSupportedScheme (scheme : String) : Bool :=
  ["postgres", "postgresql"].contains (baseScheme scheme)

/-- The text with the usual driver taken out of its scheme. -/
def withoutDriver (url : String) : String :=
  String.ofList
    (Text.replaceAll "postgresql+asyncpg://".toList "postgresql://".toList url.toList)

/-- Take the URL of a database apart. -/
def splitUrl (url : String) : Except TargetError Url :=
  (Url.split (withoutDriver url)).mapError .url

/-- The kind of database that a URL names. -/
def databaseType (url : String) : Except TargetError String := do
  let u ← splitUrl url
  if isSupportedScheme u.scheme then return supportedType
  else throw (.unsupportedScheme u.scheme)

/-- A part without its escapes, or the default for a part that is missing or empty. -/
def unescapedOr (default : String) (part : Option String) : String :=
  match part with
  | none => default
  | some s => if s = "" then default else Url.unescape s

/-- The database that a path names. -/
def databaseOfPath (path : String) : String :=
  let name := String.ofList (path.toList.dropWhile (· == '/'))
  if name = "" then defaultName else name

/-- The port to use. -/
def portOrDefault : Option Nat → Nat
  | none => defaultPort
  | some 0 => defaultPort
  | some n => n

/-- Limits and options of the connections to a target. -/
structure Limits where
  schemaName : String := "public"
  poolSize : Int := 10
  timeout : Int := 30
  options : Json.Fields := []
  deriving Repr, Inhabited

/-- The first option with one of the names. -/
def Limits.taken? (names : List String) (l : Limits) : Option String :=
  l.options.names.find? names.contains

/-- The name under which the URL itself is given. -/
def urlName : String := "database_url"

/-- The names of what a URL tells of a target. -/
def partNames : List String := ["host", "port", "database", "user", "password"]

/-- The target of a URL. -/
def ofUrl (url : String) (limits : Limits) : Except TargetError Target := do
  if let some name := limits.taken? [urlName] then throw (.takenOption name)
  let u ← splitUrl url
  match u.host? with
  | none => throw .noHost
  | some host =>
    if !isSupportedScheme u.scheme then throw (.unsupportedScheme u.scheme)
    let port ← u.port.mapError .port
    if let some name := limits.taken? partNames then throw (.takenOption name)
    return {
      host
      port := portOrDefault port
      database := databaseOfPath u.path
      user := unescapedOr defaultName u.user?
      password := unescapedOr "" u.password?
      schemaName := limits.schemaName
      poolSize := limits.poolSize
      timeout := limits.timeout
      options := limits.options }

/-- Account, server and database in one word. -/
def address (t : Target) : String :=
  t.user ++ "@" ++ t.host ++ ":" ++ Numeral.text t.port ++ "/" ++ t.database

/-- The target and whether it is connected. -/
def describe (t : Target) (connected : Bool) : String :=
  "<PostgresConnector " ++ t.address ++ " (" ++
    (if connected then "connected" else "disconnected") ++ ")>"

end Target

end QueryPlans
