import QueryPlans.Database.Call
import QueryPlans.Database.Catalogue
import QueryPlans.Database.Pool
import QueryPlans.Database.Target

/-!
# Connectors

A connector answers the calls on a database by calls on the driver.  Every fault of the driver
becomes one of the connector, but a cancellation comes through.

* `Connector` — the pool that is held, and whether the connector counts as connected.
* `Connector.connect`, `Connector.close` — open and close the pool; the first does nothing on a
  connected connector, the second nothing without a pool.
* `Connector.execute`, `Connector.fetchValue`, `Connector.describeColumns`,
  `Connector.describeForeignKeys`, `Connector.tableExists` — statements through the pool.
* `Connector.answer` — the answer to a call on the database.
-/

namespace QueryPlans

/-- What a connector holds. -/
structure Connector where
  pool : Option Pool := none
  connected : Bool := false
  deriving DecidableEq, Repr, Inhabited

namespace Connector

open Pool (call)

/-- Where entries of the log come from. -/
def logSource : String := "querypilot.connectors.postgres"

def logInfo (message : String) : PoolProgram Unit := Program.log .info logSource message

def logError (message : String) : PoolProgram Unit := Program.log .error logSource message

/-! ## Faults -/

/-- How faults of the driver are noted and reported: cancelled by the server, other faults of the
server, and all the rest. What is said of a statement that the server cancelled may hold a number that
cannot be written. -/
structure Wording where
  kind : Fault.Kind
  /-- The entry of the log and the report. -/
  canceled : String → Except Numeral.Error (String × String)
  serverNote : String → String
  server : String → String
  otherNote : String → String
  other : String → String

/-- The fault of the connector for one of the driver. -/
def Wording.report (w : Wording) (f : Fault) : PoolProgram Fault :=
  let e := f.message
  if f.isCancellation then return f
  else if f.isOneOf [.queryCanceled] then
    match w.canceled e with
    | .error n => return .ofNumeral n
    | .ok (note, report) => do
      logError note
      return .raised w.kind report
  else if f.isPostgres then do
    logError (w.serverNote e)
    return .raised w.kind (w.server e)
  else do
    logError (w.otherNote e)
    return .raised w.kind (w.other e)

/-- A wording that does not tell apart what was cancelled by the server. -/
def Wording.plain (kind : Fault.Kind) (serverNote server otherNote other : String → String) :
    Wording :=
  ⟨kind, fun e => .ok (serverNote e, server e), serverNote, server, otherNote, other⟩

/-- Connecting. -/
def connecting : Wording :=
  .plain .connection ("PostgreSQL connection failed: " ++ ·)
    ("Failed to connect to PostgreSQL: " ++ ·) ("Unexpected error during connection: " ++ ·)
    ("Connection error: " ++ ·)

/-- Closing. -/
def closing : Wording :=
  .plain .connection ("Error closing connection: " ++ ·) ("Failed to close connection: " ++ ·)
    ("Error closing connection: " ++ ·) ("Failed to close connection: " ++ ·)

/-- The start of a statement, for the log. -/
def excerpt (length : Nat) (sql : String) : String := Text.take length sql ++ "..."

/-- What is said of a statement that the server cancelled: it took longer than so many seconds. -/
def timedOut (what sql : String) (seconds : Int) : Except Numeral.Error (String × String) := do
  let seconds ← Numeral.write? seconds
  return (what ++ " timed out after " ++ seconds ++ "s: " ++ excerpt 100 sql,
    "Query timeout (" ++ seconds ++ "s)")

/-- Running a statement. -/
def executing (sql : String) (timeout : Int) : Wording :=
  { kind := .query
    canceled := fun _ => timedOut "Query" sql timeout
    serverNote := fun e => "Query failed: " ++ e ++ "\nQuery: " ++ excerpt 200 sql
    server := ("Query execution failed: " ++ ·)
    otherNote := ("Unexpected error during query execution: " ++ ·)
    other := ("Query error: " ++ ·) }

/-- Reading a value. -/
def fetchingValue (sql : String) (timeout : Int) : Wording :=
  { kind := .query
    canceled := fun _ => timedOut "Scalar query" sql timeout
    serverNote := fun e => "Scalar query failed: " ++ e ++ "\nQuery: " ++ excerpt 200 sql
    server := ("Query execution failed: " ++ ·)
    otherNote := ("Unexpected error during scalar query: " ++ ·)
    other := ("Query error: " ++ ·) }

/-- Reading the columns of a table. -/
def describing (table : String) : Wording :=
  let report (e : String) := "Failed to describe " ++ table ++ ": " ++ e
  .plain .schema (fun e => "Describing " ++ table ++ " failed: " ++ e) report
    (fun e => "Unexpected error describing " ++ table ++ ": " ++ e) report

/-- Reading the foreign keys of a table. -/
def readingForeignKeys (table : String) : Wording :=
  let report (e : String) := "Failed to read foreign keys of " ++ table ++ ": " ++ e
  .plain .schema (fun e => "Foreign key lookup for " ++ table ++ " failed: " ++ e) report
    (fun e => "Unexpected error reading foreign keys of " ++ table ++ ": " ++ e) report

/-- Asking for a table. -/
def checkingTable (name : String) : Wording :=
  let report (e : String) := "Failed to check table " ++ name ++ ": " ++ e
  .plain .schema (fun e => "Existence check for " ++ name ++ " failed: " ++ e) report
    (fun e => "Unexpected error checking table " ++ name ++ ": " ++ e) report

/-- Report the fault of a program in a wording. -/
def reporting {α : Type} (w : Wording) (p : PoolProgram (Except Fault α)) :
    PoolProgram (Except Fault α) := do
  match ← p with
  | .ok a => return .ok a
  | .error f => return .error (← w.report f)

/-! ## Connections -/

/-- The options of the pool that a target fixes. -/
def fixedOptions (t : Target) : Json.Fields :=
  [("host", .str t.host), ("port", .int t.port), ("database", .str t.database),
    ("user", .str t.user), ("password", .str t.password), ("min_size", .int 1),
    ("max_size", .int t.poolSize), ("command_timeout", .int t.timeout)]

/-- The options of the pool for a target: none is given twice. -/
def poolOptions (t : Target) : Except Fault Json.Fields :=
  match t.options.names.find? (fixedOptions t).names.contains with
  | some name => .error (.raised .badType
      ("create_pool() got multiple values for keyword argument " ++ Text.quote name))
  | none => .ok (fixedOptions t ++ t.options)

/-- The statement that asks a server what it is. -/
def versionQuery : String := "SELECT version()"

/-- The name of a server: what it says it is, up to the first comma. -/
def serverName (version : String) : String := String.ofList (version.toList.takeWhile (· != ','))

/-- Check what a server says it is: a text, for its name. -/
def checkVersion : Json → Except Fault String
  | .str version => .ok (serverName version)
  | v => .error (.raised .noAttribute
      (Text.quote (Plan.kindName v) ++ " object has no attribute 'split'"))

/-- Do something with a connection out of a pool. It is given back behind that, and a failure to give it
back comes before one of what was done. -/
def withConnection {α : Type} (pool : Pool) (body : PoolProgram (Except Fault α)) :
    PoolProgram (Except Fault α) := do
  match ← call (.acquire pool) with
  | .error f => return .error f
  | .ok () =>
    let r ← body
    match ← call (.release pool) with
    | .error f => return .error f
    | .ok () => return r

/-- Ask the server behind a pool what it is. -/
def askVersion (pool : Pool) : PoolProgram (Except Fault Unit) := do
  match ← call (.fetchValue pool versionQuery []) with
  | .error f => return .error f
  | .ok v =>
    match checkVersion v with
    | .error f => return .error f
    | .ok name =>
      logInfo ("Connected to PostgreSQL: " ++ name)
      return .ok ()

/-- Check the server behind a pool. -/
def checkServer (pool : Pool) : PoolProgram (Except Fault Unit) := withConnection pool (askVersion pool)

/-- The pool of a connected connector. -/
def activePool? (s : Connector) : Option Pool := if s.connected then s.pool else none

/-- Open a pool for a target. -/
def createPool (t : Target) : PoolProgram (Except Fault Pool) := do
  match Numeral.write? t.port with
  | .error e => return .error (.ofNumeral e)
  | .ok port =>
    logInfo ("Connecting to PostgreSQL at " ++ t.host ++ ":" ++ port ++ "/" ++ t.database)
    match poolOptions t with
    | .error f => return .error f
    | .ok options => call (.create options)

/-- Open a pool and check its server. The pool is held from when it was opened. -/
def openPool (t : Target) (s : Connector) : PoolProgram (Except Fault Unit × Connector) := do
  match ← createPool t with
  | .error f => return (.error (← connecting.report f), s)
  | .ok pool =>
    match ← checkServer pool with
    | .error f => return (.error (← connecting.report f), { s with pool := some pool })
    | .ok () => return (.ok (), { pool := some pool, connected := true })

/-- Connect, unless the connector is connected. -/
def connect (t : Target) (s : Connector) : PoolProgram (Except Fault Unit × Connector) :=
  match s.activePool? with
  | some _ => return (.ok (), s)
  | none => openPool t s

/-- Close the pool, if one is held. It stays held if that fails. -/
def close (s : Connector) : PoolProgram (Except Fault Unit × Connector) := do
  match s.pool with
  | none => return (.ok (), s)
  | some pool =>
    match ← call (.close pool) with
    | .error f => return (.error (← closing.report f), s)
    | .ok () =>
      logInfo "PostgreSQL connection closed"
      return (.ok (), {})

/-- The fault of a call on a connector that is not connected. -/
def notConnected : Fault :=
  .raised .connection "Not connected to database. Call connect() first."

/-- Carry out a program with a connection out of the pool of a connected connector. -/
def withPool {α : Type} (s : Connector) (w : Wording)
    (p : Pool → PoolProgram (Except Fault α)) : PoolProgram (Except Fault α) :=
  match s.activePool? with
  | none => return .error notConnected
  | some pool => reporting w (withConnection pool (p pool))

/-! ## Statements -/

/-- The seconds that a statement may take: given ones, unless they are zero, or the target's. -/
def timeoutOr (t : Target) (timeout : Option Int) : Int :=
  (timeout.filter (· != 0)).getD t.timeout

/-- The statement that limits how long a statement may take. -/
def limitStatement (seconds : Int) : Except Fault String :=
  ((Numeral.write? (seconds * 1000)).mapError Fault.ofNumeral).map ("SET statement_timeout = " ++ ·)

/-- Rows of records under the columns of their statement. -/
def toRows (statement : Pool.Statement) (records : List Pool.Record) : Rows :=
  { columns := statement.columns
    rows := records.map (·.toFields)
    rowCount := records.length }

/-- Run a statement through a pool. -/
def runStatement (sql : String) (seconds : Int) (pool : Pool) :
    PoolProgram (Except Fault Rows) := do
  match limitStatement seconds with
  | .error f => return .error f
  | .ok limit =>
    match ← call (.execute pool limit) with
    | .error f => return .error f
    | .ok () =>
      match ← call (.prepare pool sql) with
      | .error f => return .error f
      | .ok statement =>
        match ← call (.fetchPrepared pool statement) with
        | .error f => return .error f
        | .ok records => return .ok (toRows statement records)

def execute (t : Target) (s : Connector) (sql : String) (timeout : Option Int := none) :
    PoolProgram (Except Fault Rows) :=
  let seconds := timeoutOr t timeout
  s.withPool (executing sql seconds) (runStatement sql seconds)

/-- The first value of the first row of a statement. -/
def fetchValue (t : Target) (s : Connector) (sql : String) : PoolProgram (Except Fault Json) :=
  s.withPool (fetchingValue sql t.timeout) fun pool => call (.fetchValue pool sql [])

/-- The rows of a statement on the catalogue, for a table. -/
def fetchCatalogue (t : Target) (s : Connector) (w : Wording) (sql table : String) :
    PoolProgram (Except Fault (List Pool.Record)) :=
  s.withPool w fun pool => call (.fetch pool sql [t.schemaName, table])

/-- The fault of a table without columns. -/
def noTable (t : Target) (table : String) : Fault :=
  .raised .schema
    ("Table " ++ t.schemaName ++ "." ++ table ++ " does not exist or is not accessible")

/-- The columns of a table in order. -/
def describeColumns (t : Target) (s : Connector) (table : String) :
    PoolProgram (Except Fault (List Column)) := do
  match ← s.fetchCatalogue t (describing table) Catalogue.columnsQuery table with
  | .error f => return .error f
  | .ok [] => return .error (noTable t table)
  | .ok records => return records.mapM fun r => Catalogue.column t.reports r.toFields

/-- The foreign keys that a table declares. -/
def describeForeignKeys (t : Target) (s : Connector) (table : String) :
    PoolProgram (Except Fault (List ForeignKey)) := do
  match ← s.fetchCatalogue t (readingForeignKeys table) Catalogue.foreignKeysQuery table with
  | .error f => return .error f
  | .ok records => return records.mapM fun r => Catalogue.foreignKey t.reports r.toFields

/-- Whether there is a table with a name. -/
def tableExists (t : Target) (s : Connector) (name : String) : PoolProgram (Except Fault Bool) :=
  s.withPool (checkingTable name) fun pool => do
    return (← call (.fetchValue pool Catalogue.tableExistsQuery [t.schemaName, name])).map
      Json.isTruthy

/-- The answer to a call on the database, and the connector after it. -/
def answer (t : Target) (s : Connector) :
    (c : Database.Call) → PoolProgram (Except Fault c.Value × Connector)
  | .connect => s.connect t
  | .close => s.close
  | .execute sql => (·, s) <$> s.execute t sql
  | .fetchValue sql => (·, s) <$> s.fetchValue t sql
  | .describeColumns table => (·, s) <$> s.describeColumns t table
  | .describeForeignKeys table => (·, s) <$> s.describeForeignKeys t table
  | .tableExists name => (·, s) <$> s.tableExists t name

end Connector

end QueryPlans
