import QueryPlans.Plan.Error
import QueryPlans.Plan.Read
import QueryPlans.Plan.Statement
import QueryPlans.Validation.Checked

/-!
# Faults and failures

* `Fault` — what a call can be answered with in place of a value: an error of some kind with a
  message, or a value that does not fit its model.
* `Fault.isConnector`, `Fault.isPostgres`, `Fault.isHttp` — families of kinds.
* `Fault.isOrdinary` — every fault but a cancellation: those that a program may handle.
* `Reports.check` — fields are checked against a model.
* `Failure` — what a request ends in: an error of the plan, or a fault that came through.
-/

namespace QueryPlans

namespace Fault

/-- Kinds of faults. -/
inductive Kind where
  /-- Faults of a connector: of any kind, of the connection, a statement, or the catalogue. -/
  | connector
  | connection
  | query
  | schema
  /-- Faults of the database server. -/
  | postgres
  | queryCanceled
  | postgresSyntax
  /-- A fault of the driver. -/
  | driver
  /-- Faults of an exchange over HTTP. -/
  | connectFailed
  | readTimeout
  | httpStatus
  /-- Faults of a model's service. -/
  | apiTimeout
  | api
  /-- A text that is not JSON. -/
  | undecodable
  /-- Settings that cannot be read. -/
  | settings
  /-- General faults. -/
  | badValue
  | runtime
  | system
  | timeout
  | badType
  | noAttribute
  | badKey
  | badIndex
  | overflow
  /-- A text has no encoding. -/
  | unencodable
  /-- Calls are nested too deep. -/
  | recursion
  | divisionByZero
  /-- The request was given up from outside. -/
  | cancelled
  deriving DecidableEq, Repr, Inhabited

def Kind.name : Kind → String
  | connector => "ConnectorError"
  | connection => "ConnectionError"
  | query => "QueryError"
  | schema => "SchemaError"
  | postgres => "PostgresError"
  | queryCanceled => "QueryCanceledError"
  | postgresSyntax => "PostgresSyntaxError"
  | driver => "InterfaceError"
  | connectFailed => "ConnectError"
  | readTimeout => "ReadTimeout"
  | httpStatus => "HTTPStatusError"
  | apiTimeout => "APITimeoutError"
  | api => "APIError"
  | undecodable => "JSONDecodeError"
  | settings => "SettingsError"
  | badValue => "ValueError"
  | runtime => "RuntimeError"
  | system => "OSError"
  | timeout => "TimeoutError"
  | badType => "TypeError"
  | noAttribute => "AttributeError"
  | badKey => "KeyError"
  | badIndex => "IndexError"
  | overflow => "OverflowError"
  | unencodable => "UnicodeEncodeError"
  | recursion => "RecursionError"
  | divisionByZero => "ZeroDivisionError"
  | cancelled => "CancelledError"

def Kind.all : List Kind :=
  [connector, connection, query, schema, postgres, queryCanceled, postgresSyntax, driver,
    connectFailed, readTimeout, httpStatus, apiTimeout, api, undecodable, settings, badValue, runtime,
    system, timeout, badType, noAttribute, badKey, badIndex, overflow, unencodable, recursion, divisionByZero,
    cancelled]

def Kind.ofName? (name : String) : Option Kind := Kind.all.find? (·.name == name)

end Fault

/-- What a call can be answered with in place of a value. -/
inductive Fault where
  | raised (kind : Fault.Kind) (message : String)
  /-- A value does not fit its model; the report is that of the library which checked it. -/
  | invalid (issues : List Issue) (report : String)
  deriving DecidableEq, Repr, Inhabited

namespace Fault

/-- What is reported. -/
def message : Fault → String
  | raised _ message => message
  | invalid _ report => report

/-- The fault is of one of the kinds. -/
def isOneOf (kinds : List Kind) : Fault → Bool
  | raised kind _ => kinds.contains kind
  | invalid .. => false

def isConnector (f : Fault) : Bool := f.isOneOf [.connector, .connection, .query, .schema]

/-- A fault of the database server. -/
def isPostgres (f : Fault) : Bool := f.isOneOf [.postgres, .queryCanceled, .postgresSyntax]

/-- A fault of an exchange over HTTP. -/
def isHttp (f : Fault) : Bool := f.isOneOf [.connectFailed, .readTimeout, .httpStatus]

/-- A fault of a model's service. -/
def isApi (f : Fault) : Bool := f.isOneOf [.api, .apiTimeout]

/-- The request was given up from outside. -/
def isCancellation (f : Fault) : Bool := f.isOneOf [.cancelled]

/-- Every fault but a cancellation. -/
def isOrdinary (f : Fault) : Bool := !f.isCancellation

/-- A number that cannot be read or written. -/
def ofNumeral (e : Numeral.Error) : Fault := raised .badValue e.message

/-- A value or its text exceeds a limit. -/
def ofLimit (l : Json.Limit) : Fault :=
  match l with
  | .digits _ => raised .badValue l.message
  | .list | .object | .written => raised .recursion l.message

end Fault

/-- What is made of fields that fit the model of a name, or the fault of fields that do not. -/
def Reports.check {α : Type} (reports : Reports) (model : String) (fields : Json.Fields)
    (read : Json.Fields → Checked α) : Except Fault α :=
  (read fields).toExcept.mapError fun issues =>
    .invalid issues (reports.text model (.obj fields) issues)

/-- What a request ends in when it does not end well. -/
inductive Failure where
  | unreadable (e : Plan.ReadError)
  | plan (e : PlanError)
  | fault (f : Fault)
  deriving Repr

namespace Failure

def message : Failure → String
  | unreadable e => e.message
  | plan e => e.message
  | fault f => f.message

/-- The error of the plan, if the failure is one. -/
def planError? : Failure → Option PlanError
  | unreadable e => e.toPlanError?
  | plan e => some e
  | fault _ => none

/-- The failure is an error of the plan. -/
def isPlanError (f : Failure) : Bool := f.planError?.isSome

/-- Every failure but a cancellation. -/
def isOrdinary : Failure → Bool
  | unreadable _ => true
  | plan _ => true
  | fault f => f.isOrdinary

/-- The failure of a plan without a statement. -/
def ofStatement : Plan.StatementError → Failure
  | .violation v => plan v.toPlanError
  | .numeral e => fault (.ofNumeral e)

/-- The failure of a number that cannot be read or written. -/
def ofNumeral (e : Numeral.Error) : Failure := fault (.ofNumeral e)

end Failure

end QueryPlans
