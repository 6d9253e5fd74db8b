import QueryPlans.Fault
import QueryPlans.Program.Basic

/-!
# Pools of connections

* `Pool` — a pool that the driver has opened.
* `Pool.Record` — a row as the driver gives it: values under the names of the statement's columns,
  where a name may repeat.
* `Pool.Call` — the calls that the driver answers; `Pool.interface` with their answers.
-/

namespace QueryPlans

/-- A pool that the driver has opened. -/
structure Pool where
  id : Nat
  deriving DecidableEq, Repr, Inhabited

namespace Pool

/-- A row as the driver gives it. -/
abbrev Record := List (String × Json)

/-- The fields of a row: of a repeated name the last value counts. -/
def Record.toFields (r : Record) : Json.Fields := r.foldl (fun fields v => fields.put v.1 v.2) []

/-- A prepared statement: the names of its columns. -/
structure Statement where
  columns : List String
  deriving DecidableEq, Repr, Inhabited

/-- A call on the driver. Each but the first goes through a pool. -/
inductive Call where
  | create (options : Json.Fields)
  /-- Take a connection out of the pool. -/
  | acquire (pool : Pool)
  /-- Give it back. -/
  | release (pool : Pool)
  | execute (pool : Pool) (sql : String)
  | prepare (pool : Pool) (sql : String)
  /-- The rows of a prepared statement. -/
  | fetchPrepared (pool : Pool) (statement : Statement)
  | fetch (pool : Pool) (sql : String) (arguments : List String)
  | fetchValue (pool : Pool) (sql : String) (arguments : List String)
  | close (pool : Pool)

/-- The type of the value that a call gives. -/
abbrev Call.Value : Call → Type
  | create _ => Pool
  | acquire _ => Unit
  | release _ => Unit
  | execute _ _ => Unit
  | prepare _ _ => Statement
  | fetchPrepared _ _ => List Record
  | fetch _ _ _ => List Record
  | fetchValue _ _ _ => Json
  | close _ => Unit

/-- Every call is answered with its value or with a fault. -/
def interface : Interface := ⟨Call, fun c => Except Fault c.Value⟩

def call (c : Call) : Program interface (Except Fault c.Value) := Program.ask c .done

end Pool

/-- A program that calls on the driver. -/
abbrev PoolProgram := Program Pool.interface

end QueryPlans
