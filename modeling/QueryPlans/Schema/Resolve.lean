import QueryPlans.Database.Call
import QueryPlans.Schema.Context

/-!
# Tables looked up in the catalogue

* `Schema.fetch` — a table with its columns and foreign keys.  Only a table that declares no
  foreign key has some inferred.
* `Schema.inferForeignKeys` — a column `x_id` that is no primary key refers to the `id` of a table
  `x`, if there is one.
* `Schema.fetchRelated` — the tables that the foreign keys of a table refer to, each once and in
  order; a table that cannot be looked up is left out.
* `Schema.fetchContext`, `Schema.fetchText` — a table with its related tables, and their text.

Nothing is kept: every call reads the catalogue again.
-/

namespace QueryPlans.Schema

open Database (call)

/-- Where entries of the log come from. -/
def logSource : String := "querypilot.schema.resolver"

/-- The end of the name of a column that may refer to a table. -/
def referenceEnd : List Char := ['_', 'i', 'd']

/-- The table that a column may refer to by its name: `x` for `x_id`. -/
def referredTable? (column : String) : Option String :=
  let cs := column.toList
  if referenceEnd.isSuffixOf cs && referenceEnd.length < cs.length then
    some (String.ofList (cs.take (cs.length - referenceEnd.length)))
  else none

/-- The columns that may refer to a table, with that table: no primary key, and no column with the
name of one. -/
def candidates (columns : List Column) : List (String × String) :=
  let keys := (columns.filter (·.isPrimaryKey)).map (·.name)
  columns.filterMap fun c =>
    if c.isPrimaryKey || keys.contains c.name then none
    else (referredTable? c.name).map fun target => (c.name, target)

/-- The foreign key of a column that refers to a table by its name. -/
def implicitKey (column target : String) : ForeignKey :=
  ⟨ForeignKey.implicitConstraint, column, target, "id"⟩

/-- The foreign keys of those candidates whose table exists; each is asked for once. -/
def existing : List (String × String) → DatabaseProgram (Except Fault (List ForeignKey))
  | [] => return .ok []
  | (column, target) :: rest => do
    match ← call (.tableExists target) with
    | .error f => return .error f
    | .ok found =>
      match ← existing rest with
      | .error f => return .error f
      | .ok keys => return .ok (if found then implicitKey column target :: keys else keys)

/-- The foreign keys of a table inferred from the names of its columns. -/
def inferForeignKeys (table : String) (columns : List Column) :
    DatabaseProgram (Except Fault (List ForeignKey)) := do
  match ← existing (candidates columns) with
  | .error f => return .error f
  | .ok keys =>
    if !keys.isEmpty then
      Program.log .info logSource
        ("Inferred " ++ Nat.repr keys.length ++ " implicit foreign keys for " ++ table)
    return .ok keys

/-- The failure to look up a table. A fault of the connector is one of the table; others come
through. -/
def failure (table : String) (f : Fault) : Failure :=
  if f.isConnector then
    .plan (.schema table ("Failed to fetch schema for " ++ table ++ ": " ++ f.message))
  else .fault f

/-- The declared foreign keys of a table, or else the inferred ones. -/
def fetchForeignKeys (table : String) (columns : List Column) :
    DatabaseProgram (Except Fault (List ForeignKey)) := do
  match ← call (.describeForeignKeys table) with
  | .error f => return .error f
  | .ok [] => inferForeignKeys table columns
  | .ok keys => return .ok keys

/-- A table with its columns and foreign keys. -/
def fetch (table : String) : DatabaseProgram (Except Failure Schema) := do
  match ← call (.describeColumns table) with
  | .error f => return .error (failure table f)
  | .ok columns =>
    match ← fetchForeignKeys table columns with
    | .error f => return .error (failure table f)
    | .ok foreignKeys => return .ok { name := table, columns, foreignKeys }

/-- The tables that foreign keys refer to, each once and in order. -/
def targets (keys : List ForeignKey) : List String :=
  keys.foldl (fun seen k => if seen.contains k.foreignTable then seen else seen ++ [k.foreignTable])
    []

/-- Look up several tables one after the other. -/
def fetchAll : List String → DatabaseProgram (List (String × Except Failure Schema))
  | [] => return []
  | table :: rest => do
    let found ← fetch table
    let others ← fetchAll rest
    return (table, found) :: others

/-- What is left of a cancellation after it ended one of several lookups: its message is gone. -/
def lookupCancelled : Failure := .fault (.raised .cancelled "")

/-- Keep the tables that were found, and note those that were not; a cancellation ends it all. -/
def keepFound : List (String × Except Failure Schema) →
    DatabaseProgram (Except Failure (List (String × Schema)))
  | [] => return .ok []
  | (table, .ok s) :: rest => do
    match ← keepFound rest with
    | .error f => return .error f
    | .ok related => return .ok ((table, s) :: related)
  | (table, .error f) :: rest => do
    if f.isOrdinary then
      Program.log .warning logSource
        ("Skipping related table " ++ table ++ ": " ++ f.message)
      keepFound rest
    else return .error lookupCancelled

/-- The tables that a table refers to. -/
def fetchRelated (main : Schema) : DatabaseProgram (Except Failure (List (String × Schema))) := do
  keepFound (← fetchAll (targets main.foreignKeys))

/-- A table and, if wanted, the tables it refers to. -/
def fetchContext (table : String) (withRelated : Bool) :
    DatabaseProgram (Except Failure (Schema × List (String × Schema))) := do
  match ← fetch table with
  | .error f => return .error f
  | .ok main =>
    if withRelated then
      match ← fetchRelated main with
      | .error f => return .error f
      | .ok related => return .ok (main, related)
    else return .ok (main, [])

/-- The text of a table for a model. -/
def fetchText (table : String) (withRelated : Bool) : DatabaseProgram (Except Failure String) := do
  match ← fetchContext table withRelated with
  | .error f => return .error f
  | .ok (main, related) => return .ok (main.context related)

end QueryPlans.Schema
