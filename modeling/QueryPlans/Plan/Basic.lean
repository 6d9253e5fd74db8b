import QueryPlans.Text.Blank
import QueryPlans.Text.Case

/-!
# Query plans

A plan says which rows to fetch or change without holding a statement.  The first of its tables is
its anchor: the root of the FROM clause and the target of a change.

* `Action` — what a plan does; `Action.ofName` and `Action.name?` relate it to its written form.
* `SortKey` — an ordering by one column.
* `Plan` — the plan, with the fields that were given for it.
* `Plan.anchor?`, `Plan.offset`, `Plan.isReadOnly`.
* `Change` — new values for some fields; `Plan.with` puts them in.
-/

namespace QueryPlans

/-- What a plan does. -/
inductive Action where
  | select
  /-- Nothing was said; the plan fetches. -/
  | unset
  | update
  | delete
  | insert
  /-- A word that names no action. -/
  | other (name : String)
  /-- The action was taken out of the plan. -/
  | missing
  deriving DecidableEq, Repr, Inhabited

namespace Action

def ofName (name : String) : Action :=
  if name = "select" then select
  else if name = "" then unset
  else if name = "update" then update
  else if name = "delete" then delete
  else if name = "insert" then insert
  else other name

def name? : Action → Option String
  | select => some "select"
  | unset => some ""
  | update => some "update"
  | delete => some "delete"
  | insert => some "insert"
  | other name => some name
  | missing => none

/-- The word of an action in a message. -/
def label (a : Action) : String := a.name?.getD "None"

/-- The action fetches rows and changes none. -/
def isReadOnly : Action → Bool
  | select => true
  | unset => true
  | _ => false

@[simp] theorem name?_ofName (name : String) : (ofName name).name? = some name := by
  unfold ofName
  split
  · simp [name?, *]
  split
  · simp [name?, *]
  split
  · simp [name?, *]
  split
  · simp [name?, *]
  split <;> simp [name?, *]

theorem isReadOnly_iff {a : Action} : a.isReadOnly = true ↔ a = select ∨ a = unset := by
  cases a <;> simp [isReadOnly]

end Action

/-- An ordering by one column. -/
structure SortKey where
  column : String
  order : String
  deriving DecidableEq, Repr, Inhabited

/-- The order is descending: its word is `desc`, in any case and between blanks. -/
def SortKey.isDescending (s : SortKey) : Bool := Text.upper (Text.strip s.order) == "DESC"

/-- The keyword of the direction; any word but `desc` is ascending. -/
def SortKey.direction (s : SortKey) : String := if s.isDescending then "DESC" else "ASC"

namespace Plan

/-- The fields of a plan's written form. -/
inductive Field where
  | tables
  | joins
  | filters
  | select
  | limit
  | page
  | sort
  | action
  | updateSet
  | insertColumns
  | insertValues
  | needOtherTables
  | description
  deriving DecidableEq, Repr, Inhabited

/-- All fields, in the order in which they are checked. -/
def Field.all : List Field :=
  [.tables, .joins, .filters, .select, .limit, .page, .sort, .action, .updateSet, .insertColumns,
    .insertValues, .needOtherTables, .description]

def Field.name : Field → String
  | tables => "tables"
  | joins => "joins"
  | filters => "filters"
  | select => "select"
  | limit => "limit"
  | page => "page"
  | sort => "sort"
  | action => "action"
  | updateSet => "update_set"
  | insertColumns => "insert_columns"
  | insertValues => "insert_values"
  | needOtherTables => "need_other_tables"
  | description => "description"

/-- Rows per page when a plan does not say. -/
def defaultLimit : Int := 20

/-- The page when a plan does not say. -/
def defaultPage : Int := 1

end Plan

/-- What to fetch or change. -/
structure Plan where
  /-- The tables, anchor first. -/
  tables : List String
  /-- Join conditions. -/
  joins : List String
  /-- Conditions that all have to hold. -/
  filters : List String
  /-- The columns to show. -/
  select : List String
  /-- Rows per page. -/
  limit : Int
  /-- The page, counted from one. -/
  page : Int
  sort : Option SortKey
  action : Action
  /-- Columns and their new values, in order. -/
  updateSet : List (String × String)
  insertColumns : List String
  insertValues : List (List String)
  /-- The request needs tables that are not there; nothing else of the plan counts. -/
  needOtherTables : Bool
  description : String
  /-- The fields that were given for the plan. -/
  given : List Plan.Field
  deriving DecidableEq, Repr, Inhabited

namespace Plan

/-- The plan with no field given. -/
def empty : Plan :=
  { tables := [], joins := [], filters := [], select := ["*"], limit := defaultLimit,
    page := defaultPage, sort := none, action := .select, updateSet := [], insertColumns := [],
    insertValues := [], needOtherTables := false, description := "", given := [] }

def anchor? (p : Plan) : Option String := p.tables.head?

/-- The rows before the plan's page. -/
def offset (p : Plan) : Int := (p.page - 1) * p.limit

/-- The plan fetches rows and changes none. -/
def isReadOnly (p : Plan) : Bool := p.action.isReadOnly

/-- New values for some fields of a plan, not checked in any way. -/
structure Change where
  tables : Option (List String) := none
  joins : Option (List String) := none
  filters : Option (List String) := none
  select : Option (List String) := none
  limit : Option Int := none
  page : Option Int := none
  sort : Option (Option SortKey) := none
  action : Option Action := none
  updateSet : Option (List (String × String)) := none
  insertColumns : Option (List String) := none
  insertValues : Option (List (List String)) := none
  needOtherTables : Option Bool := none
  description : Option String := none
  deriving Repr

/-- The fields for which a change has a value. -/
def Change.fields (c : Change) : List Field :=
  Field.all.filter fun
    | .tables => c.tables.isSome
    | .joins => c.joins.isSome
    | .filters => c.filters.isSome
    | .select => c.select.isSome
    | .limit => c.limit.isSome
    | .page => c.page.isSome
    | .sort => c.sort.isSome
    | .action => c.action.isSome
    | .updateSet => c.updateSet.isSome
    | .insertColumns => c.insertColumns.isSome
    | .insertValues => c.insertValues.isSome
    | .needOtherTables => c.needOtherTables.isSome
    | .description => c.description.isSome

/-- Note that a field was given. -/
def Field.addTo (f : Field) (given : List Field) : List Field :=
  if given.contains f then given else given ++ [f]

/-- The plan with the values of a change, which count as given. -/
def change (p : Plan) (c : Change) : Plan :=
  { tables := c.tables.getD p.tables
    joins := c.joins.getD p.joins
    filters := c.filters.getD p.filters
    select := c.select.getD p.select
    limit := c.limit.getD p.limit
    page := c.page.getD p.page
    sort := c.sort.getD p.sort
    action := c.action.getD p.action
    updateSet := c.updateSet.getD p.updateSet
    insertColumns := c.insertColumns.getD p.insertColumns
    insertValues := c.insertValues.getD p.insertValues
    needOtherTables := c.needOtherTables.getD p.needOtherTables
    description := c.description.getD p.description
    given := c.fields.foldl (fun given f => f.addTo given) p.given }

/-- The plan at another page. -/
def atPage (p : Plan) (page : Int) : Plan :=
  { p with page, given := Field.page.addTo p.given }

/-- The plan with another page size. -/
def withLimit (p : Plan) (limit : Int) : Plan :=
  { p with limit, given := Field.limit.addTo p.given }

/-- The plan one page further; there is no last page. -/
def nextPage (p : Plan) : Plan := p.atPage (p.page + 1)

/-- The plan one page back, but not before the first. -/
def previousPage (p : Plan) : Plan := p.atPage (max 1 (p.page - 1))

def isGiven (p : Plan) (f : Field) : Bool := p.given.contains f

end Plan

end QueryPlans
