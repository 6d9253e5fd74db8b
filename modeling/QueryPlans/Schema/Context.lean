import QueryPlans.Schema.Basic

/-!
# Tables as text for a model

* `Schema.context` — the current table with its columns and foreign keys, then the related tables
  in the order of their names, whatever order they come in.
-/

namespace QueryPlans

def Column.line (withDefault : Bool) (c : Column) : String :=
  let key := if c.isPrimaryKey then " [PK]" else ""
  let default := match withDefault, c.defaultValue with
    | true, some value => if value = "" then "" else " DEFAULT " ++ value
    | _, _ => ""
  "- " ++ c.name ++ " " ++ c.dataType ++ " " ++ (if c.isNullable then "NULL" else "NOT NULL") ++
    key ++ default

/-- The line of a foreign key of a table. -/
def ForeignKey.line (table : String) (k : ForeignKey) : String :=
  "- " ++ table ++ "." ++ k.column ++ " → " ++ k.foreignTable ++ "." ++ k.foreignColumn ++
    " (constraint: " ++ k.constraint ++ ")"

namespace Schema

/-- Related tables in the order of their names. -/
def sortByName (related : List (String × Schema)) : List (String × Schema) :=
  related.mergeSort fun a b => decide (a.1 ≤ b.1)

/-- The lines of the current table. -/
def currentLines (s : Schema) : List String :=
  ["## Current Table: " ++ s.name, "", "### Columns"] ++ s.columns.map (Column.line true)

/-- The lines of the foreign keys; none without foreign keys. -/
def foreignKeyLines (s : Schema) : List String :=
  match s.foreignKeys with
  | [] => []
  | keys => ["", "### Foreign Keys"] ++ keys.map (ForeignKey.line s.name)

/-- The lines of a related table. -/
def relatedLines (related : String × Schema) : List String :=
  ["", "### " ++ related.1, "Columns:"] ++ related.2.columns.map (Column.line false)

/-- The lines of the related tables; none without related tables. -/
def allRelatedLines (related : List (String × Schema)) : List String :=
  match related with
  | [] => []
  | tables => ["", "## Related Tables (via Foreign Keys)"] ++ (sortByName tables).flatMap relatedLines

/-- The current table and its related tables as text. -/
def context (current : Schema) (related : List (String × Schema)) : String :=
  Text.joined "\n" (current.currentLines ++ current.foreignKeyLines ++ allRelatedLines related) ++
    "\n"

end Schema

end QueryPlans
