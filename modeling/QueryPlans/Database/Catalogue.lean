import QueryPlans.Database.Pool
import QueryPlans.Schema.Basic

/-!
# The catalogue of a database

* `Catalogue.columnsQuery`, `Catalogue.foreignKeysQuery`, `Catalogue.tableExistsQuery` — statements
  on the catalogue; their arguments are a schema and a table.
* `Catalogue.column`, `Catalogue.foreignKey` — a row of the first two.
-/

namespace QueryPlans.Catalogue

/-- The columns of a table in order, each with whether it belongs to the primary key. -/
def columnsQuery : String := "
    SELECT
        c.column_name,
        c.data_type,
        c.is_nullable,
        c.column_default,
        EXISTS (
            SELECT 1
            FROM information_schema.table_constraints AS tc
            JOIN information_schema.key_column_usage AS kcu
                ON tc.constraint_name = kcu.constraint_name
                AND tc.table_schema = kcu.table_schema
            WHERE tc.constraint_type = 'PRIMARY KEY'
            AND tc.table_schema = c.table_schema
            AND tc.table_name = c.table_name
            AND kcu.column_name = c.column_name
        ) AS is_primary_key
    FROM information_schema.columns AS c
    WHERE c.table_schema = $1 AND c.table_name = $2
    ORDER BY c.ordinal_position
"

/-- The foreign keys that a table declares. -/
def foreignKeysQuery : String := "
    SELECT
        tc.constraint_name,
        kcu.column_name,
        ccu.table_name AS foreign_table_name,
        ccu.column_name AS foreign_column_name
    FROM information_schema.table_constraints AS tc
    JOIN information_schema.key_column_usage AS kcu
        ON tc.constraint_name = kcu.constraint_name
        AND tc.table_schema = kcu.table_schema
    JOIN information_schema.constraint_column_usage AS ccu
        ON ccu.constraint_name = tc.constraint_name
        AND ccu.table_schema = tc.table_schema
    WHERE tc.constraint_type = 'FOREIGN KEY'
    AND tc.table_schema = $1
    AND tc.table_name = $2
    ORDER BY tc.constraint_name, kcu.ordinal_position
"

/-- Whether there is a table with a name. -/
def tableExistsQuery : String := "
    SELECT EXISTS (
        SELECT 1
        FROM information_schema.tables
        WHERE table_schema = $1 AND table_name = $2
    )
"

/-- The value under a name in a row. -/
def value (row : Json.Fields) (name : String) : Except Fault Json :=
  match row.get? name with
  | some v => .ok v
  | none => .error (.raised .badKey (Text.quote name))

/-- The value says yes. -/
def isYes : Json → Bool
  | .str s => s == "YES"
  | _ => false

/-- A column from a row of the catalogue. -/
def column (reports : Reports) (row : Json.Fields) : Except Fault Column := do
  let name ← value row "column_name"
  let dataType ← value row "data_type"
  let nullable ← value row "is_nullable"
  let default ← value row "column_default"
  let primary ← value row "is_primary_key"
  reports.check "ColumnInfo" [("name", name), ("data_type", dataType),
    ("is_nullable", .bool (isYes nullable)), ("default_value", default),
    ("is_primary_key", .bool primary.isTruthy)] Column.ofFields

/-- A foreign key from a row of the catalogue. -/
def foreignKey (reports : Reports) (row : Json.Fields) : Except Fault ForeignKey := do
  let constraint ← value row "constraint_name"
  let column ← value row "column_name"
  let table ← value row "foreign_table_name"
  let foreignColumn ← value row "foreign_column_name"
  reports.check "ForeignKeyInfo" [("constraint_name", constraint), ("column", column),
    ("foreign_table", table), ("foreign_column", foreignColumn)] ForeignKey.ofFields

end QueryPlans.Catalogue
