import QueryPlans.Validation.Reader

/-!
# Tables as the catalogue describes them

* `Column`, `ForeignKey` — parts of a table; an implicit foreign key was inferred from a name.
* `Schema` — a table with its columns in order and its foreign keys.
* `Column.ofFields`, `ForeignKey.ofFields`, `Schema.ofFields` — from the fields of an object.
-/

namespace QueryPlans

/-- A column of a table. -/
structure Column where
  name : String
  dataType : String
  isNullable : Bool := true
  defaultValue : Option String := none
  isPrimaryKey : Bool := false
  deriving DecidableEq, Repr, Inhabited

/-- A column that refers to a column of another table. -/
structure ForeignKey where
  constraint : String
  column : String
  foreignTable : String
  foreignColumn : String
  deriving DecidableEq, Repr, Inhabited

/-- The constraint name of a foreign key that no table declares. -/
def ForeignKey.implicitConstraint : String := "(implicit)"

/-- The foreign key was inferred. -/
def ForeignKey.isImplicit (k : ForeignKey) : Bool := k.constraint == implicitConstraint

/-- A table with its columns and the foreign keys that leave it. -/
structure Schema where
  name : String
  columns : List Column := []
  foreignKeys : List ForeignKey := []
  deriving DecidableEq, Repr, Inhabited

namespace Schema

def columnNames (s : Schema) : List String := s.columns.map (·.name)

/-- The names of the columns of the primary key. -/
def primaryKeyColumns (s : Schema) : List String :=
  (s.columns.filter (·.isPrimaryKey)).map (·.name)

end Schema

/-- A column from the fields of an object. -/
def Column.ofFields (fields : Json.Fields) : Checked Column :=
  Column.mk
    <$> Reader.required fields "name" Reader.text
    <*> Reader.required fields "data_type" Reader.text
    <*> Reader.optional fields "is_nullable" true Reader.boolean
    <*> Reader.optional fields "default_value" none (Reader.nullable Reader.text)
    <*> Reader.optional fields "is_primary_key" false Reader.boolean

/-- A foreign key from the fields of an object. -/
def ForeignKey.ofFields (fields : Json.Fields) : Checked ForeignKey :=
  ForeignKey.mk
    <$> Reader.required fields "constraint_name" Reader.text
    <*> Reader.required fields "column" Reader.text
    <*> Reader.required fields "foreign_table" Reader.text
    <*> Reader.required fields "foreign_column" Reader.text

def Column.read : Reader Column := Reader.model "ColumnInfo" Column.ofFields

def ForeignKey.read : Reader ForeignKey := Reader.model "ForeignKeyInfo" ForeignKey.ofFields

/-- A table from the fields of an object. -/
def Schema.ofFields (fields : Json.Fields) : Checked Schema :=
  Schema.mk
    <$> Reader.required fields "name" Reader.text
    <*> Reader.optional fields "columns" [] (Reader.listOf Column.read)
    <*> Reader.optional fields "foreign_keys" [] (Reader.listOf ForeignKey.read)

def Schema.read : Reader Schema := Reader.model "TableSchema" Schema.ofFields

end QueryPlans
