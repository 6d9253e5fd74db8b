import QueryPlans.Console.Markup
import QueryPlans.Database.Call
import QueryPlans.Json.Display

/-!
# What is shown on the console

* `Display` — a line, a panel, a table, what is being done, or the prompt.
* `Display.statement` — the panel of a statement.
* `Display.ofRows` — the table of a result.
-/

namespace QueryPlans

/-- Something to show. Texts hold markup, but those that are said not to. -/
inductive Display where
  | line (markup : String)
  /-- A text without markup. -/
  | text (content : String)
  /-- A frame, as wide as the console or as its content. -/
  | panel (body : String) (title : Option String) (border : String) (isWide : Bool)
  | table (headers : List String) (rows : List (List String))
  /-- What is being done. -/
  | status (markup : String)
  /-- A line is asked for. -/
  | prompt (markup : String)
  deriving DecidableEq, Repr, Inhabited

namespace Display

def styledLine (style content : String) : Display :=
  line (Markup.styled style (Markup.escape content))

def statement (sql : String) (title : String := "SQL") : Display :=
  panel (Markup.escape sql) (some title) "cyan" true

/-- The cell of a row in a column; a row may lack it. -/
def cell (row : Json.Fields) (column : String) : String :=
  Markup.escape ((row.get? column).getD .null).cell

def cells (columns : List String) (row : Json.Fields) : List String := columns.map (cell row)

/-- The table of a result. Without columns there are no rows to see. -/
def ofRows (r : Rows) : Display :=
  table (r.columns.map Markup.escape)
    (if r.columns = [] then [] else r.rows.map (cells r.columns))

end Display

end QueryPlans
