import QueryPlans.Console.Display

/-!
# Displays as plain text

* `Display.render` — the lines of a display on a terminal without colours.
* `Display.encode` — these lines, unless they have no encoding.
-/

namespace QueryPlans.Display

/-- A text filled with blanks up to a width. -/
def padded (width : Nat) (s : String) : String :=
  s ++ String.ofList (List.replicate (width - s.length) ' ')

/-- The widths of the columns of a table. -/
def widths : List (List String) → List Nat
  | [] => []
  | row :: rest =>
    let below := widths rest
    (List.range (max row.length below.length)).map fun i =>
      max ((row[i]?).elim 0 String.length) ((below[i]?).getD 0)

def renderRow (ws : List Nat) (row : List String) : String :=
  Text.joined " | " ((ws.zip row).map fun (w, s) => padded w s)

/-- The line between the headers of a table and its rows. -/
def ruler (ws : List Nat) : String :=
  Text.joined "-+-" (ws.map fun w => String.ofList (List.replicate w '-'))

def render : Display → String
  | line markup => Markup.plain markup ++ "\n"
  | text content => content ++ "\n"
  | panel body title _ _ =>
    "--- " ++ (title.elim "" fun t => t ++ " ") ++ "---\n" ++ Markup.plain body ++ "\n---\n"
  | table headers rows =>
    let headers := headers.map Markup.plain
    let rows := rows.map fun row => row.map Markup.plain
    let ws := widths (headers :: rows)
    Text.joined "\n" (renderRow ws headers :: ruler ws :: rows.map (renderRow ws)) ++ "\n"
  | status markup => Markup.plain markup ++ "\n"
  | prompt markup => Markup.plain markup

/-- The lines of a display, unless they have no encoding. -/
def encode (d : Display) : Except Fault String :=
  match Text.unencodable? d.render with
  | some message => .error (.raised .unencodable message)
  | none => .ok d.render

end QueryPlans.Display
