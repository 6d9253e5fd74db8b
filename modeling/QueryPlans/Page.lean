import QueryPlans.Number.Numeral

/-!
# Positions in a paged result

* `Page` — a page of a result: its number, the page size, the rows on it, and the total if known.
* `Page.offset`, `Page.firstRow`, `Page.lastRow`, `Page.totalPages` — the position it stands for.
* `Page.status` — the line that is shown below it.

The number of pages is the ceiling of the double nearest to total over page size.
-/

namespace QueryPlans

/-- A page of a result. -/
structure Page where
  number : Int
  limit : Int
  rowCount : Int
  total : Option Int
  deriving DecidableEq, Repr, Inhabited

namespace Page

/-- Why a page has no status line. -/
inductive Error where
  | quotient (e : Double.QuotientError)
  | numeral (e : Numeral.Error)
  deriving DecidableEq, Repr

def Error.message : Error → String
  | quotient e => e.message
  | numeral e => e.message

/-- The rows before the page. -/
def offset (p : Page) : Int := (p.number - 1) * p.limit

/-- The number of the first row on the page; zero without rows. -/
def firstRow (p : Page) : Int := if p.rowCount = 0 then 0 else p.offset + 1

/-- The number of the last row on the page. -/
def lastRow (p : Page) : Int := p.offset + p.rowCount

/-- The number of pages that a total fills; at least one. -/
def pagesFor (total limit : Int) : Except Double.QuotientError Int :=
  (Double.quotient? total limit).map fun x => max 1 (x.ceiling?.getD 0)

/-- The number of pages, if the total is known. -/
def totalPages (p : Page) : Except Double.QuotientError (Option Int) :=
  match p.total with
  | none => .ok none
  | some total => (pagesFor total p.limit).map some

/-- A number in the status line. -/
def digits (n : Int) : Except Error String := (Numeral.write? n).mapError .numeral

/-- The page and, if known, the number of pages. -/
def position (p : Page) : Except Error String := do
  let number ← digits p.number
  match p.total with
  | none => return "Page " ++ number
  | some total =>
    let pages ← (pagesFor total p.limit).mapError .quotient
    return "Page " ++ number ++ "/" ++ (← digits pages)

/-- The rows and, if known, the total. -/
def rowRange (p : Page) : Except Error String := do
  let rows ← if p.rowCount = 0 then pure "No rows"
    else do
      let first ← digits p.firstRow
      let last ← digits p.lastRow
      pure ("Rows " ++ first ++ "–" ++ last)
  match p.total with
  | none => return rows
  | some total => return rows ++ " of " ++ (← digits total)

/-- The line that is shown below the page. -/
def status (p : Page) : Except Error String := do
  let position ← p.position
  let rows ← p.rowRange
  return position ++ "  |  " ++ rows

end Page

end QueryPlans
