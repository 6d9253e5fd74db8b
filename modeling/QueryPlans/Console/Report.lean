import QueryPlans.Console.Display
import QueryPlans.Plan.Accept

/-!
# Outcomes and failures on the console

* `Failure.displays` — what is shown of a failure; a statement that failed is shown with it.
* `Shown` — what is shown, and the failure that stopped it.
* `Showing` — the parts of an outcome that are shown; `Showing.shown`, `Outcome.shown`.
-/

namespace QueryPlans

/-- The statement that the database did not run. -/
def Failure.statement? (f : Failure) : Option String :=
  match f.planError? with
  | some (.execution _ sql) => some sql
  | _ => none

/-- What is shown of a failure. -/
def Failure.displays (f : Failure) : List Display :=
  Display.line (Markup.styled "red" ("Error: " ++ Markup.escape f.message)) ::
    (f.statement?.map fun sql => Display.statement sql "Failed SQL").toList

/-- The failure of a status line. -/
def Failure.ofPage : Page.Error → Failure
  | .quotient .divisionByZero =>
    fault (.raised .divisionByZero Double.QuotientError.divisionByZero.message)
  | .quotient .tooLarge => fault (.raised .overflow Double.QuotientError.tooLarge.message)
  | .numeral e => ofNumeral e

/-- What is shown, and the failure that stopped it. -/
structure Shown where
  displays : List Display
  failure : Option Failure := none
  deriving Repr

namespace Shown

/-- Show more, unless something failed. -/
def append (s t : Shown) : Shown :=
  match s.failure with
  | some _ => s
  | none => ⟨s.displays ++ t.displays, t.failure⟩

instance : Append Shown := ⟨append⟩

/-- What is shown without a failure is followed by the rest. -/
theorem done_append (ds : List Display) (rest : Shown) :
    (⟨ds, none⟩ : Shown) ++ rest = ⟨ds ++ rest.displays, rest.failure⟩ := rfl

/-- Show all and, if something failed, the failure. -/
def all (s : Shown) : List Display := s.displays ++ s.failure.elim [] Failure.displays

end Shown

/-- What was done, and what is said of it. -/
inductive Showing.Kind where
  | needOtherTables
  /-- The word of the action in capitals. -/
  | review (action : Except Fault String)
  | executed
  deriving Repr

/-- The parts of an outcome that are shown. -/
structure Showing where
  kind : Showing.Kind
  summary : String
  sql : Option String := none
  rows : Option Rows := none
  page : Option Page := none
  deriving Repr

namespace Showing

def opening (s : Showing) : List Display :=
  Display.styledLine "bold green" s.summary ::
    ((s.sql.filter (· != "")).map fun sql => Display.statement sql).toList

/-- The notice about a plan that changes data. -/
def notice (action : String) : Display :=
  .line (Markup.styled "yellow" (action ++ " plan was not executed. Review the SQL above and run it " ++
    "yourself if it is correct."))

/-- The line below a table. -/
def statusLine (page : Page) : Shown :=
  match page.status with
  | .ok text => ⟨[.line (Markup.styled "dim" text)], none⟩
  | .error e => ⟨[], some (.ofPage e)⟩

/-- The table and the line below it. -/
def result (s : Showing) : Shown :=
  match s.rows with
  | none => ⟨[], none⟩
  | some rows => ⟨[.ofRows rows], none⟩ ++ s.page.elim ⟨[], none⟩ statusLine

def shown (s : Showing) : Shown :=
  match s.kind with
  | .needOtherTables => ⟨[.styledLine "yellow" s.summary], none⟩
  | .review (.ok action) => ⟨s.opening ++ [notice action], none⟩
  | .review (.error f) => ⟨s.opening, some (.fault f)⟩
  | .executed => ⟨s.opening, none⟩ ++ s.result

end Showing

namespace Outcome

def showing : Outcome → Showing
  | needOtherTables _ summary => ⟨.needOtherTables, summary, none, none, none⟩
  | review plan summary sql => ⟨.review plan.actionInCapitals, summary, some sql, none, none⟩
  | executed _ summary sql _ rows page => ⟨.executed, summary, some sql, some rows, some page⟩

def shown (o : Outcome) : Shown := o.showing.shown

end Outcome

end QueryPlans
