import QueryPlans.Database.Call
import QueryPlans.Page

/-!
# What was done with a plan

* `Outcome` — nothing, for a plan that needs other tables; a statement held for review; or a
  statement that was run, with its rows and the position of the page.
-/

namespace QueryPlans

/-- What was done with a plan. -/
inductive Outcome where
  | needOtherTables (plan : Plan) (summary : String)
  | review (plan : Plan) (summary sql : String)
  | executed (plan : Plan) (summary sql : String) (countSql : Option String) (rows : Rows)
      (page : Page)
  deriving Repr, Inhabited

namespace Outcome

def plan : Outcome → Plan
  | needOtherTables plan _ => plan
  | review plan _ _ => plan
  | executed plan _ _ _ _ _ => plan

def summary : Outcome → String
  | needOtherTables _ summary => summary
  | review _ summary _ => summary
  | executed _ summary _ _ _ _ => summary

def sql? : Outcome → Option String
  | needOtherTables _ _ => none
  | review _ _ sql => some sql
  | executed _ _ sql _ _ _ => some sql

/-- The statement that counted the rows. -/
def countSql? : Outcome → Option String
  | executed _ _ _ countSql _ _ => countSql
  | _ => none

def rows? : Outcome → Option Rows
  | executed _ _ _ _ rows _ => some rows
  | _ => none

/-- The position of the page. -/
def page? : Outcome → Option Page
  | executed _ _ _ _ _ page => some page
  | _ => none

/-- The plan was run. -/
def isExecuted : Outcome → Bool
  | executed .. => true
  | _ => false

/-- The word for what was done. -/
def kind : Outcome → String
  | needOtherTables .. => "need_other_tables"
  | review .. => "review_required"
  | executed .. => "executed"

end Outcome

end QueryPlans
