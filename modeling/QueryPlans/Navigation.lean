import QueryPlans.Plan.Basic
import QueryPlans.Text.Search

/-!
# Requests for another page

* `Navigation` — further or back; `Navigation.ofRequest?` finds it in a question.
* `Plan.step` — the plan one page further or back.
-/

namespace QueryPlans

/-- A request for another page. -/
inductive Navigation where
  | next
  | previous
  deriving DecidableEq, Repr

namespace Navigation

def name : Navigation → String
  | next => "next"
  | previous => "previous"

/-- The direction of a word; every other word goes back. -/
def ofName (name : String) : Navigation := if name = "next" then next else previous

/-- The direction that a question asks for, in any case and anywhere in it. -/
def ofRequest? (question : String) : Option Navigation :=
  let text := (Text.lower question).toList
  let mentions (phrase : String) := Text.occursIn phrase.toList text
  if mentions "next page" then some next
  else if mentions "previous page" || mentions "prev page" then some previous
  else none

end Navigation

/-- The plan one page further or back. -/
def Plan.step (p : Plan) : Navigation → Plan
  | .next => p.nextPage
  | .previous => p.previousPage

end QueryPlans
