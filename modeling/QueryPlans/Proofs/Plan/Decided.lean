import QueryPlans.Proofs.Json.Integers
import QueryPlans.Proofs.Plan.Naming

/-!
# The decision on a reply

* `Plan.Decided` — a reply has no plan; the plan needs other tables or has no statement; or its statement is
  sent with that of its count, or held for review.

Principal result: `Plan.decided` — there is a decision on every reply.
-/

namespace QueryPlans.Plan

variable {p : Plan}

/-- The decision about the plan in a reply. -/
inductive Decided (reply : String) (host : Host) : Prop
  | unreadable (e : ReadError) (read : Plan.read reply host = .error e)
  | otherTables (p : Plan) (read : Plan.read reply host = .ok p) (other : p.needOtherTables = true)
  | unstated (p : Plan) (summary : String) (e : StatementError) (read : Plan.read reply host = .ok p)
      (here : p.needOtherTables = false) (named : p.summary = .ok summary)
      (statement : p.statement = .error e)
  | query (p : Plan) (summary sql count : String) (read : Plan.read reply host = .ok p)
      (here : p.needOtherTables = false) (named : p.summary = .ok summary)
      (statement : p.statement = .ok sql) (reads : p.isReadOnly = true)
      (counts : p.countStatement? = some count)
  | review (p : Plan) (summary sql action : String) (read : Plan.read reply host = .ok p)
      (here : p.needOtherTables = false) (named : p.summary = .ok summary)
      (statement : p.statement = .ok sql) (writes : p.isReadOnly = false)
      (word : p.actionInCapitals = .ok action)

/-- There is a decision on every reply: the page and the page size that were read can be named. -/
theorem decided (reply : String) (host : Host) : Decided reply host := by
  cases hread : Plan.read reply host with
  | error e => exact .unreadable e hread
  | ok p =>
    obtain ⟨hpage, hlimit⟩ := read_writable hread
    obtain ⟨summary, hsummary⟩ := exists_summary hlimit hpage
    cases hother : p.needOtherTables with
    | true => exact .otherTables p hread hother
    | false =>
      cases hsql : p.statement with
      | error e => exact .unstated p summary e hread hother hsummary hsql
      | ok sql =>
        cases hreads : p.isReadOnly with
        | true =>
          obtain ⟨count, hcount⟩ := p.exists_countStatement (tables_ne_nil_of_statement hsql)
          exact .query p summary sql count hread hother hsummary hsql hreads hcount
        | false =>
          obtain ⟨action, haction⟩ := exists_actionInCapitals hsql
          exact .review p summary sql action hread hother hsummary hsql hreads haction

theorem summary_of_otherTables (h : p.needOtherTables = true) :
    p.summary = .ok needOtherTablesMessage := by
  unfold summary
  rw [if_pos h]

end QueryPlans.Plan
