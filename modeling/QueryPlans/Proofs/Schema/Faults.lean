import QueryPlans.Proofs.Program.Forward
import QueryPlans.Schema.Resolve

/-!
# Tables that cannot be looked up

Principal results: `fetch_stops`, `fetch_raised` — the lookup of a table ends in the first fault of the
catalogue, and in no other; the fault is named after the table.
-/

namespace QueryPlans.Schema

open Program (Forwards)

variable {table : String} {es : List (Event Database.interface)} {f : Failure} {g : Fault}

/-- No fault is a program's own. -/
def NoFault (_ : Fault) : Prop := False

theorem existing_forwards (pairs : List (String × String)) : Forwards NoFault (existing pairs) := by
  induction pairs with
  | nil => exact .of_ok _
  | cons pair rest ih =>
    refine (Forwards.of_call (Database.Call.tableExists pair.2)).andThen (fun _ => rfl) fun found => ?_
    exact ih.andThen (fun _ => rfl) fun keys => .of_ok _

theorem inferForeignKeys_forwards (table : String) (columns : List Column) :
    Forwards NoFault (inferForeignKeys table columns) := by
  refine (existing_forwards _).andThen (fun _ => rfl) fun keys => ?_
  simp only
  split
  · exact .noted (.of_ok _)
  · exact .of_ok _

theorem fetchForeignKeys_forwards (table : String) (columns : List Column) :
    Forwards NoFault (fetchForeignKeys table columns) := by
  refine (Forwards.of_call (Database.Call.describeForeignKeys table)).andThen (fun _ => rfl)
    fun keys => ?_
  cases keys with
  | nil => exact inferForeignKeys_forwards table columns
  | cons key keys => exact .of_ok _

/-- The lookup ends in the first fault of the catalogue. -/
theorem fetch_stops {r : Except Failure Schema} (h : (fetch table).Trace es r) (hraises : Raises es g) :
    r = .error (failure table g) := by
  obtain ⟨columns, tail, rfl, hrest⟩ := Program.trace_call_bind_iff.1 h
  cases columns with
  | error g' =>
    obtain ⟨rfl, rfl⟩ := Program.trace_done_iff.1 hrest
    rcases raises_error_cons.1 hraises with rfl | hnil
    · rfl
    · exact absurd hnil not_raises_nil
  | ok columns =>
    obtain ⟨es₁, es₂, keys, hkeys, hend, rfl⟩ := Program.trace_bind_iff.1 hrest
    have hforwards := fetchForeignKeys_forwards table columns
    cases keys with
    | error g' =>
      obtain ⟨rfl, rfl⟩ := Program.trace_done_iff.1 hend
      rw [List.append_nil] at hraises
      cases hforwards.stops hkeys (raises_ok_cons.1 hraises)
      rfl
    | ok keys =>
      obtain ⟨rfl, rfl⟩ := Program.trace_done_iff.1 hend
      rw [List.append_nil] at hraises
      exact nomatch hforwards.stops hkeys (raises_ok_cons.1 hraises)

/-- The lookup ends in no other fault. -/
theorem fetch_raised (h : (fetch table).Trace es (.error f)) :
    ∃ g, Raises es g ∧ f = failure table g := by
  obtain ⟨columns, tail, rfl, hrest⟩ := Program.trace_call_bind_iff.1 h
  cases columns with
  | error g' =>
    obtain ⟨rfl, heq⟩ := Program.trace_done_iff.1 hrest
    cases heq
    exact ⟨g', raises_error_cons.2 (.inl rfl), rfl⟩
  | ok columns =>
    obtain ⟨es₁, es₂, keys, hkeys, hend, rfl⟩ := Program.trace_bind_iff.1 hrest
    cases keys with
    | error g' =>
      obtain ⟨rfl, heq⟩ := Program.trace_done_iff.1 hend
      cases heq
      refine ⟨g', ?_, rfl⟩
      rw [List.append_nil]
      rcases (fetchForeignKeys_forwards table columns).raised hkeys with hraises | hnone
      · exact raises_ok_cons.2 hraises
      · exact hnone.elim
    | ok keys => cases (Program.trace_done_iff.1 hend).2

end QueryPlans.Schema
