import QueryPlans.Console.Run
import QueryPlans.Proofs.Program.Trace

/-!
# Displays, shown or not

A terminal may fail to show a display: then nothing behind it is shown.

* `Console.shownIn` — the displays of a run that were shown; `Console.showing`, `Console.unshown` — the events
  of showing, and of failing to.
* `Console.Displayed` — what comes of showing displays in order.
* `Console.Unfailing` — every display of a run was shown.

Principal results: `showAll_displayed`, `report_trace`, `endShowing_trace` — what comes of showing displays, an
outcome, and a failure.
-/

namespace QueryPlans.Console

variable {ds ds' early rest : List Display} {d : Display} {es es' : List (Event Console.interface)}
  {r : Except Failure Unit} {f : Failure} {ending : Ending}

/-- The displays that were shown. -/
def shownIn (es : List (Event Console.interface)) : List Display :=
  es.filterMap fun
    | .answered (.display d) (.ok ()) => some d
    | _ => none

theorem shownIn_append (es es' : List (Event Console.interface)) :
    shownIn (es ++ es') = shownIn es ++ shownIn es' :=
  List.filterMap_append

/-- The events of showing. -/
def showing (ds : List Display) : List (Event Console.interface) :=
  ds.map fun d => .answered (.display d) (.ok ())

/-- The event of failing to show. -/
def unshown (d : Display) (f : Fault) : Event Console.interface := .answered (.display d) (.error f)

theorem showing_append (ds ds' : List Display) : showing (ds ++ ds') = showing ds ++ showing ds' :=
  List.map_append

theorem shownIn_showing (ds : List Display) : shownIn (showing ds) = ds := by
  induction ds with
  | nil => rfl
  | cons d ds ih => exact congrArg (List.cons d) ih

/-- Every display was shown. -/
def Unfailing (es : List (Event Console.interface)) : Prop := ∀ d f, unshown d f ∉ es

theorem unshown_not_mem_showing {f : Fault} : unshown d f ∉ showing ds := by
  intro hmem
  obtain ⟨d', -, heq⟩ := List.mem_map.1 hmem
  cases heq

/-- What comes of showing displays in order: all are shown, or one cannot be, and none behind it is. -/
inductive Displayed (ds : List Display) : List (Event Console.interface) → Except Failure Unit → Prop
  | all : Displayed ds (showing ds) (.ok ())
  | cut {early rest : List Display} {d : Display} (f : Fault) (hsplit : ds = early ++ d :: rest) :
      Displayed ds (showing early ++ [unshown d f]) (.error (.fault f))

namespace Displayed

theorem append (h : Displayed ds es (.ok ())) (h' : Displayed ds' es' r) :
    Displayed (ds ++ ds') (es ++ es') r := by
  cases h with
  | all =>
    cases h' with
    | all =>
      rw [← showing_append]
      exact .all
    | @cut early rest d f hsplit =>
      rw [← List.append_assoc, ← showing_append]
      exact .cut f (by rw [hsplit, List.append_assoc])

/-- What cannot be shown leaves out what was to be shown next. -/
theorem append_right (h : Displayed ds es (.error f)) (ds' : List Display) :
    Displayed (ds ++ ds') es (.error f) := by
  cases h with
  | @cut early rest d f hsplit => exact .cut f (by rw [hsplit, List.append_assoc, List.cons_append])

/-- Where every display was shown, all were. -/
theorem of_unfailing (h : Displayed ds es r) (hes : Unfailing es) : es = showing ds ∧ r = .ok () := by
  cases h with
  | all => exact ⟨rfl, rfl⟩
  | cut f => exact absurd (List.mem_append_right _ List.mem_cons_self) (hes _ f)

/-- A display that was not shown is the last one: those in front of it were shown. -/
theorem of_unshown {fault : Fault} (h : Displayed ds es r) (hmem : unshown d fault ∈ es) :
    r = .error (.fault fault) ∧ ∃ rest, ds = shownIn es ++ d :: rest := by
  cases h with
  | all => exact absurd hmem unshown_not_mem_showing
  | @cut early rest d' f hsplit =>
    have hlast := List.mem_singleton.1 ((List.mem_append.1 hmem).resolve_left unshown_not_mem_showing)
    cases hlast
    refine ⟨rfl, rest, ?_⟩
    have hnone : shownIn [unshown d fault] = [] := rfl
    rw [shownIn_append, shownIn_showing, hnone, List.append_nil, hsplit]

end Displayed

theorem display_displayed (h : (display d).Trace es r) : Displayed [d] es r := by
  obtain ⟨reply, tail, rfl, hend⟩ := Program.trace_call_bind_iff.1 h
  obtain ⟨rfl, rfl⟩ := Program.trace_done_iff.1 hend
  cases reply with
  | ok u => exact .all
  | error f =>
    have hfirst : [d] = [] ++ d :: [] := rfl
    exact .cut f hfirst

theorem showAll_displayed (h : (showAll ds).Trace es r) : Displayed ds es r := by
  induction ds generalizing es with
  | nil =>
    obtain ⟨rfl, rfl⟩ := Program.trace_done_iff.1 h
    exact .all
  | cons d ds ih =>
    obtain ⟨es₁, es₂, first, hfirst, hrest, rfl⟩ := Program.trace_bind_iff.1 h
    have hshown := display_displayed hfirst
    cases first with
    | ok u => exact hshown.append (ih hrest)
    | error f =>
      obtain ⟨rfl, rfl⟩ := Program.trace_done_iff.1 hrest
      rw [List.append_nil]
      exact hshown.append_right ds

/-- What is shown is shown whole, and then the failure that stopped it is the result; or it cannot be
shown. -/
theorem report_trace {shown : Shown} (h : (report shown).Trace es r) :
    (es = showing shown.displays ∧ r = shown.failure.elim (.ok ()) .error) ∨
      ∃ f, Displayed shown.displays es (.error f) ∧ r = .error f := by
  obtain ⟨es₁, es₂, first, hfirst, hrest, rfl⟩ := Program.trace_bind_iff.1 h
  have hshown := showAll_displayed hfirst
  cases first with
  | ok u =>
    obtain ⟨rfl, rfl⟩ := Program.trace_done_iff.1 hrest
    rw [List.append_nil]
    cases hshown
    exact .inl ⟨rfl, rfl⟩
  | error f =>
    obtain ⟨rfl, rfl⟩ := Program.trace_done_iff.1 hrest
    rw [List.append_nil]
    exact .inr ⟨f, hshown, rfl⟩

/-- The end of a run that was to end otherwise: nothing handles a failure to show. -/
def endUnless (ending : Ending) : Except Failure Unit → Ending
  | .ok () => ending
  | .error f => .uncaught f

theorem endShowing_trace (h : (endShowing ds).Trace es ending) :
    ∃ r, Displayed ds es r ∧ ending = endUnless .failed r := by
  obtain ⟨es₁, es₂, r, hshown, hrest, rfl⟩ := Program.trace_bind_iff.1 h
  refine ⟨r, ?_⟩
  cases r with
  | ok u =>
    obtain ⟨rfl, rfl⟩ := Program.trace_done_iff.1 hrest
    rw [List.append_nil]
    exact ⟨showAll_displayed hshown, rfl⟩
  | error f =>
    obtain ⟨rfl, rfl⟩ := Program.trace_done_iff.1 hrest
    rw [List.append_nil]
    exact ⟨showAll_displayed hshown, rfl⟩

/-! ## Failures -/

/-- The line with the message of an error. -/
def errorLine (message : String) : Display :=
  .line (Markup.styled "red" ("Error: " ++ Markup.escape message))

/-- A failure is shown as its message first. -/
theorem displays_eq (f : Failure) :
    f.displays = errorLine f.message :: (f.statement?.map (Display.statement · "Failed SQL")).toList := rfl

/-- The events end with a display that could not be shown, and the failure is that. -/
def BrokenOff (es : List (Event Console.interface)) (f : Failure) : Prop :=
  ∃ early d fault, es = early ++ [unshown d fault] ∧ f = .fault fault

theorem Displayed.brokenOff (h : Displayed ds es (.error f)) : BrokenOff es f := by
  cases h with
  | cut fault => exact ⟨_, _, fault, rfl, rfl⟩

theorem BrokenOff.append (h : BrokenOff es f) (before : List (Event Console.interface)) :
    BrokenOff (before ++ es) f := by
  obtain ⟨early, d, fault, rfl, rfl⟩ := h
  exact ⟨before ++ early, d, fault, (List.append_assoc ..).symm, rfl⟩

end QueryPlans.Console
