import QueryPlans.Fault
import QueryPlans.Proofs.Plan.Retention

/-!
# Programs that stop at the first fault

* `Interface.fallible` — an interface that answers each call with a value or with a fault.
* `Raises` — the faults among answers.
* `Program.Forwards` — a program that ends in the first fault that it meets; what faults it may raise
  itself is a parameter.

Such programs are put together by `Forwards.andThen`.
-/

namespace QueryPlans

/-- An interface that answers each call with a value or with a fault. -/
abbrev Interface.fallible (Call : Type) (Value : Call → Type) : Interface :=
  ⟨Call, fun c => Except Fault (Value c)⟩

variable {C : Type} {V : C → Type} {α β : Type} {own : Fault → Prop}
  {es fs : List (Event (.fallible C V))} {f : Fault}

/-! ## Faults among answers -/

/-- A call was answered with the fault. -/
def Raises (es : List (Event (.fallible C V))) (f : Fault) : Prop :=
  ∃ c : C, (.answered c (.error f) : Event (.fallible C V)) ∈ es

theorem CallFree.not_raises (h : CallFree es) : ¬ Raises es f := by
  rintro ⟨c, hmem⟩
  exact h.not_mem _ _ hmem

theorem not_raises_nil : ¬ Raises ([] : List (Event (.fallible C V))) f := callFree_nil.not_raises

theorem raises_append : Raises (es ++ fs) f ↔ Raises es f ∨ Raises fs f := by
  unfold Raises
  simp only [List.mem_append, exists_or]

theorem raises_noted_cons {entry : LogEntry} : Raises (.noted entry :: es) f ↔ Raises es f := by
  simp [Raises]

theorem raises_ok_cons {c : C} {v : V c} : Raises (.answered c (.ok v) :: es) f ↔ Raises es f := by
  unfold Raises
  simp only [List.mem_cons]
  constructor
  · rintro ⟨c', heq | hmem⟩
    · cases heq
    · exact ⟨c', hmem⟩
  · rintro ⟨c', hmem⟩
    exact ⟨c', .inr hmem⟩

theorem raises_error_cons {c : C} {g : Fault} :
    Raises (.answered c (.error g) :: es) f ↔ f = g ∨ Raises es f := by
  unfold Raises
  simp only [List.mem_cons]
  constructor
  · rintro ⟨c', heq | hmem⟩
    · cases heq
      exact .inl rfl
    · exact .inr ⟨c', hmem⟩
  · rintro (rfl | ⟨c', hmem⟩)
    · exact ⟨c, .inl rfl⟩
    · exact ⟨c', .inr hmem⟩

theorem Raises.mono (h : Raises es f) (hsub : es ⊆ fs) : Raises fs f := by
  obtain ⟨c, hmem⟩ := h
  exact ⟨c, hsub hmem⟩

namespace Program

/-! ## Programs that stop -/

/-- A program that ends in the first fault it meets. The other faults that it ends in are its own. -/
structure Forwards (own : Fault → Prop) (p : Program (.fallible C V) (Except Fault α)) : Prop where
  stops : ∀ {es r f}, p.Trace es r → Raises es f → r = .error f
  raised : ∀ {es f}, p.Trace es (.error f) → Raises es f ∨ own f

namespace Forwards

theorem of_ok (a : α) : Forwards own (.done (.ok a) : Program (.fallible C V) (Except Fault α)) where
  stops h hraises := by
    obtain ⟨rfl, -⟩ := trace_done_iff.1 h
    exact absurd hraises not_raises_nil
  raised h := nomatch (trace_done_iff.1 h).2

theorem of_error (hf : own f) :
    Forwards own (.done (.error f) : Program (.fallible C V) (Except Fault α)) where
  stops h hraises := by
    obtain ⟨rfl, -⟩ := trace_done_iff.1 h
    exact absurd hraises not_raises_nil
  raised h := by
    obtain ⟨-, heq⟩ := trace_done_iff.1 h
    cases heq
    exact .inr hf

theorem of_call (c : C) : Forwards own (.ask (I := .fallible C V) c .done) where
  stops h hraises := by
    obtain ⟨reply, tail, rfl, hend⟩ := trace_ask_iff.1 h
    obtain ⟨rfl, hreply⟩ := trace_done_iff.1 hend
    rw [hreply]
    cases reply with
    | error g =>
      rcases raises_error_cons.1 hraises with rfl | hnil
      · rfl
      · exact absurd hnil not_raises_nil
    | ok v => exact absurd (raises_ok_cons.1 hraises) not_raises_nil
  raised h := by
    obtain ⟨reply, tail, rfl, hend⟩ := trace_ask_iff.1 h
    obtain ⟨rfl, rfl⟩ := trace_done_iff.1 hend
    exact .inl ⟨c, List.mem_cons_self⟩

/-- After such a program another one, unless the first has ended in a fault. -/
theorem andThen {p : Program (.fallible C V) (Except Fault α)}
    {next : Except Fault α → Program (.fallible C V) (Except Fault β)} (hp : Forwards own p)
    (herror : ∀ f, next (.error f) = .done (.error f)) (hnext : ∀ a, Forwards own (next (.ok a))) :
    Forwards own (p >>= next) where
  stops h hraises := by
    obtain ⟨es₁, es₂, r, hfirst, hrest, rfl⟩ := trace_bind_iff.1 h
    cases r with
    | error g =>
      rw [herror g] at hrest
      obtain ⟨rfl, rfl⟩ := trace_done_iff.1 hrest
      rw [List.append_nil] at hraises
      cases hp.stops hfirst hraises
      rfl
    | ok a =>
      rcases raises_append.1 hraises with hearly | hlate
      · cases hp.stops hfirst hearly
      · exact (hnext a).stops hrest hlate
  raised h := by
    obtain ⟨es₁, es₂, r, hfirst, hrest, rfl⟩ := trace_bind_iff.1 h
    cases r with
    | error g =>
      rw [herror g] at hrest
      obtain ⟨rfl, heq⟩ := trace_done_iff.1 hrest
      cases heq
      rw [List.append_nil]
      exact hp.raised hfirst
    | ok a => exact ((hnext a).raised hrest).imp_left fun h => raises_append.2 (.inr h)

/-- An entry in the log comes before such a program. -/
theorem noted {p : Program (.fallible C V) (Except Fault α)} {entry : LogEntry}
    (hp : Forwards own p) : Forwards own (.note entry p) where
  stops h hraises := by
    obtain ⟨tail, rfl, hrest⟩ := trace_note_iff.1 h
    exact hp.stops hrest (raises_noted_cons.1 hraises)
  raised h := by
    obtain ⟨tail, rfl, hrest⟩ := trace_note_iff.1 h
    exact (hp.raised hrest).imp_left raises_noted_cons.2

end Forwards

end Program

end QueryPlans
