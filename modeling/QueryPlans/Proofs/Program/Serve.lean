import QueryPlans.Proofs.Program.Trace

/-!
# Traces of a served program

* `Program.Serves` — the events of a program beside those of the programs that answered its calls: each
  call stands where its answer was found, and the state goes from one to the next.

Principal results: `trace_serve_iff` — a trace of a served program is a trace of the program, served;
`Serves.of_answered`, `Serves.of_mem` — each call has its answer among the other events, and each of
those belongs to the answer of a call.
-/

namespace QueryPlans.Program

variable {I J : Interface} {α σ : Type} {answer : σ → (c : I.Call) → Program J (I.Reply c × σ)}
  {s s' : σ} {ds : List (Event I)} {es : List (Event J)}

/-- The calls among the first events are answered, one after the other, by the second events. -/
inductive Serves (answer : σ → (c : I.Call) → Program J (I.Reply c × σ)) :
    σ → List (Event I) → List (Event J) → σ → Prop
  | nil (s : σ) : Serves answer s [] [] s
  | noted {s s' : σ} {ds : List (Event I)} {es : List (Event J)} (entry : LogEntry)
      (h : Serves answer s ds es s') : Serves answer s (.noted entry :: ds) (.noted entry :: es) s'
  | answered {s t s' : σ} {c : I.Call} {r : I.Reply c} {ds : List (Event I)}
      {first rest : List (Event J)} (hcall : (answer s c).Trace first (r, t))
      (h : Serves answer t ds rest s') : Serves answer s (.answered c r :: ds) (first ++ rest) s'

/-- A trace of a served program is a trace of the program, with its calls served. -/
theorem trace_serve_iff {p : Program I α} {a : α} :
    (p.serve answer s).Trace es (a, s') ↔ ∃ ds, p.Trace ds a ∧ Serves answer s ds es s' := by
  induction p generalizing s es with
  | done b =>
    rw [serve_done, trace_done_iff]
    constructor
    · rintro ⟨rfl, heq⟩
      obtain ⟨rfl, rfl⟩ := Prod.mk.inj heq
      exact ⟨[], .done a, .nil s'⟩
    · rintro ⟨_, h, hserved⟩
      obtain ⟨rfl, rfl⟩ := trace_done_iff.1 h
      cases hserved
      exact ⟨rfl, rfl⟩
  | note entry rest ih =>
    rw [serve, trace_note_iff]
    constructor
    · rintro ⟨tail, rfl, h⟩
      obtain ⟨ds, hds, hserved⟩ := ih.1 h
      exact ⟨_, .note hds, .noted entry hserved⟩
    · rintro ⟨_, h, hserved⟩
      obtain ⟨ds, rfl, hds⟩ := trace_note_iff.1 h
      cases hserved with
      | noted _ hrest => exact ⟨_, rfl, ih.2 ⟨ds, hds, hrest⟩⟩
  | ask c next ih =>
    have hbind : (ask c next).serve answer s =
        (answer s c >>= fun r => (next r.1).serve answer r.2) := rfl
    rw [hbind, trace_bind_iff]
    constructor
    · rintro ⟨first, rest, ⟨r, t⟩, hcall, h, rfl⟩
      obtain ⟨ds, hds, hserved⟩ := (ih r).1 h
      exact ⟨_, .ask r hds, .answered hcall hserved⟩
    · rintro ⟨_, h, hserved⟩
      obtain ⟨r, ds, rfl, hds⟩ := trace_ask_iff.1 h
      cases hserved with
      | answered hcall hrest => exact ⟨_, _, _, hcall, (ih r).2 ⟨ds, hds, hrest⟩, rfl⟩

namespace Serves

/-- The answer to a call was found by events among those that served the program. -/
theorem of_answered (h : Serves answer s ds es s') {c : I.Call} {r : I.Reply c}
    (hmem : .answered c r ∈ ds) :
    ∃ t t' part, (answer t c).Trace part (r, t') ∧ part ⊆ es := by
  induction h with
  | nil => cases hmem
  | noted entry _ ih =>
    obtain ⟨t, t', part, hcall, hsub⟩ := ih (by simpa using hmem)
    exact ⟨t, t', part, hcall, fun e he => List.mem_cons_of_mem _ (hsub he)⟩
  | answered hfirst _ ih =>
    rcases List.mem_cons.1 hmem with heq | hrest
    · cases heq
      exact ⟨_, _, _, hfirst, List.subset_append_left _ _⟩
    · obtain ⟨t, t', part, hcall, hsub⟩ := ih hrest
      exact ⟨t, t', part, hcall, fun e he => List.mem_append_right _ (hsub he)⟩

/-- Each exchange that served the program belongs to the answer of one of its calls. -/
theorem of_mem (h : Serves answer s ds es s') {c : J.Call} {r : J.Reply c}
    (hmem : .answered c r ∈ es) :
    ∃ (c' : I.Call) (r' : I.Reply c') (t t' : σ) (part : List (Event J)), .answered c' r' ∈ ds ∧
      (answer t c').Trace part (r', t') ∧ .answered c r ∈ part ∧ part ⊆ es := by
  induction h with
  | nil => cases hmem
  | noted entry _ ih =>
    obtain ⟨c', r', t, t', part, hmem', hcall, hpart, hsub⟩ := ih (by simpa using hmem)
    exact ⟨c', r', t, t', part, List.mem_cons_of_mem _ hmem', hcall, hpart,
      fun e he => List.mem_cons_of_mem _ (hsub he)⟩
  | answered hfirst _ ih =>
    rcases List.mem_append.1 hmem with hpart | hrest
    · exact ⟨_, _, _, _, _, List.mem_cons_self, hfirst, hpart, List.subset_append_left _ _⟩
    · obtain ⟨c', r', t, t', part, hmem', hcall, hpart, hsub⟩ := ih hrest
      exact ⟨c', r', t, t', part, List.mem_cons_of_mem _ hmem', hcall, hpart,
        fun e he => List.mem_append_right _ (hsub he)⟩

end Serves

end QueryPlans.Program
