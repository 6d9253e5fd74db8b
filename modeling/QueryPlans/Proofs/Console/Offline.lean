import QueryPlans.Console.Layout
import QueryPlans.Proofs.Console.Compiled
import QueryPlans.Proofs.Console.Escaped
import QueryPlans.Proofs.Session.Replied

/-!
# Plans compiled offline and in a session

The plan in a reply can be compiled without a database, and a session can act on the same reply.  What is
shown offline is what the session does, as far as it can be shown.

* `Verdict` — what becomes of a reply.
* `Verdict.ShownBy` — it can be seen on the console; `Verdict.Alike` — two verdicts look the same there.
* `Verdict.ReachedBy` — a session comes to it.

Principal results: `Verdict.shownBy_iff` — what a console shows, up to verdicts that look the same;
`Session.Replied.exists_verdict` — one verdict on both sides; `Session.compile_agrees_with_ask` — every verdict
is shown exactly when the session comes to it.
-/

namespace QueryPlans

/-- What becomes of a reply. -/
inductive Verdict where
  /-- The statement is sent, then that of its count. -/
  | query (sql count : String)
  /-- The statement is held for review. -/
  | review (sql : String)
  | otherTables
  /-- There is an error of the plan. -/
  | failed (message : String)
  /-- There is any other failure. -/
  | uncaught (f : Failure)

namespace Verdict

open Markup (LooksLike)

variable {v v' : Verdict} {ds : List Display} {ending : Console.Ending}
  {es : List (Event Session.interface)} {result : Except Failure Outcome}

/-! ## On the console -/

/-- The verdict can be seen: a statement stands below a summary, with its count or with the advice to review
it; the message that other tables are needed stands alone; the message of an error stands last. -/
def ShownBy (ds : List Display) (ending : Console.Ending) : Verdict → Prop
  | query sql count =>
    (∃ summary, ds = [.styledLine "bold green" summary, .statement sql, .statement count "Count SQL"]) ∧
      ending = .finished
  | review sql =>
    (∃ summary action, ds = [.styledLine "bold green" summary, .statement sql, Console.advice action]) ∧
      ending = .finished
  | otherTables => ds = [.styledLine "bold green" Plan.needOtherTablesMessage] ∧ ending = .finished
  | failed message => (∃ early, ds = early ++ [Console.errorLine message]) ∧ ending = .failed
  | uncaught f => ending = .uncaught f

/-- Verdicts that look the same. -/
inductive Alike : Verdict → Verdict → Prop
  | query {sql sql' count count' : String} (statement : LooksLike sql sql')
      (counts : LooksLike count count') : Alike (.query sql count) (.query sql' count')
  | review {sql sql' : String} (statement : LooksLike sql sql') : Alike (.review sql) (.review sql')
  | otherTables : Alike .otherTables .otherTables
  | failed {message message' : String} (text : LooksLike message message') :
    Alike (.failed message) (.failed message')
  | uncaught (f : Failure) : Alike (.uncaught f) (.uncaught f)

/-- The texts of the verdict. -/
def texts : Verdict → List String
  | query sql count => [sql, count]
  | review sql => [sql]
  | failed message => [message]
  | otherTables => []
  | uncaught _ => []

/-- A verdict whose texts end in no backslash looks like itself alone. -/
theorem Alike.eq (h : v.Alike v') (hv : ∀ s ∈ v'.texts, s.toList.getLast? ≠ some '\\') : v = v' := by
  cases h with
  | query statement counts =>
    rw [statement.eq (hv _ (by simp [texts])), counts.eq (hv _ (by simp [texts]))]
  | review statement => rw [statement.eq (hv _ (by simp [texts]))]
  | failed text => rw [text.eq (hv _ (by simp [texts]))]
  | otherTables => rfl
  | uncaught f => rfl

theorem Alike.refl : (v : Verdict) → v.Alike v
  | .query _ _ => .query (.inl rfl) (.inl rfl)
  | .review _ => .review (.inl rfl)
  | .otherTables => .otherTables
  | .failed _ => .failed (.inl rfl)
  | .uncaught f => .uncaught f

theorem looksLike_of_statement {s t title : String}
    (h : Display.statement s title = .statement t title) : LooksLike s t :=
  Markup.escape_eq_iff.1 (Display.panel.inj h).1

theorem looksLike_of_errorLine {s t : String} (h : Console.errorLine s = Console.errorLine t) :
    LooksLike s t := by
  have hlines := Display.line.inj h
  refine Markup.escape_eq_iff.1 ?_
  simpa [Markup.styled, String.append_left_inj, String.append_right_inj] using hlines

theorem ShownBy.alike (h : v.ShownBy ds ending) (h' : v'.ShownBy ds ending) : v.Alike v' := by
  cases v with
  | query sql count =>
    obtain ⟨⟨summary, rfl⟩, rfl⟩ := h
    cases v' with
    | query sql' count' =>
      obtain ⟨⟨summary', hds⟩, -⟩ := h'
      simp only [List.cons.injEq, and_true] at hds
      exact .query (looksLike_of_statement hds.2.1) (looksLike_of_statement hds.2.2)
    | _ => simp [ShownBy, Display.statement, Console.advice] at h'
  | review sql =>
    obtain ⟨⟨summary, action, rfl⟩, rfl⟩ := h
    cases v' with
    | review sql' =>
      obtain ⟨⟨summary', action', hds⟩, -⟩ := h'
      simp only [List.cons.injEq, and_true] at hds
      exact .review (looksLike_of_statement hds.2.1)
    | _ => simp [ShownBy, Display.statement, Console.advice] at h'
  | otherTables =>
    obtain ⟨rfl, rfl⟩ := h
    cases v' with
    | otherTables => exact .otherTables
    | _ => simp [ShownBy] at h'
  | failed message =>
    obtain ⟨⟨early, rfl⟩, rfl⟩ := h
    cases v' with
    | failed message' =>
      obtain ⟨⟨early', hds⟩, -⟩ := h'
      obtain ⟨-, hlast⟩ := List.append_inj' hds (by simp)
      exact .failed (looksLike_of_errorLine (List.singleton_inj.1 hlast))
    | _ => simp [ShownBy] at h'
  | uncaught f =>
    obtain rfl := h
    cases v' with
    | uncaught g =>
      cases h'
      exact .uncaught f
    | _ => simp [ShownBy] at h'

theorem ShownBy.of_alike (h : v.ShownBy ds ending) (halike : v.Alike v') : v'.ShownBy ds ending := by
  cases halike with
  | query statement counts =>
    simpa only [ShownBy, Display.statement, Markup.escape_eq_iff.2 statement,
      Markup.escape_eq_iff.2 counts] using h
  | review statement =>
    simpa only [ShownBy, Display.statement, Markup.escape_eq_iff.2 statement] using h
  | failed text => simpa only [ShownBy, Console.errorLine, Markup.escape_eq_iff.2 text] using h
  | otherTables => exact h
  | uncaught f => exact h

/-- Whatever shows a verdict shows those that look the same, and no others. -/
theorem shownBy_iff (h : v.ShownBy ds ending) : v'.ShownBy ds ending ↔ v.Alike v' :=
  ⟨h.alike, h.of_alike⟩

/-! ## In a session -/

/-- A session comes to the verdict, by what it sends and what the request ends in. -/
def ReachedBy (es : List (Event Session.interface)) (result : Except Failure Outcome) : Verdict → Prop
  | query sql count => Session.dataCalls es = [.execute sql, .fetchValue count] ∧
    ∃ p summary rows page, result = .ok (.executed p summary sql (some count) rows page)
  | review sql => Session.dataCalls es = [] ∧ ∃ p summary, result = .ok (.review p summary sql)
  | otherTables => ∃ p summary, result = .ok (.needOtherTables p summary)
  | failed message => ∃ f, result = .error f ∧ f.isPlanError = true ∧ f.message = message
  | uncaught f => result = .error f ∧ f.isPlanError = false

/-- A session comes to one verdict. -/
theorem ReachedBy.unique (h : v.ReachedBy es result) (h' : v'.ReachedBy es result) : v = v' := by
  cases v with
  | query sql count =>
    obtain ⟨hsent, p, summary, rows, page, rfl⟩ := h
    cases v' with
    | query sql' count' =>
      obtain ⟨hsent', -⟩ := h'
      simpa [hsent] using hsent'
    | _ => simp [ReachedBy] at h'
  | review sql =>
    obtain ⟨-, p, summary, rfl⟩ := h
    cases v' with
    | review sql' =>
      obtain ⟨-, p', summary', hresult⟩ := h'
      simpa using (Outcome.review.inj (Except.ok.inj hresult)).2.2
    | _ => simp [ReachedBy] at h'
  | otherTables =>
    obtain ⟨p, summary, rfl⟩ := h
    cases v' with
    | otherTables => rfl
    | _ => simp [ReachedBy] at h'
  | failed message =>
    obtain ⟨f, rfl, hplan, rfl⟩ := h
    cases v' with
    | failed message' =>
      obtain ⟨g, hresult, -, rfl⟩ := h'
      rw [Except.error.inj hresult]
    | uncaught g =>
      obtain ⟨hresult, hforeign⟩ := h'
      rw [← Except.error.inj hresult, hplan] at hforeign
      cases hforeign
    | _ => simp [ReachedBy] at h'
  | uncaught f =>
    obtain ⟨rfl, hforeign⟩ := h
    cases v' with
    | failed message' =>
      obtain ⟨g, hresult, hplan, -⟩ := h'
      rw [← Except.error.inj hresult, hforeign] at hplan
      cases hplan
    | uncaught g => rw [Except.error.inj h'.1]
    | _ => simp [ReachedBy] at h'

end Verdict

/-! ## On both sides -/

namespace Session

open Console (compile compileRead endOf shownIn unshown Unfailing)

variable {s : Session} {retained : Retained} {table question reply : String}
  {es : List (Event Session.interface)} {result : Except Failure Outcome}
  {cs : List (Event Console.interface)} {ds : List Display} {ending : Console.Ending}

/-- A failure without a statement is the same on both sides. -/
theorem exists_verdict_of_failure {early : List Display} {f : Failure}
    (hstatement : f.statement? = none) (hresult : result = .error f) :
    ∃ v : Verdict, v.ShownBy (endOf ⟨early, some f⟩).1 (endOf ⟨early, some f⟩).2 ∧
      v.ReachedBy es result := by
  cases hplan : f.isPlanError with
  | true =>
    rw [Console.endOf_failure hplan hstatement]
    exact ⟨.failed f.message, ⟨⟨early, rfl⟩, rfl⟩, f, hresult, hplan, rfl⟩
  | false =>
    rw [Console.endOf_foreign hplan]
    exact ⟨.uncaught f, rfl, hresult, hplan⟩

/-- What is to be shown offline is what the session comes to. -/
theorem Replied.exists_verdict (h : Replied s retained table question reply es result) :
    ∃ v : Verdict, v.ShownBy (endOf (compile reply s.host)).1 (endOf (compile reply s.host)).2 ∧
      v.ReachedBy es result := by
  cases Plan.decided reply s.host with
  | unreadable e read =>
    rw [Console.compile_unreadable read]
    exact exists_verdict_of_failure (Console.statement?_unreadable e) (h.fails (planOf_unreadable read))
  | otherTables p read other =>
    rw [Console.compile_otherTables read other]
    obtain ⟨_, after, haccept, -⟩ :=
      h.accepts (planOf_otherTables (readPlan_default h.settings read) other)
    exact ⟨.otherTables, ⟨rfl, rfl⟩, p, _, (accept_otherTables other haccept).2⟩
  | unstated p summary e read here named statement =>
    rw [Console.compile_here read here named, Console.compiled_unstated statement]
    have hplan := planOf_here (readPlan_default h.settings read) here
    rw [statement] at hplan
    exact exists_verdict_of_failure (Console.statement?_ofStatement e) (h.fails hplan)
  | query p summary sql count read here named statement reads counts =>
    rw [Console.compile_here read here named, Console.compiled_query statement reads counts]
    obtain ⟨_, hcarried, hsent, hmem⟩ := h.carriesOut read here named statement
    unfold Plan.carryOut at hcarried
    rw [if_pos reads] at hcarried
    obtain ⟨hcalls, rows, page, hresult⟩ := execute_answered counts
      (fun sql answer hd => h.rows sql answer (hmem _ hd))
      (fun sql answer hd => h.total sql answer (hmem _ hd)) hcarried
    exact ⟨.query sql count, ⟨⟨summary, rfl⟩, rfl⟩, hsent.trans hcalls, p, summary, rows, page, hresult⟩
  | review p summary sql action read here named statement writes word =>
    rw [Console.compile_here read here named, Console.compiled_review statement writes word]
    obtain ⟨_, hcarried, hsent, -⟩ := h.carriesOut read here named statement
    obtain ⟨hcalls, hresult⟩ := carryOut_review statement writes hcarried
    rw [dataCalls_of_dataFree (dataFree_liftDatabase_of_callFree hcalls)] at hsent
    exact ⟨.review sql, ⟨⟨summary, action, rfl⟩, rfl⟩, hsent, p, summary, hresult⟩

/-- What was compiled is seen whole, unless something could not be shown: then the run ends with that, and what
was seen is the part of a verdict in front of it. -/
theorem compileRead_shows {v : Verdict} {host : Host}
    (hverdict : v.ShownBy (endOf (compile reply host)).1 (endOf (compile reply host)).2)
    (hcompile : (compileRead reply host).Trace cs ending) :
    (Unfailing cs → v.ShownBy (shownIn cs) ending) ∧
      ∀ d f, unshown d f ∈ cs →
        ending = .uncaught (.fault f) ∧ ∃ rest planned, v.ShownBy (shownIn cs ++ d :: rest) planned := by
  obtain ⟨r, hdisplayed, rfl⟩ := Console.compileRead_trace hcompile
  refine ⟨fun hunfailing => ?_, fun d f hmem => ?_⟩
  · obtain ⟨rfl, rfl⟩ := hdisplayed.of_unfailing hunfailing
    rwa [Console.shownIn_showing]
  · obtain ⟨rfl, rest, hsplit⟩ := hdisplayed.of_unshown hmem
    rw [hsplit] at hverdict
    exact ⟨rfl, rest, _, hverdict⟩

/-- The name of a table may hold half a surrogate pair: the plan is compiled, but a terminal that encodes what it
shows does not even show its summary. -/
example :
    let shown := compile "\x7b\"tables\": \"\\ud800\"\x7d"
    shown.failure.isNone ∧ (shown.displays.map (·.encode.isOk)) = [false, false, false] := by
  decide +kernel

/-- The displays are shown, and nothing else is answered. -/
def quietConsole : World Console.interface Unit
  | (), .display _ => (.ok (), ())
  | (), .read _ => (.error "no file", ())
  | (), .connect => (.ok (), ())
  | (), .disconnect => (.ok (), ())
  | (), .close => (.ok (), ())
  | (), .describe _ _ => (.ok "", ())
  | (), .ask _ _ _ => (.ok default, ())

/-- A session with the default settings. -/
def plainSession : Session := { settings := {}, provider := { name := .openai, model := "gpt-4o" } }

end Session

end QueryPlans
