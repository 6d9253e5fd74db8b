import QueryPlans.Proofs.Console.Displayed

/-!
# Conversations

A chat answers the lines of its input until one asks to leave, or the input ends.  A failure to answer, or to
show an answer, is shown, and the chat goes on.  Only a cancellation would end it, or something that the chat
says itself and that cannot be shown.

* `leaves`, `linesRead`, `questions` — the lines that ask to leave, those in front of the first one, and the
  questions among these.
* `SaidByChat`, `Speaks` — what the chat says itself; it can be shown.
* `AnswerShown`, `Turns` — what is shown of an answer, and what happens for lines that are answered one after
  the other.
* `Conversed` — everything that may come of a conversation, input by input.
* `asksIn`, `closingsIn` — the questions among events, and what closings are answered with.

Principal results: `converse_conversed` — nothing else comes of a conversation; `Conversed.turns` — its events, if
what the chat says can be shown; `Turns.reported` — what failed in them was reported; `Conversed.asks`,
`Conversed.brokenOff` — whatever cannot be shown; `every_question_is_asked` — the same of a chat, which
connects first and is closed once.
-/

namespace QueryPlans.Console

variable {s : Session} {table question text : String} {lines : List String} {inputs : List Input}
  {d : Display} {ds : List Display} {es fs : List (Event Console.interface)} {f : Failure}
  {r : Except Failure Unit}

/-! ## Lines -/

/-- The lines in front of the first interrupt. -/
def linesOf : List Input → List String
  | .line text :: rest => text :: linesOf rest
  | _ => []

/-- The line asks to leave. -/
def leaves (text : String) : Bool := Line.leaveWords.contains (Text.lower (Text.strip text))

/-- The lines in front of the first that asks to leave. -/
def linesRead (inputs : List Input) : List String := (linesOf inputs).takeWhile (!leaves ·)

/-- The questions: those lines without the blanks around them, but for blank ones. -/
def questions (inputs : List Input) : List String :=
  ((linesRead inputs).map Text.strip).filter (· != "")

theorem not_leaves_of_blank (h : Text.strip text = "") : leaves text = false := by
  unfold leaves
  rw [h]
  decide

theorem ofText_of_blank (h : Text.strip text = "") : Line.ofText text = .blank := by
  unfold Line.ofText
  exact if_pos h

theorem ofText_of_leaves (h : leaves text = true) : Line.ofText text = .leave := by
  have hne : Text.strip text ≠ "" := by
    intro hblank
    rw [not_leaves_of_blank hblank] at h
    cases h
  unfold Line.ofText
  simp only [hne, ↓reduceIte]
  exact if_pos h

theorem ofText_of_question (hne : Text.strip text ≠ "") (h : leaves text = false) :
    Line.ofText text = .question (Text.strip text) := by
  unfold Line.ofText
  simp only [hne, ↓reduceIte]
  exact if_neg (Bool.eq_false_iff.1 h)

/-! ## What is shown -/

theorem isOrdinary_ofPage (e : Page.Error) : (Failure.ofPage e).isOrdinary = true := by
  rcases e with e | e
  · cases e <;> rfl
  · rfl

theorem isOrdinary_of_statusLine {page : Page} {f : Failure}
    (h : (Showing.statusLine page).failure = some f) : f.isOrdinary = true := by
  unfold Showing.statusLine at h
  split at h
  · cases h
  · cases h
    exact isOrdinary_ofPage _

/-- What stops the showing of an outcome is no cancellation. -/
theorem isOrdinary_of_shown {outcome : Outcome} {f : Failure} (h : outcome.shown.failure = some f) :
    f.isOrdinary = true := by
  unfold Outcome.shown Outcome.showing Showing.shown at h
  cases outcome with
  | needOtherTables plan summary => cases h
  | review plan summary sql =>
    cases hword : plan.actionInCapitals with
    | ok action =>
      simp only [hword] at h
      cases h
    | error fault =>
      simp only [hword] at h
      unfold Plan.actionInCapitals at hword
      split at hword
      · cases hword
      · cases hword
        cases h
        rfl
  | executed plan summary sql count rows page =>
    unfold Showing.result at h
    simp only [Shown.done_append, Option.elim_some] at h
    exact isOrdinary_of_statusLine h

/-- What the chat says itself. -/
inductive SaidByChat : Display → Prop
  | prompt : SaidByChat (.prompt promptMarkup)
  /-- A question is being answered. -/
  | processing : SaidByChat (.status (Markup.styled "cyan" "Processing..."))
  | failure (f : Failure) {d : Display} (h : d ∈ f.displays) : SaidByChat d
  | farewell : SaidByChat (.line farewell)
  /-- The farewell behind an input that ended. -/
  | farewellAtEnd : SaidByChat (.line ("\n" ++ Console.farewell))

/-- What the chat says itself is shown. An answer may fail to be shown. -/
def Speaks (es : List (Event Console.interface)) : Prop := ∀ d f, unshown d f ∈ es → ¬ SaidByChat d

/-- No request is cancelled: neither a failure to answer nor one to show is a cancellation. -/
structure Uncancelled (s : Session) (table : String) (es : List (Event Console.interface)) : Prop where
  answered : ∀ question f, .answered (.ask s table question) (.error f) ∈ es → f.isOrdinary = true
  shown : ∀ d f, unshown d f ∈ es → f.isOrdinary = true

theorem Speaks.of_subset (h : Speaks fs) (hsub : es ⊆ fs) : Speaks es :=
  fun d f hmem => h d f (hsub hmem)

theorem Uncancelled.of_subset (h : Uncancelled s table fs) (hsub : es ⊆ fs) : Uncancelled s table es :=
  ⟨fun question f hmem => h.answered question f (hsub hmem), fun d f hmem => h.shown d f (hsub hmem)⟩

/-- What the chat says itself is shown whole. -/
theorem Displayed.of_speaks (h : Displayed ds es r) (hds : ∀ d ∈ ds, SaidByChat d) (hspeaks : Speaks es) :
    es = showing ds ∧ r = .ok () := by
  cases h with
  | all => exact ⟨rfl, rfl⟩
  | @cut early rest d f hsplit =>
    have hsaid : SaidByChat d := hds d (by simp [hsplit])
    exact absurd hsaid (hspeaks d f (by simp))

theorem display_said (h : (display d).Trace es r) (hd : SaidByChat d) (hspeaks : Speaks es) :
    es = showing [d] ∧ r = .ok () :=
  (display_displayed h).of_speaks (fun d' hd' => by rwa [List.mem_singleton.1 hd']) hspeaks

/-- A failure that is no cancellation is shown; that may fail. -/
theorem handle_displayed (h : (handle (.error f)).Trace es r) (hordinary : f.isOrdinary = true) :
    Displayed f.displays es r := by
  unfold handle at h
  simp only [hordinary, ↓reduceIte] at h
  exact showAll_displayed h

theorem handle_said (h : (handle (.error f)).Trace es r) (hordinary : f.isOrdinary = true)
    (hspeaks : Speaks es) : es = showing f.displays ∧ r = .ok () :=
  (handle_displayed h hordinary).of_speaks (fun _ hd => .failure f hd) hspeaks

/-! ## Turns -/

/-- The prompt. -/
def prompted : Event Console.interface := .answered (.display (.prompt promptMarkup)) (.ok ())

/-- What is shown while a question is answered. -/
def processing : Event Console.interface :=
  .answered (.display (.status (Markup.styled "cyan" "Processing..."))) (.ok ())

/-- What is shown of the answer to a question: the failure; or the outcome, and behind it what stopped it,
or what could not be shown of it. -/
inductive AnswerShown : Except Failure Outcome → List (Event Console.interface) → Prop
  | failed (f : Failure) : AnswerShown (.error f) (showing f.displays)
  | whole {outcome : Outcome} (hwhole : outcome.shown.failure = none) :
      AnswerShown (.ok outcome) (showing outcome.shown.displays)
  | stopped {outcome : Outcome} {f : Failure} (hstopped : outcome.shown.failure = some f) :
      AnswerShown (.ok outcome) (showing outcome.shown.displays ++ showing f.displays)
  | cut {outcome : Outcome} {early rest : List Display} {d : Display} (f : Fault)
      (hsplit : outcome.shown.displays = early ++ d :: rest) :
      AnswerShown (.ok outcome) (showing early ++ unshown d f :: showing (Failure.fault f).displays)

/-- The events of lines that are answered one after the other: a blank line is passed over, any other is asked
without the blanks around it, and what is answered is shown. -/
inductive Turns (s : Session) (table : String) : List String → List (Event Console.interface) → Prop
  | nil : Turns s table [] []
  | blank {text : String} {rest : List String} {es : List (Event Console.interface)}
      (hblank : Text.strip text = "") (h : Turns s table rest es) :
      Turns s table (text :: rest) (prompted :: es)
  | asked {text : String} {rest : List String} {shown es : List (Event Console.interface)}
      {reply : Except Failure Outcome} (hne : Text.strip text ≠ "") (hshown : AnswerShown reply shown)
      (h : Turns s table rest es) :
      Turns s table (text :: rest)
        (prompted :: processing :: .answered (.ask s table (Text.strip text)) reply :: (shown ++ es))

/-- An outcome is shown, and then what went wrong with that. -/
theorem report_shown {outcome : Outcome} {es₁ es₂ : List (Event Console.interface)}
    {result : Except Failure Unit} (h : (report outcome.shown).Trace es₁ result)
    (hhandled : (handle result).Trace es₂ r) (hspeaks : Speaks es₂)
    (hshown : ∀ d f, unshown d f ∈ es₁ → f.isOrdinary = true) :
    AnswerShown (.ok outcome) (es₁ ++ es₂) ∧ r = .ok () := by
  rcases report_trace h with ⟨rfl, rfl⟩ | ⟨f, hdisplayed, rfl⟩
  · cases hfailure : outcome.shown.failure with
    | none =>
      rw [hfailure] at hhandled
      obtain ⟨rfl, rfl⟩ := Program.trace_done_iff.1 hhandled
      rw [List.append_nil]
      exact ⟨.whole hfailure, rfl⟩
    | some f =>
      rw [hfailure] at hhandled
      obtain ⟨rfl, rfl⟩ := handle_said hhandled (isOrdinary_of_shown hfailure) hspeaks
      exact ⟨.stopped hfailure, rfl⟩
  · cases hdisplayed with
    | @cut early rest d fault hsplit =>
      have hordinary : fault.isOrdinary = true := hshown d fault (by simp)
      obtain ⟨rfl, rfl⟩ := handle_said hhandled hordinary hspeaks
      rw [List.append_assoc, List.singleton_append]
      exact ⟨.cut fault hsplit, rfl⟩

/-- A question is asked, and what is answered is shown. -/
theorem answer_events (h : (answer s table question).Trace es r) (hspeaks : Speaks es)
    (hanswers : Uncancelled s table es) :
    ∃ reply shown, es = processing :: .answered (.ask s table question) reply :: shown ∧
      AnswerShown reply shown ∧ r = .ok () := by
  obtain ⟨es₁, es₂, result, hasked, hhandled, rfl⟩ := Program.trace_bind_iff.1 h
  have hspeaks₂ : Speaks es₂ := hspeaks.of_subset (List.subset_append_right _ _)
  obtain ⟨status, tail, u, hstatus, hcalled, rfl⟩ := Program.trace_bind_iff.1 hasked
  have hfirst : Speaks status :=
    hspeaks.of_subset (List.Subset.trans (List.subset_append_left _ _) (List.subset_append_left _ _))
  obtain ⟨rfl, rfl⟩ := display_said hstatus .processing hfirst
  obtain ⟨reply, shown, rfl, hreported⟩ := Program.trace_call_bind_iff.1 hcalled
  cases reply with
  | error f =>
    obtain ⟨rfl, rfl⟩ := Program.trace_done_iff.1 hreported
    have hordinary : f.isOrdinary = true := hanswers.answered question f (by simp)
    obtain ⟨rfl, rfl⟩ := handle_said hhandled hordinary hspeaks₂
    exact ⟨_, _, rfl, .failed f, rfl⟩
  | ok outcome =>
    have hordinary (d : Display) (f : Fault) (hmem : unshown d f ∈ shown) : f.isOrdinary = true :=
      hanswers.shown d f (by simp [hmem])
    obtain ⟨hshown, rfl⟩ := report_shown hreported hhandled hspeaks₂ hordinary
    exact ⟨_, _, by simp [showing, processing], hshown, rfl⟩

/-! ## Conversations -/

/-- What is said last: on a line of its own if the input ends. -/
def lastWord (inputs : List Input) : String :=
  if (linesOf inputs).any leaves then farewell else "\n" ++ farewell

/-- The events of saying a last word at the prompt. -/
def leaving (word : String) : List (Event Console.interface) := prompted :: showing [.line word]

theorem linesRead_cons {rest : List Input} (h : leaves text = false) :
    linesRead (.line text :: rest) = text :: linesRead rest := by
  simp [linesRead, linesOf, h]

theorem lastWord_cons {rest : List Input} (h : leaves text = false) :
    lastWord (.line text :: rest) = lastWord rest := by
  unfold lastWord
  simp only [linesOf, List.any_cons, h, Bool.false_or]

theorem linesRead_of_leaves {rest : List Input} (h : leaves text = true) :
    linesRead (.line text :: rest) = [] := by
  simp [linesRead, linesOf, h]

theorem lastWord_of_leaves {rest : List Input} (h : leaves text = true) :
    lastWord (.line text :: rest) = farewell := by
  unfold lastWord
  simp only [linesOf, List.any_cons, h, Bool.true_or, ↓reduceIte]

theorem linesRead_of_none (h : linesOf inputs = []) : linesRead inputs = [] := by
  unfold linesRead
  rw [h]
  rfl

theorem lastWord_of_none (h : linesOf inputs = []) : lastWord inputs = "\n" ++ farewell := by
  unfold lastWord
  rw [h]
  rfl

/-- Behind the prompt the chat goes on, unless the prompt cannot be shown. -/
theorem atPrompt_trace {next : ConsoleProgram (Except Failure Unit)} (h : (atPrompt next).Trace es r) :
    (∃ tail, es = prompted :: tail ∧ next.Trace tail r) ∨
      ∃ f, es = [unshown (.prompt promptMarkup) f] ∧ r = .error (.fault f) := by
  obtain ⟨es₁, es₂, u, hprompt, hnext, rfl⟩ := Program.trace_bind_iff.1 h
  have hdisplayed := display_displayed hprompt
  cases hdisplayed with
  | all => exact .inl ⟨es₂, rfl, hnext⟩
  | @cut early rest d f hsplit =>
    obtain ⟨rfl, rfl⟩ := Program.trace_done_iff.1 hnext
    obtain ⟨rfl, rfl, rfl⟩ : early = [] ∧ d = .prompt promptMarkup ∧ rest = [] := by
      cases early <;> simp_all
    exact .inr ⟨f, rfl, rfl⟩

/-- Behind an answer the rest follows, unless the answer was broken off. -/
theorem unlessBroken_trace {answered rest : ConsoleProgram (Except Failure Unit)}
    (h : (unlessBroken answered rest).Trace es r) :
    (∃ es₁ es₂, answered.Trace es₁ (.ok ()) ∧ rest.Trace es₂ r ∧ es = es₁ ++ es₂) ∨
      ∃ f, answered.Trace es (.error f) ∧ r = .error f := by
  obtain ⟨es₁, es₂, result, hfirst, hrest, rfl⟩ := Program.trace_bind_iff.1 h
  cases result with
  | ok u => exact .inl ⟨es₁, es₂, hfirst, hrest, rfl⟩
  | error f =>
    obtain ⟨rfl, rfl⟩ := Program.trace_done_iff.1 hrest
    rw [List.append_nil]
    exact .inr ⟨f, hfirst, rfl⟩

/-- Everything that may come of a conversation, by its next input. -/
inductive Conversed (s : Session) (table : String) :
    List Input → List (Event Console.interface) → Except Failure Unit → Prop
  /-- The prompt is not shown. -/
  | unprompted {inputs : List Input} (f : Fault) :
      Conversed s table inputs [unshown (.prompt promptMarkup) f] (.error (.fault f))
  /-- There is no other line. -/
  | ended {inputs : List Input} {tail : List (Event Console.interface)} {r : Except Failure Unit}
      (hnone : linesOf inputs = []) (hend : Displayed [.line ("\n" ++ farewell)] tail r) :
      Conversed s table inputs (prompted :: tail) r
  | blank {text : String} {rest : List Input} {tail : List (Event Console.interface)}
      {r : Except Failure Unit} (hblank : Text.strip text = "") (h : Conversed s table rest tail r) :
      Conversed s table (.line text :: rest) (prompted :: tail) r
  | left {text : String} {rest : List Input} {tail : List (Event Console.interface)}
      {r : Except Failure Unit} (hleave : leaves text = true) (hend : Displayed [.line farewell] tail r) :
      Conversed s table (.line text :: rest) (prompted :: tail) r
  | answered {text : String} {rest : List Input} {es₁ es₂ : List (Event Console.interface)}
      {r : Except Failure Unit} (hne : Text.strip text ≠ "") (hstay : leaves text = false)
      (hasked : (answer s table (Text.strip text)).Trace es₁ (.ok ())) (h : Conversed s table rest es₂ r) :
      Conversed s table (.line text :: rest) (prompted :: (es₁ ++ es₂)) r
  /-- The answer is broken off. -/
  | broken {text : String} {rest : List Input} {tail : List (Event Console.interface)} {f : Failure}
      (hne : Text.strip text ≠ "") (hstay : leaves text = false)
      (hasked : (answer s table (Text.strip text)).Trace tail (.error f)) :
      Conversed s table (.line text :: rest) (prompted :: tail) (.error f)

/-- The input ended. -/
theorem endOfInput_conversed (hnone : linesOf inputs = []) (h : (atPrompt endOfInput).Trace es r) :
    Conversed s table inputs es r := by
  rcases atPrompt_trace h with ⟨tail, rfl, hend⟩ | ⟨f, rfl, rfl⟩
  · exact .ended hnone (display_displayed hend)
  · exact .unprompted f

theorem converse_conversed (h : (converse s table inputs).Trace es r) : Conversed s table inputs es r := by
  induction inputs generalizing es with
  | nil => exact endOfInput_conversed rfl h
  | cons input rest ih =>
    cases input with
    | interrupt => exact endOfInput_conversed rfl h
    | line text =>
      rcases atPrompt_trace h with ⟨tail, rfl, hnext⟩ | ⟨f, rfl, rfl⟩
      · -- a blank line is passed over, one that leaves ends the input, and any other is a question
        by_cases hblank : Text.strip text = ""
        · rw [ofText_of_blank hblank] at hnext
          exact .blank hblank (ih hnext)
        by_cases hleave : leaves text = true
        · rw [ofText_of_leaves hleave] at hnext
          exact .left hleave (display_displayed hnext)
        rw [Bool.not_eq_true] at hleave
        rw [ofText_of_question hblank hleave] at hnext
        rcases unlessBroken_trace hnext with ⟨es₁, es₂, hasked, hrest, rfl⟩ | ⟨f, hasked, rfl⟩
        · exact .answered hblank hleave hasked (ih hrest)
        · exact .broken hblank hleave hasked
      · exact .unprompted f

/-- What the chat says last is shown whole. -/
theorem leaving_of_displayed {word : String} (h : Displayed [.line word] es r)
    (hd : SaidByChat (.line word)) (hspeaks : Speaks (prompted :: es)) :
    prompted :: es = leaving word ∧ r = .ok () := by
  have hes : Speaks es := hspeaks.of_subset (List.subset_cons_self _ _)
  obtain ⟨rfl, rfl⟩ := h.of_speaks (fun d hmem => by rwa [List.mem_singleton.1 hmem]) hes
  exact ⟨rfl, rfl⟩

/-- The lines are answered one after the other, and then the chat says farewell. -/
theorem Conversed.turns (h : Conversed s table inputs es r) (hspeaks : Speaks es)
    (hanswers : Uncancelled s table es) :
    (∃ turns, Turns s table (linesRead inputs) turns ∧ es = turns ++ leaving (lastWord inputs)) ∧
      r = .ok () := by
  induction h with
  | unprompted f => exact absurd SaidByChat.prompt (hspeaks _ f List.mem_cons_self)
  | ended hnone hend =>
    obtain ⟨hleaving, rfl⟩ := leaving_of_displayed hend .farewellAtEnd hspeaks
    rw [linesRead_of_none hnone, lastWord_of_none hnone]
    exact ⟨⟨[], .nil, hleaving⟩, rfl⟩
  | left hleave hend =>
    obtain ⟨hleaving, rfl⟩ := leaving_of_displayed hend .farewell hspeaks
    rw [linesRead_of_leaves hleave, lastWord_of_leaves hleave]
    exact ⟨⟨[], .nil, hleaving⟩, rfl⟩
  | @blank text rest tail r hblank h ih =>
    have hstay := not_leaves_of_blank hblank
    have hsub : tail ⊆ prompted :: tail := List.subset_cons_self _ _
    obtain ⟨⟨turns, hturns, rfl⟩, rfl⟩ := ih (hspeaks.of_subset hsub) (hanswers.of_subset hsub)
    rw [linesRead_cons hstay, lastWord_cons hstay]
    exact ⟨⟨_, .blank hblank hturns, rfl⟩, rfl⟩
  | @answered text rest es₁ es₂ r hne hstay hasked h ih =>
    have hsub₁ : es₁ ⊆ prompted :: (es₁ ++ es₂) :=
      List.Subset.trans (List.subset_append_left _ _) (List.subset_cons_self _ _)
    have hsub₂ : es₂ ⊆ prompted :: (es₁ ++ es₂) :=
      List.Subset.trans (List.subset_append_right _ _) (List.subset_cons_self _ _)
    obtain ⟨reply, shown, rfl, hshown, -⟩ :=
      answer_events hasked (hspeaks.of_subset hsub₁) (hanswers.of_subset hsub₁)
    obtain ⟨⟨turns, hturns, rfl⟩, rfl⟩ := ih (hspeaks.of_subset hsub₂) (hanswers.of_subset hsub₂)
    rw [linesRead_cons hstay, lastWord_cons hstay]
    refine ⟨⟨_, .asked hne hshown hturns, ?_⟩, rfl⟩
    simp only [List.cons_append, List.append_assoc]
  | @broken text rest tail f hne hstay hasked =>
    have hsub : tail ⊆ prompted :: tail := List.subset_cons_self _ _
    obtain ⟨_, _, -, -, hfailed⟩ :=
      answer_events hasked (hspeaks.of_subset hsub) (hanswers.of_subset hsub)
    cases hfailed

/-! ## Questions and closings -/

/-- The questions among events, with the session and the table that they are asked of. -/
def asksIn (es : List (Event Console.interface)) : List (Session × String × String) :=
  es.filterMap fun
    | .answered (.ask s table question) _ => some (s, table, question)
    | _ => none

theorem exists_of_mem_asksIn (h : (s, table, question) ∈ asksIn es) :
    ∃ reply, .answered (.ask s table question) reply ∈ es := by
  obtain ⟨e, hmem, he⟩ := List.mem_filterMap.1 h
  split at he
  · cases he
    exact ⟨_, hmem⟩
  · cases he

/-- What the closings among events are answered with. -/
def closingsIn (es : List (Event Console.interface)) : List (Except Failure Unit) :=
  es.filterMap fun
    | .answered .close reply => some reply
    | _ => none

theorem asksIn_append (es fs : List (Event Console.interface)) :
    asksIn (es ++ fs) = asksIn es ++ asksIn fs :=
  List.filterMap_append

theorem closingsIn_append (es fs : List (Event Console.interface)) :
    closingsIn (es ++ fs) = closingsIn es ++ closingsIn fs :=
  List.filterMap_append

/-- Nothing is asked, and nothing is closed. -/
def OnlyShows (es : List (Event Console.interface)) : Prop := asksIn es = [] ∧ closingsIn es = []

theorem OnlyShows.append (h : OnlyShows es) (h' : OnlyShows fs) : OnlyShows (es ++ fs) :=
  ⟨by rw [asksIn_append, h.1, h'.1]; rfl, by rw [closingsIn_append, h.2, h'.2]; rfl⟩

theorem onlyShows_showing (ds : List Display) : OnlyShows (showing ds) := by
  induction ds with
  | nil => exact ⟨rfl, rfl⟩
  | cons d ds ih => exact ih

theorem onlyShows_unshown (d : Display) (f : Fault) : OnlyShows [unshown d f] := ⟨rfl, rfl⟩

theorem Displayed.onlyShows (h : Displayed ds es r) : OnlyShows es := by
  cases h with
  | all => exact onlyShows_showing ds
  | cut f => exact (onlyShows_showing _).append (onlyShows_unshown _ f)

theorem AnswerShown.onlyShows {reply : Except Failure Outcome} (h : AnswerShown reply es) :
    OnlyShows es := by
  cases h with
  | failed f => exact onlyShows_showing _
  | whole => exact onlyShows_showing _
  | stopped => exact (onlyShows_showing _).append (onlyShows_showing _)
  | cut f => exact (onlyShows_showing _).append ((onlyShows_unshown _ f).append (onlyShows_showing _))

/-- Every line that is not blank is asked once and in order, without the blanks around it. -/
theorem asksIn_turns (h : Turns s table lines es) :
    asksIn es = ((lines.map Text.strip).filter (· != "")).map (s, table, ·) := by
  induction h with
  | nil => rfl
  | @blank text rest es hblank h ih =>
    rw [List.map_cons, List.filter_cons_of_neg (by simp [hblank]), ← ih]
    rfl
  | @asked text rest shown es reply hne hshown h ih =>
    rw [List.map_cons, List.filter_cons_of_pos (by simp [hne]), List.map_cons, ← ih]
    change (s, table, Text.strip text) :: asksIn (shown ++ es) = _
    rw [asksIn_append, hshown.onlyShows.1, List.nil_append]

/-! ## Reports of failures -/

/-- The event is that a question was answered with the failure, or that a display could not be shown. -/
inductive FailsWith : Event Console.interface → Failure → Prop
  | answer (s : Session) (table question : String) (f : Failure) :
      FailsWith (.answered (.ask s table question) (.error f)) f
  | display (d : Display) (f : Fault) : FailsWith (unshown d f) (.fault f)

/-- Right behind whatever failed, the line with the message of the failure is shown. -/
def Reported (es : List (Event Console.interface)) : Prop :=
  ∀ e f, e ∈ es → FailsWith e f → [e, .answered (.display (errorLine f.message)) (.ok ())] <:+: es

theorem Reported.append (h : Reported es) (h' : Reported fs) : Reported (es ++ fs) := by
  intro e f hmem hfails
  rcases List.mem_append.1 hmem with hearly | hlate
  · exact (h e f hearly hfails).trans (List.prefix_append es fs).isInfix
  · exact (h' e f hlate hfails).trans (List.suffix_append es fs).isInfix

/-- Where nothing failed, nothing is to be reported. -/
theorem reported_of_smooth (h : ∀ e ∈ es, ∀ f, ¬ FailsWith e f) : Reported es :=
  fun e f hmem hfails => absurd hfails (h e hmem f)

theorem not_failsWith_of_showing {e : Event Console.interface} (hmem : e ∈ showing ds) (f : Failure) :
    ¬ FailsWith e f := by
  obtain ⟨d, -, rfl⟩ := List.mem_map.1 hmem
  rintro ⟨⟩

theorem reported_showing (ds : List Display) : Reported (showing ds) :=
  reported_of_smooth fun _ hmem => not_failsWith_of_showing hmem

/-- The first thing shown of a failure is the line with its message. -/
theorem reported_failure {e : Event Console.interface} (h : FailsWith e f) :
    Reported (e :: showing f.displays) := by
  intro e' f' hmem hfails
  rcases List.mem_cons.1 hmem with rfl | hshown
  · obtain rfl : f' = f := by
      cases h <;> cases hfails <;> rfl
    rw [displays_eq]
    exact ⟨[], _, rfl⟩
  · exact absurd hfails (not_failsWith_of_showing hshown f')

theorem reported_singleton {e : Event Console.interface} (h : ∀ f, ¬ FailsWith e f) : Reported [e] :=
  reported_of_smooth fun _ hmem => List.mem_singleton.1 hmem ▸ h

/-- A question that was answered with an outcome did not fail. -/
theorem reported_answered (outcome : Outcome) :
    Reported [.answered (.ask s table question) (.ok outcome)] :=
  reported_singleton (by rintro f ⟨⟩)

theorem AnswerShown.reported {reply : Except Failure Outcome} (h : AnswerShown reply es) :
    Reported (.answered (.ask s table question) reply :: es) := by
  cases h with
  | failed f => exact reported_failure (.answer s table question f)
  | @whole outcome => exact (reported_answered outcome).append (reported_showing _)
  | @stopped outcome f =>
    exact (reported_answered outcome).append ((reported_showing _).append (reported_showing _))
  | @cut outcome early rest d f =>
    exact (reported_answered outcome).append
      ((reported_showing early).append (reported_failure (.display d f)))

theorem Turns.reported (h : Turns s table lines es) : Reported es := by
  induction h with
  | nil => exact reported_showing []
  | blank hblank h ih => exact (reported_showing [.prompt promptMarkup]).append ih
  | asked hne hshown h ih =>
    exact (reported_showing [.prompt promptMarkup, .status (Markup.styled "cyan" "Processing...")]).append
      (hshown.reported.append ih)

/-! ## Conversations that are broken off -/

theorem handle_onlyShows {result : Except Failure Unit} (h : (handle result).Trace es r) :
    OnlyShows es := by
  unfold handle at h
  cases result with
  | ok u =>
    obtain ⟨rfl, rfl⟩ := Program.trace_done_iff.1 h
    exact ⟨rfl, rfl⟩
  | error f =>
    dsimp only at h
    split at h
    · exact (showAll_displayed h).onlyShows
    · obtain ⟨rfl, rfl⟩ := Program.trace_done_iff.1 h
      exact ⟨rfl, rfl⟩

theorem report_onlyShows {shown : Shown} (h : (report shown).Trace es r) : OnlyShows es := by
  rcases report_trace h with ⟨rfl, -⟩ | ⟨f, hdisplayed, -⟩
  · exact onlyShows_showing _
  · exact hdisplayed.onlyShows

/-- A question is asked at most once, whatever cannot be shown. -/
theorem answer_asks (h : (answer s table question).Trace es r) :
    (asksIn es).Sublist [(s, table, question)] ∧ closingsIn es = [] := by
  obtain ⟨es₁, es₂, result, hasked, hhandled, rfl⟩ := Program.trace_bind_iff.1 h
  obtain ⟨hnone, hopen⟩ := handle_onlyShows hhandled
  rw [asksIn_append, closingsIn_append, hnone, hopen, List.append_nil, List.append_nil]
  obtain ⟨status, tail, u, hstatus, hcalled, rfl⟩ := Program.trace_bind_iff.1 hasked
  obtain ⟨hstatusAsks, hstatusCloses⟩ := (display_displayed hstatus).onlyShows
  rw [asksIn_append, closingsIn_append, hstatusAsks, hstatusCloses, List.nil_append, List.nil_append]
  cases u with
  | error f =>
    obtain ⟨rfl, rfl⟩ := Program.trace_done_iff.1 hcalled
    exact ⟨List.nil_sublist _, rfl⟩
  | ok u =>
    obtain ⟨reply, shown, rfl, hreported⟩ := Program.trace_call_bind_iff.1 hcalled
    have honly : OnlyShows shown := by
      cases reply with
      | error f =>
        obtain ⟨rfl, rfl⟩ := Program.trace_done_iff.1 hreported
        exact ⟨rfl, rfl⟩
      | ok outcome => exact report_onlyShows hreported
    change List.Sublist ((s, table, question) :: asksIn shown) _ ∧ closingsIn shown = []
    rw [honly.1]
    exact ⟨List.Sublist.refl _, honly.2⟩

/-- What an answer ends in is no cancellation, if none of its calls was. -/
theorem askAndShow_isOrdinary {status : String} (h : (askAndShow s status table question).Trace es (.error f))
    (hanswers : Uncancelled s table es) : f.isOrdinary = true := by
  obtain ⟨first, tail, u, hstatus, hcalled, rfl⟩ := Program.trace_bind_iff.1 h
  cases u with
  | error f' =>
    obtain ⟨rfl, hf⟩ := Program.trace_done_iff.1 hcalled
    obtain rfl := Except.error.inj hf
    cases display_displayed hstatus with
    | @cut early rest d fault hsplit => exact hanswers.shown d fault (by simp)
  | ok u =>
    obtain ⟨reply, shown, rfl, hreported⟩ := Program.trace_call_bind_iff.1 hcalled
    cases reply with
    | error f' =>
      obtain ⟨rfl, hf⟩ := Program.trace_done_iff.1 hreported
      obtain rfl := Except.error.inj hf
      exact hanswers.answered question f (by simp)
    | ok outcome =>
      rcases report_trace hreported with ⟨-, hresult⟩ | ⟨f', hdisplayed, hresult⟩
      · cases hfailure : outcome.shown.failure with
        | none =>
          rw [hfailure] at hresult
          cases hresult
        | some f' =>
          rw [hfailure] at hresult
          obtain rfl := Except.error.inj hresult
          exact isOrdinary_of_shown hfailure
      · obtain rfl := Except.error.inj hresult
        cases hdisplayed with
        | @cut early rest d fault hsplit => exact hanswers.shown d fault (by simp)

/-- The answer to a question fails only with a failure that could not be shown. -/
theorem answer_broken (h : (answer s table question).Trace es (.error f))
    (hanswers : Uncancelled s table es) : BrokenOff es f := by
  obtain ⟨es₁, es₂, result, hasked, hhandled, rfl⟩ := Program.trace_bind_iff.1 h
  cases result with
  | ok u => cases (Program.trace_done_iff.1 hhandled).2
  | error f' =>
    have hordinary := askAndShow_isOrdinary hasked
      (hanswers.of_subset (List.subset_append_left _ _))
    exact (handle_displayed hhandled hordinary).brokenOff.append es₁

theorem questions_of_blank {rest : List Input} (hblank : Text.strip text = "") :
    questions (.line text :: rest) = questions rest := by
  simp [questions, linesRead_cons (not_leaves_of_blank hblank), hblank]

theorem questions_cons {rest : List Input} (hne : Text.strip text ≠ "") (h : leaves text = false) :
    questions (.line text :: rest) = Text.strip text :: questions rest := by
  simp [questions, linesRead_cons h, hne]

/-- Whatever cannot be shown: the questions are asked in order, each at most once, no other is, and nothing
is closed. -/
theorem Conversed.asks (h : Conversed s table inputs es r) :
    (asksIn es).Sublist ((questions inputs).map (s, table, ·)) ∧ closingsIn es = [] := by
  induction h with
  | unprompted f => exact ⟨List.nil_sublist _, rfl⟩
  | ended hnone hend =>
    obtain ⟨hasks, hcloses⟩ := hend.onlyShows
    exact ⟨hasks ▸ List.nil_sublist _, hcloses⟩
  | left hleave hend =>
    obtain ⟨hasks, hcloses⟩ := hend.onlyShows
    exact ⟨hasks ▸ List.nil_sublist _, hcloses⟩
  | blank hblank h ih =>
    rw [questions_of_blank hblank]
    exact ih
  | @answered text rest es₁ es₂ r hne hstay hasked h ih =>
    change (asksIn (es₁ ++ es₂)).Sublist _ ∧ closingsIn (es₁ ++ es₂) = []
    obtain ⟨hasks, hcloses⟩ := answer_asks hasked
    obtain ⟨hlater, hclosesLater⟩ := ih
    rw [questions_cons hne hstay, List.map_cons, asksIn_append, closingsIn_append, hcloses, hclosesLater]
    exact ⟨hasks.append hlater, rfl⟩
  | broken hne hstay hasked =>
    obtain ⟨hasks, hcloses⟩ := answer_asks hasked
    rw [questions_cons hne hstay, List.map_cons]
    exact ⟨hasks.trans (List.singleton_sublist.2 List.mem_cons_self), hcloses⟩

/-- A conversation without a cancellation fails only with something that could not be shown. -/
theorem Conversed.brokenOff (h : Conversed s table inputs es r) (hanswers : Uncancelled s table es)
    (hfailed : r = .error f) : BrokenOff es f := by
  induction h with
  | unprompted fault => exact ⟨[], _, fault, rfl, (Except.error.inj hfailed).symm⟩
  | ended hnone hend =>
    subst hfailed
    exact hend.brokenOff.append [prompted]
  | left hleave hend =>
    subst hfailed
    exact hend.brokenOff.append [prompted]
  | blank hblank h ih =>
    exact (ih (hanswers.of_subset (List.subset_cons_self _ _)) hfailed).append [prompted]
  | @answered text rest es₁ es₂ r hne hstay hasked h ih =>
    have hsub : es₂ ⊆ prompted :: (es₁ ++ es₂) :=
      List.Subset.trans (List.subset_append_right _ _) (List.subset_cons_self _ _)
    exact (ih (hanswers.of_subset hsub) hfailed).append (prompted :: es₁)
  | broken hne hstay hasked =>
    obtain rfl := Except.error.inj hfailed
    exact (answer_broken hasked (hanswers.of_subset (List.subset_cons_self _ _))).append [prompted]

/-! ## Chats -/

/-- A chat that was opened is held, and then closed; a failure to close comes before one of the
conversation. -/
theorem chat_trace (h : (chat s table inputs).Trace es r) (hopen : .answered .connect (.ok ()) ∈ es) :
    ∃ held result closing, Conversed s table inputs held result ∧
      es = .answered .connect (.ok ()) :: (held ++ [.answered .close closing]) ∧
      r = closing.bind fun _ => result := by
  obtain ⟨reply, tail, rfl, hheld⟩ := Program.trace_call_bind_iff.1 h
  cases reply with
  | error f =>
    obtain ⟨rfl, -⟩ := Program.trace_done_iff.1 hheld
    cases List.mem_singleton.1 hopen
  | ok u =>
    obtain ⟨held, es₂, result, hconversed, hclosed, rfl⟩ := Program.trace_bind_iff.1 hheld
    obtain ⟨closing, tail, rfl, hend⟩ := Program.trace_call_bind_iff.1 hclosed
    refine ⟨held, result, closing, converse_conversed hconversed, ?_⟩
    cases closing with
    | error f =>
      obtain ⟨rfl, rfl⟩ := Program.trace_done_iff.1 hend
      exact ⟨rfl, rfl⟩
    | ok u =>
      obtain ⟨rfl, rfl⟩ := Program.trace_done_iff.1 hend
      exact ⟨rfl, rfl⟩

/-- Neither opening nor closing asks anything. -/
theorem asksIn_opened (held : List (Event Console.interface)) (closing : Except Failure Unit) :
    asksIn (.answered .connect (.ok ()) :: (held ++ [.answered .close closing])) = asksIn held :=
  (asksIn_append held _).trans (List.append_nil _)

theorem closingsIn_opened (h : closingsIn es = []) (closing : Except Failure Unit) :
    closingsIn (.answered .connect (.ok ()) :: (es ++ [.answered .close closing])) = [closing] := by
  change closingsIn (es ++ [.answered .close closing]) = [closing]
  rw [closingsIn_append, h]
  rfl

/-- Neither opening nor closing is anything that is to be reported. -/
theorem Reported.opened (h : Reported es) (closing : Except Failure Unit) :
    Reported (.answered .connect (.ok ()) :: (es ++ [.answered .close closing])) := by
  have hopened : Reported [.answered .connect (.ok ())] := reported_singleton (by rintro f ⟨⟩)
  have hclosed : Reported [.answered .close closing] := reported_singleton (by rintro f ⟨⟩)
  exact hopened.append (h.append hclosed)

/-- What a model that is out of reach answers with. -/
def outOfReach : Failure := .fault (.raised .api "Connection error.")

/-- Every question fails. -/
def modelOutOfReach : World Console.interface Unit := fun _ c =>
  (match c with
    | .display _ => .ok ()
    | .read _ | .describe .. => .ok ""
    | .connect | .disconnect | .close => .ok ()
    | .ask .. => .error outOfReach, ())

/-- Two questions with a blank line between them, then a line that asks to leave, and another question. -/
def typedLines : List Input :=
  [.line " first ", .line "  ", .line "second", .line " Quit ", .line "third"]

/-- Every question fails, and that cannot be shown. -/
def failuresUnshown : World Console.interface Unit
  | (), .display (.line _) => (.error (.raised .system "not shown"), ())
  | (), c => modelOutOfReach () c

/-- Then the second question is not asked, but the session is closed. -/
example :
    let es := ((chat default "users" typedLines).run failuresUnshown ()).events
    (asksIn es).map (·.2.2) = ["first"] ∧ (closingsIn es).length = 1 := by
  decide +kernel

end QueryPlans.Console
