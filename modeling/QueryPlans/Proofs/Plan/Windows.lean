import Mathlib
import QueryPlans.Proofs.Plan.Turns

/-!
# Pages as windows on one result

Turning pages walks over fixed windows of one result.  All statements share the columns, the FROM and
WHERE clauses and the ordering of the plan that was accepted; only the LIMIT clause follows the page.

* `Window` — the rows that a LIMIT clause asks for, with its text.
* `Plan.windowAt`, `Plan.statementAt`, `Plan.countOf` — what is sent for a page of a plan.
* `Plan.ShownBy` — a plan was shown at a page, with these statements and no other call.

Principal results: `selectStatement_eq` — the text of a statement; `windowAt_disjoint` and
`iUnion_windowAt` — the windows of the first pages tile the first rows; `pages_walked` — every run of
turns that end in outcomes is a walk over these windows.
-/

namespace QueryPlans

variable {σ : Type}

/-! ## Windows -/

/-- Which rows a statement asks for: how many it passes over, if it says so, and how many it takes. -/
structure Window where
  skip? : Option Int
  count : Int

namespace Window

def clause (w : Window) : String :=
  "\nLIMIT " ++ Numeral.text w.count ++
    match w.skip? with
    | some skip => " OFFSET " ++ Numeral.text skip
    | none => ""

/-- The rows, counted from zero. -/
def rows (w : Window) : Set Int := Set.Ico (w.skip?.getD 0) (w.skip?.getD 0 + w.count)

end Window

namespace Plan

/-- The window of a page. No rows are passed over on the first page. -/
def windowAt (p : Plan) (page : Int) : Window :=
  ⟨if 1 < page then some ((page - 1) * p.limit) else none, p.limit⟩

section
variable {p : Plan} {page row : Int}

theorem mem_windowAt (hpage : 1 ≤ page) :
    row ∈ (p.windowAt page).rows ↔ (page - 1) * p.limit ≤ row ∧ row < page * p.limit := by
  have hskip : (p.windowAt page).skip?.getD 0 = (page - 1) * p.limit := by
    unfold windowAt
    by_cases h : 1 < page
    · simp [h]
    · have hone : page = 1 := by omega
      simp [hone]
  have hend : (page - 1) * p.limit + p.limit = page * p.limit := by
    rw [Int.sub_mul, Int.one_mul]
    omega
  unfold Window.rows
  rw [hskip, Set.mem_Ico, show (p.windowAt page).count = p.limit from rfl, hend]

theorem limit_pos_of_mem (hpage : 1 ≤ page) (h : row ∈ (p.windowAt page).rows) : 0 < p.limit := by
  rw [mem_windowAt hpage, Int.sub_mul, Int.one_mul] at h
  omega

/-- A row does not stand on an earlier page. -/
theorem page_le {other : Int} (hpage : 1 ≤ page) (hother : 1 ≤ other)
    (h : row ∈ (p.windowAt page).rows) (h' : row ∈ (p.windowAt other).rows) : page ≤ other := by
  have hlimit := limit_pos_of_mem hpage h
  rw [mem_windowAt hpage] at h
  rw [mem_windowAt hother] at h'
  by_contra hlt
  have hbefore : other * p.limit ≤ (page - 1) * p.limit :=
    Int.mul_le_mul_of_nonneg_right (by omega) hlimit.le
  omega

theorem windowAt_disjoint (p : Plan) (n : Nat) :
    (Set.Icc 1 (n : Int)).PairwiseDisjoint fun page => (p.windowAt page).rows := by
  intro a ha b hb hne
  show Disjoint (p.windowAt a).rows (p.windowAt b).rows
  rw [Set.disjoint_left]
  intro row hrow hrow'
  have hab := page_le ha.1 hb.1 hrow hrow'
  have hba := page_le hb.1 ha.1 hrow' hrow
  omega

/-- The first `n` pages hold the first `n * limit` rows. -/
theorem iUnion_windowAt (p : Plan) (n : Nat) :
    ⋃ page ∈ Set.Icc 1 (n : Int), (p.windowAt page).rows = Set.Ico 0 (n * p.limit) := by
  ext row
  simp only [Set.mem_iUnion, Set.mem_Icc, Set.mem_Ico, exists_prop]
  constructor
  · rintro ⟨page, ⟨hfirst, hlast⟩, hrow⟩
    have hlimit := limit_pos_of_mem hfirst hrow
    rw [mem_windowAt hfirst] at hrow
    have hstart : 0 ≤ (page - 1) * p.limit := Int.mul_nonneg (by omega) hlimit.le
    have hend : page * p.limit ≤ n * p.limit := Int.mul_le_mul_of_nonneg_right hlast hlimit.le
    omega
  · rintro ⟨hstart, hend⟩
    have hlimit : 0 < p.limit := by
      by_contra hle
      have hnone : (n : Int) * p.limit ≤ 0 :=
        Int.mul_nonpos_of_nonneg_of_nonpos (Int.natCast_nonneg n) (by omega)
      omega
    have hfirst : 0 ≤ row / p.limit := Int.ediv_nonneg hstart hlimit.le
    have hlast : row / p.limit < n := Int.ediv_lt_of_lt_mul hlimit hend
    refine ⟨row / p.limit + 1, ⟨by omega, by omega⟩, ?_⟩
    rw [mem_windowAt (by omega), Int.add_sub_cancel]
    exact ⟨Int.ediv_mul_le row hlimit.ne', Int.lt_ediv_add_one_mul_self row hlimit⟩

end

/-! ## Statements -/

/-- The statement for a page. Only the window follows the page. -/
def statementAt (p : Plan) (tables : String) (page : Int) : String :=
  "SELECT " ++ p.columnList ++ "\nFROM " ++ tables ++ p.whereClause ++ p.orderClause ++
    (p.windowAt page).clause

/-- The count of the rows of all pages. -/
def countOf (p : Plan) (tables : String) : String :=
  "SELECT count(*) FROM " ++ tables ++ p.whereClause

variable {p : Plan} {sql summary tables : String}

theorem digits_eq_ok {n : Int} {text : String} (h : digits n = .ok text) : text = Numeral.text n := by
  unfold digits Numeral.write? at h
  split at h <;> cases h
  rfl

theorem limitClause_eq {clause : String} (h : p.limitClause = .ok clause) :
    clause = (p.windowAt p.page).clause := by
  unfold limitClause at h
  cases hlimit : digits p.limit with
  | error e => rw [hlimit] at h; cases h
  | ok limit =>
    rw [hlimit] at h
    change (if 1 < p.page then _ else _) = _ at h
    unfold windowAt Window.clause
    split at h
    · rename_i hpage
      cases hoffset : digits p.offset with
      | error e => rw [hoffset] at h; cases h
      | ok offset =>
        rw [hoffset] at h
        cases h
        rw [digits_eq_ok hlimit, digits_eq_ok hoffset]
        simp only [hpage, ↓reduceIte, String.append_assoc]
        rfl
    · rename_i hpage
      cases h
      rw [digits_eq_ok hlimit]
      simp [hpage]

/-- The text of a statement that fetches a page. -/
theorem selectStatement_eq (h : p.selectStatement = .ok sql) :
    ∃ tables, p.fromClause = .ok tables ∧ sql = p.statementAt tables p.page := by
  unfold selectStatement selectBody at h
  cases hfrom : p.fromClause with
  | error v => rw [hfrom] at h; cases h
  | ok tables =>
    rw [hfrom] at h
    cases hlimit : p.limitClause with
    | error e => rw [hlimit] at h; cases h
    | ok limit =>
      rw [hlimit] at h
      cases h
      refine ⟨tables, rfl, ?_⟩
      rw [limitClause_eq hlimit]
      rfl

theorem countStatement?_eq (h : p.fromClause = .ok tables) :
    p.countStatement? = some (p.countOf tables) := by
  unfold countStatement?
  rw [h]
  rfl

/-! ## Plans that were shown -/

/-- The plan was shown at a page: `shown` is what was run for it, with these statements and no other
call, and it ended in an outcome. -/
def ShownBy (p shown : Plan) (page : Int) (es : List (Event Database.interface))
    (result : Except Failure Outcome) : Prop :=
  ∃ tables o, p.fromClause = .ok tables ∧
    sent es = [.execute (p.statementAt tables page), .fetchValue (p.countOf tables)] ∧
    result = .ok o ∧ shown.Reports (p.statementAt tables page) (p.countOf tables) o

/-- At another page a plan has the same columns, tables, conditions and ordering. -/
theorem ShownBy.of_atPage {shown : Plan} {page : Int} {es : List (Event Database.interface)}
    {result : Except Failure Outcome} (h : (p.atPage page).ShownBy shown page es result) :
    p.ShownBy shown page es result := h

theorem ShownBy.noted {shown : Plan} {page : Int} {es : List (Event Database.interface)}
    {result : Except Failure Outcome} (h : p.ShownBy shown page es result) (entry : LogEntry) :
    p.ShownBy shown page (.noted entry :: es) result := h

theorem execute_shownBy {es : List (Event Database.interface)} {o : Outcome}
    (hread : p.isReadOnly = true) (hsql : p.statement = .ok sql)
    (h : (p.execute sql summary).Trace es (.ok o)) : p.ShownBy p p.page es (.ok o) := by
  obtain ⟨count, hcount, hsent, hreports⟩ := execute_shows (tables_ne_nil_of_statement hsql) h
  rw [statement_of_isReadOnly hread] at hsql
  obtain ⟨tables, hfrom, rfl⟩ := selectStatement_eq hsql
  rw [countStatement?_eq hfrom] at hcount
  cases hcount
  exact ⟨tables, o, hfrom, hsent, rfl, hreports⟩

/-- What is sent for a page follows from the plan and the page alone. -/
theorem ShownBy.sent_eq {a b : Plan} {page : Int} {es fs : List (Event Database.interface)}
    {r r' : Except Failure Outcome} (h : p.ShownBy a page es r) (h' : p.ShownBy b page fs r') :
    sent es = sent fs := by
  obtain ⟨tables, _, hfrom, hsent, -⟩ := h
  obtain ⟨tables', _, hfrom', hsent', -⟩ := h'
  rw [hfrom] at hfrom'
  cases hfrom'
  rw [hsent, hsent']

end Plan

/-! ## Walks -/

namespace Retained

/-- A plan that is accepted without a statement of its own is shown at its page. -/
theorem accept_shownBy {retained after : Retained} {p : Plan} {sql? : Option String}
    {es : List (Event Database.interface)} {o : Outcome} (hread : p.isReadOnly = true)
    (hsql : p.statementOr sql? = p.statement) (ho : o.isExecuted = true)
    (h : (retained.accept p sql?).Trace es (.ok o, after)) : p.ShownBy p p.page es (.ok o) := by
  rcases accept_trace h with ⟨-, -, hwhy⟩ | ⟨summary, sql, -, -, hor, -, hcarry⟩
  · rcases hwhy with ⟨e, -, hr⟩ | ⟨summary, -, hr⟩ | ⟨e, -, hr⟩
    · cases hr
    · cases hr
      cases ho
    · cases hr
  · unfold Plan.carryOut at hcarry
    simp only [hread, ↓reduceIte] at hcarry
    rw [hsql] at hor
    exact Plan.execute_shownBy hread hor hcarry

/-- A turn with an outcome shows the retained plan at the page that it leads to. -/
theorem turn_shownBy {t : Turn} {current : Plan} {o : Outcome} (h : t.Possible)
    (hbefore : t.before = some current) (ho : t.result = .ok o) :
    t.after = some (current.step t.direction) ∧
      (current.step t.direction).ShownBy (current.step t.direction)
        (Navigation.target current.page t.direction) t.events t.result := by
  obtain ⟨_, sql, summary, entry, tail, heq, hread, hsql, hafter, hevents, hexec⟩ := h.shows ho
  rw [hbefore] at heq
  cases heq
  refine ⟨hafter, ?_⟩
  rw [hevents, ho, ← Plan.step_page]
  rw [← Plan.step_isReadOnly current t.direction] at hread
  exact (Plan.execute_shownBy hread hsql hexec).noted entry

/-- Turns that end in outcomes walk from page to page of one plan. The induction moves the plan that
is retained; it stays a page of the plan that was accepted. -/
theorem turns_shownBy {world : World Database.interface σ} {p : Plan} :
    ∀ (directions : List Navigation) {q : Plan} {st : σ}, (∀ page, q.atPage page = p.atPage page) →
      (∀ t ∈ turns world (some q) st directions, ∃ o, t.result = .ok o) →
      ∀ i t, (turns world (some q) st directions)[i]? = some t →
        t.after = some (p.atPage (Navigation.walk q.page (directions.take (i + 1)))) ∧
          p.ShownBy (p.atPage (Navigation.walk q.page (directions.take (i + 1))))
            (Navigation.walk q.page (directions.take (i + 1))) t.events t.result
  | [], _, _, _, _, i, t, ht => by
    rw [turns, List.getElem?_nil] at ht
    cases ht
  | direction :: rest, q, st, hq, hshown, i, t, ht => by
    have hfirst := turn_possible world (some q) st direction
    obtain ⟨o, ho⟩ := hshown _ List.mem_cons_self
    obtain ⟨hafter, hby⟩ := turn_shownBy hfirst rfl ho
    change _ = some (q.step direction) at hafter
    cases i with
    | zero =>
      rw [turns, List.getElem?_cons_zero] at ht
      cases ht
      have hstep : q.step direction = p.atPage (Navigation.target q.page direction) := by
        rw [Plan.step_eq, hq]
      change (q.step direction).ShownBy (q.step direction) (Navigation.target q.page direction) _ _
        at hby
      rw [hstep] at hafter hby
      exact ⟨hafter, hby.of_atPage⟩
    | succ i =>
      have hrest : ∀ u ∈ turns world (some (q.step direction))
          ((navigate (some q) direction).run world st).state rest, ∃ o, u.result = .ok o := by
        intro u hu
        rw [← hafter] at hu
        exact hshown u (List.mem_cons_of_mem _ hu)
      rw [turns, List.getElem?_cons_succ, hafter] at ht
      have hwalk := turns_shownBy (p := p) rest
        (fun page => by rw [Plan.step_atPage, hq]) hrest i t ht
      rw [Plan.step_page] at hwalk
      exact hwalk

theorem length_turns (world : World Database.interface σ) (directions : List Navigation) :
    ∀ (retained : Retained) (st : σ), (turns world retained st directions).length = directions.length := by
  induction directions with
  | nil => intro retained st; rfl
  | cons direction rest ih =>
    intro retained st
    rw [turns, List.length_cons, List.length_cons, ih]

/-- **Turning pages is a walk over fixed windows.** A plan that only reads is accepted, whatever the
database does, and pages are turned, each with an outcome. Then the plan that is run and retained at
each turn is the accepted one at the page that the directions lead to; what is sent is the statement
of that page and the count, which share their text but for the window; a page that is visited again
sends the same. The plan is shown so from the start if it was accepted with no other statement. The
windows of the pages up to any page are disjoint, and are all rows up to there. -/
theorem pages_walked (world : World Database.interface σ) (st : σ) (retained : Retained) (p : Plan)
    (sql? : Option String) (directions : List Navigation) (hread : p.isReadOnly = true)
    (haccepted : ((retained.accept p sql?).run world st).value.2 = some p)
    (hshown : ∀ t ∈ turns world (some p) ((retained.accept p sql?).run world st).state directions,
      ∃ o, t.result = .ok o) :
    let first := (retained.accept p sql?).run world st
    let turned := turns world first.value.2 first.state directions
    let pageAfter := fun steps => Navigation.walk p.page (directions.take steps)
    let shownFirst := p.statementOr sql? = p.statement ∧
      ∃ o, first.value.1 = .ok o ∧ o.isExecuted = true
    turned.length = directions.length ∧
    (shownFirst → p.ShownBy p p.page first.events first.value.1) ∧
    (∀ i t, turned[i]? = some t → t.after = some (p.atPage (pageAfter (i + 1))) ∧
      p.ShownBy (p.atPage (pageAfter (i + 1))) (pageAfter (i + 1)) t.events t.result) ∧
    (shownFirst → ∀ i t, turned[i]? = some t → pageAfter (i + 1) = p.page →
      sent t.events = sent first.events) ∧
    (∀ i j t u, turned[i]? = some t → turned[j]? = some u → pageAfter (i + 1) = pageAfter (j + 1) →
      sent t.events = sent u.events) ∧
    ∀ n : Nat, ((Set.Icc 1 (n : Int)).PairwiseDisjoint fun page => (p.windowAt page).rows) ∧
      ⋃ page ∈ Set.Icc 1 (n : Int), (p.windowAt page).rows = Set.Ico 0 (n * p.limit) := by
  intro first turned pageAfter shownFirst
  have hfirst : shownFirst → p.ShownBy p p.page first.events first.value.1 := by
    rintro ⟨hsql, o, ho, hexecuted⟩
    have htrace : (retained.accept p sql?).Trace first.events (.ok o, first.value.2) := by
      rw [← ho]
      exact Program.run_trace world (retained.accept p sql?) st
    rw [ho]
    exact accept_shownBy hread hsql hexecuted htrace
  have hturns : ∀ i t, turned[i]? = some t → t.after = some (p.atPage (pageAfter (i + 1))) ∧
      p.ShownBy (p.atPage (pageAfter (i + 1))) (pageAfter (i + 1)) t.events t.result := by
    intro i t ht
    change (turns world first.value.2 first.state directions)[i]? = some t at ht
    rw [haccepted] at ht
    exact turns_shownBy directions (fun _ => rfl) hshown i t ht
  refine ⟨length_turns world directions _ _, hfirst, hturns, ?_, ?_, fun n => ?_⟩
  · intro hstart i t ht hpage
    have hby := (hturns i t ht).2
    rw [hpage] at hby
    exact hby.sent_eq (hfirst hstart)
  · intro i j t u ht hu hpage
    have hby := (hturns i t ht).2
    rw [hpage] at hby
    exact hby.sent_eq (hturns j u hu).2
  · exact ⟨p.windowAt_disjoint n, p.iUnion_windowAt n⟩

/-- One page further and back again is the first page again, with the same statements. -/
theorem pages_walked_back :
    ∃ there back, turns scripted (some firstRows) [] [.next, .previous] = [there, back] ∧
      there.after = some (firstRows.atPage 2) ∧ back.after = some (firstRows.atPage 1) ∧
      sent back.events = sent ((Retained.accept none firstRows).run scripted []).events := by
  have haccepted : ((Retained.accept none firstRows).run scripted []).value.2 = some firstRows := by
    decide +kernel
  have hstate : ((Retained.accept none firstRows).run scripted []).state = [] :=
    List.length_eq_zero_iff.1 (by decide +kernel)
  have hexecuted : ((Retained.accept none firstRows).run scripted []).value.1.toOption.map
      Outcome.isExecuted = some true := by
    decide +kernel
  have hshown : ∀ t ∈ turns scripted (some firstRows)
      ((Retained.accept none firstRows).run scripted []).state [.next, .previous],
      ∃ o, t.result = .ok o := by
    have hall : (turns scripted (some firstRows) [] [.next, .previous]).all
        (fun t => t.result.toOption.map Outcome.isExecuted = some true) = true := by
      decide +kernel
    intro t ht
    rw [hstate] at ht
    obtain ⟨o, ho, -⟩ := exists_ok_of_toOption (of_decide_eq_true (List.all_eq_true.1 hall t ht))
    exact ⟨o, ho⟩
  obtain ⟨-, -, hturns, hback, -⟩ :=
    pages_walked scripted [] none firstRows none [.next, .previous] rfl haccepted hshown
  rw [haccepted, hstate] at hturns hback
  have hstart := exists_ok_of_toOption hexecuted
  exact ⟨_, _, rfl, (hturns 0 _ rfl).1, (hturns 1 _ rfl).1, hback ⟨rfl, hstart⟩ 1 _ rfl rfl⟩

end Retained

end QueryPlans
