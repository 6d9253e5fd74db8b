import QueryPlans.Proofs.Plan.Joins
import QueryPlans.Proofs.Text.Pieces

/-!
# The lines of a FROM clause

The anchor and the other tables of a plan stand on lines of their own, in their order, each with what it is
joined on.  No table is left out, however often a table or a condition comes.  Conditions that are added to
a plan are only asked for tables that none of the others is about.

* `Plan.tableOn`, `Plan.tablesOf` — the table that a line names, and the tables of a FROM clause.
* `Plan.withJoins`, `Plan.Extends` — further conditions, and what they make of a line.
* `Plan.FetchedFrom` — the statements that fetch and count, around the text of the tables.

Principal results: `tableOn_joinLine_iff` — when a table is read back from its line; `joinLine_extends` — the
line of a table under further conditions; `from_loses_no_table` — both for whole clauses and statements.
-/

namespace QueryPlans.Plan

open Text (IsLine)

variable {p : Plan} {joins more others : List String} {anchor table condition : String}

/-! ## Lines -/

/-- The line of a table has no line break if the table and the conditions have none. -/
theorem joinLine_isLine (htable : IsLine table) (hjoins : ∀ condition ∈ joins, IsLine condition) :
    IsLine (joinLine joins table) := by
  have hstands := joinLine_stands joins table
  generalize joinLine joins table = line at hstands
  cases hstands with
  | @on condition h =>
    obtain ⟨before, after, hsplit, -⟩ := h
    have hcondition : IsLine condition := hjoins condition (by simp [hsplit])
    have hjoin : IsLine "JOIN " := by decide
    have hon : IsLine " ON " := by decide
    exact ((hjoin.append htable).append hon).append hcondition
  | cross h =>
    have hcross : IsLine "CROSS JOIN " := by decide
    exact hcross.append htable

/-- The lines of the anchor and of the other tables. -/
def linesOf (joins : List String) (anchor : String) (others : List String) : List String :=
  anchor :: others.map (joinLine joins)

theorem splitLines_linesOf (htables : ∀ table ∈ anchor :: others, IsLine table)
    (hjoins : ∀ condition ∈ joins, IsLine condition) :
    Text.splitLines (Text.joined "\n" (linesOf joins anchor others)).toList =
      (linesOf joins anchor others).map String.toList := by
  apply Text.splitLines_joined
  intro line hline
  rcases List.mem_cons.1 hline with rfl | hother
  · exact htables line List.mem_cons_self
  · obtain ⟨table, hmem, rfl⟩ := List.mem_map.1 hother
    exact joinLine_isLine (htables table (List.mem_cons_of_mem _ hmem)) hjoins

/-! ## Tables read back -/

/-- The table that a line names: what follows `CROSS JOIN`, or what stands between `JOIN` and the first
`ON`. -/
def tableOn (line : List Char) : List Char :=
  match Text.dropPattern? "CROSS JOIN ".toList line with
  | some table => table
  | none =>
    match (Text.dropPattern? "JOIN ".toList line).bind (Text.find? " ON ".toList) with
    | some (table, _) => table
    | none => line

/-- The tables of a FROM clause: its first line, and those that the other lines name. -/
def tablesOf (clause : String) : List String :=
  match Text.splitLines clause.toList with
  | [] => []
  | anchor :: lines => String.ofList anchor :: lines.map fun line => String.ofList (tableOn line)

/-- An `ON` stands in the name, or the name ends where one may begin. -/
def HidesOn (table : String) : Prop := " ON ".toList <:+: table.toList ++ " ON".toList

instance (table : String) : Decidable (HidesOn table) := inferInstanceAs (Decidable (_ <:+: _))

theorem tableOn_cross (table : String) : tableOn ("CROSS JOIN " ++ table).toList = table.toList := by
  have hdrop : Text.dropPattern? "CROSS JOIN ".toList ("CROSS JOIN " ++ table).toList =
      some table.toList := by
    rw [Text.dropPattern?_eq_some_iff, String.toList_append]
  unfold tableOn
  rw [hdrop]

/-- A table is read back from its line with a condition exactly if its name hides no `ON`. -/
theorem tableOn_join_iff (table condition : String) :
    tableOn ("JOIN " ++ table ++ " ON " ++ condition).toList = table.toList ↔ ¬ HidesOn table := by
  have hne : " ON ".toList ≠ [] := by decide
  have hcross : Text.dropPattern? "CROSS JOIN ".toList
      ("JOIN " ++ table ++ " ON " ++ condition).toList = none := by
    simp [Text.dropPattern?]
  have hjoin : Text.dropPattern? "JOIN ".toList ("JOIN " ++ table ++ " ON " ++ condition).toList =
      some (table.toList ++ " ON ".toList ++ condition.toList) := by
    rw [Text.dropPattern?_eq_some_iff]
    simp
  obtain ⟨before, after, hfirst, -⟩ :
      ∃ before after, Text.FirstAt " ON ".toList (table.toList ++ " ON ".toList ++ condition.toList)
        before after ∧ condition.toList <:+ after := Text.exists_firstAt hne rfl
  have hread : tableOn ("JOIN " ++ table ++ " ON " ++ condition).toList = before := by
    unfold tableOn
    rw [hcross, hjoin]
    simp only [Option.bind_some, (Text.find?_eq_some_iff hne).2 hfirst]
  rw [hread]
  constructor
  · rintro rfl
    exact hfirst.first
  · intro hplain
    have htable : Text.FirstAt " ON ".toList (table.toList ++ " ON ".toList ++ condition.toList)
        table.toList condition.toList := ⟨rfl, hplain⟩
    exact (htable.unique hne hfirst).1

/-- A table is read back from its line, unless it is joined on a condition and its name hides an `ON`. -/
theorem tableOn_joinLine_iff : tableOn (joinLine joins table).toList = table.toList ↔
    ((∃ condition ∈ joins, StandsIn table condition) → ¬ HidesOn table) := by
  cases hcondition : joinCondition? joins table with
  | some condition =>
    obtain ⟨before, after, hsplit, hstands, -⟩ := joinCondition?_eq_some_iff.1 hcondition
    have hsome : ∃ condition ∈ joins, StandsIn table condition := ⟨condition, by simp [hsplit], hstands⟩
    rw [joinLine_of_some hcondition, tableOn_join_iff]
    exact ⟨fun hplain _ => hplain, fun h => h hsome⟩
  | none =>
    rw [joinLine_of_none hcondition]
    refine iff_of_true (tableOn_cross table) ?_
    rintro ⟨condition, hmem, hstands⟩
    exact absurd hstands (joinCondition?_eq_none_iff.1 hcondition condition hmem)

/-- The tables are read back exactly if no name of a table with a condition hides an `ON`. -/
theorem tablesOf_linesOf_iff (htables : ∀ table ∈ anchor :: others, IsLine table)
    (hjoins : ∀ condition ∈ joins, IsLine condition) :
    tablesOf (Text.joined "\n" (linesOf joins anchor others)) = anchor :: others ↔
      ∀ table ∈ others, (∃ condition ∈ joins, StandsIn table condition) → ¬ HidesOn table := by
  have hread : tablesOf (Text.joined "\n" (linesOf joins anchor others)) =
      anchor :: others.map fun table => String.ofList (tableOn (joinLine joins table).toList) := by
    unfold tablesOf
    rw [splitLines_linesOf htables hjoins]
    simp [linesOf, Function.comp_def]
  have hsame : tablesOf (Text.joined "\n" (linesOf joins anchor others)) = anchor :: others ↔
      others.map (fun table => String.ofList (tableOn (joinLine joins table).toList)) =
        others.map id := by
    rw [hread, List.map_id, List.cons.injEq, and_iff_right rfl]
  rw [hsame, List.map_inj_left]
  refine forall₂_congr fun table _ => ?_
  rw [← tableOn_joinLine_iff, ← String.toList_inj, String.toList_ofList]
  rfl

/-! ## Further conditions -/

/-- The plan with further join conditions after its own. -/
def withJoins (p : Plan) (more : List String) : Plan := { p with joins := p.joins ++ more }

/-- What further conditions make of the line of a table. A line with a condition stays; a table without one
may be joined on the first of the further conditions that is about it. -/
inductive Extends (more : List String) (table : String) : String → String → Prop
  | same (line : String) : Extends more table line line
  | joined {condition : String} (h : FirstAbout (StandsIn table) more condition) :
      Extends more table ("CROSS JOIN " ++ table) ("JOIN " ++ table ++ " ON " ++ condition)

theorem joinLine_extends (joins more : List String) (table : String) :
    Extends more table (joinLine joins table) (joinLine (joins ++ more) table) := by
  have happend : joinCondition? (joins ++ more) table =
      (joinCondition? joins table).or (joinCondition? more table) := List.find?_append
  cases hown : joinCondition? joins table with
  | some condition =>
    rw [hown, Option.some_or] at happend
    rw [joinLine_of_some hown, joinLine_of_some happend]
    exact .same _
  | none =>
    rw [hown, Option.none_or] at happend
    rw [joinLine_of_none hown]
    cases hmore : joinCondition? more table with
    | none =>
      rw [joinLine_of_none (happend.trans hmore)]
      exact .same _
    | some condition =>
      rw [joinLine_of_some (happend.trans hmore)]
      exact .joined (joinCondition?_eq_some_iff.1 hmore)

/-! ## Statements -/

/-- The plan is fetched and counted from the text of its tables, with the other clauses of `p`. -/
structure FetchedFrom (q p : Plan) (tables : String) : Prop where
  select : q.selectStatement = p.limitClause.map fun limit =>
    "SELECT " ++ p.columnList ++ "\nFROM " ++ tables ++ p.whereClause ++ p.orderClause ++ limit
  count : q.countStatement? = some ("SELECT count(*) FROM " ++ tables ++ p.whereClause)

theorem fetchedFrom_self {tables : String} (h : p.fromClause = .ok tables) : p.FetchedFrom p tables := by
  constructor
  · unfold selectStatement selectBody
    rw [h]
    cases p.limitClause <;> rfl
  · unfold countStatement?
    rw [h]
    rfl

/-- Further conditions change no clause but that of the tables. -/
theorem fetchedFrom_withJoins {tables : String} (h : (p.withJoins more).fromClause = .ok tables) :
    (p.withJoins more).FetchedFrom p tables :=
  ⟨(fetchedFrom_self h).select, (fetchedFrom_self h).count⟩

/-- **A FROM clause loses no table.** Where no table and no condition has a line break, the clause has one
line for each table, in their order: that of the anchor is the anchor alone, and each other one joins its
table on the first condition in which its name stands with a point after it, which is never an empty one.
The tables are read back from the lines exactly if no name of a table with a condition hides an `ON`.
Further conditions change no line that has one.  All this is so for the tables inside of the statements. -/
theorem from_loses_no_table (p : Plan) {anchor : String} {others : List String}
    (h : p.tables = anchor :: others) (htables : ∀ table ∈ p.tables, IsLine table)
    (hjoins : ∀ condition ∈ p.joins, IsLine condition) :
    ∃ clause lines, p.fromClause = .ok clause ∧
      Text.splitLines clause.toList = (anchor :: lines).map String.toList ∧
      (anchor :: lines).length = p.tables.length ∧
      List.Forall₂ (fun table line => JoinLine (StandsIn table) p.joins table line ∧
        line ≠ "JOIN " ++ table ++ " ON ") others lines ∧
      (tablesOf clause = p.tables ↔ ∀ table ∈ others,
        (∃ condition ∈ p.joins, StandsIn table condition) → ¬ HidesOn table) ∧
      p.FetchedFrom p clause ∧
      ∀ more, ∃ clause' lines', (p.withJoins more).fromClause = .ok clause' ∧
        clause' = Text.joined "\n" (anchor :: lines') ∧
        ((∀ condition ∈ more, IsLine condition) →
          Text.splitLines clause'.toList = (anchor :: lines').map String.toList) ∧
        List.Forall₂ (fun before line => Extends more before.1 before.2 line) (others.zip lines) lines' ∧
        (p.withJoins more).FetchedFrom p clause' := by
  rw [h] at htables
  have hfrom : p.fromClause = .ok (Text.joined "\n" (linesOf p.joins anchor others)) :=
    fromClause_eq_joined h
  refine ⟨_, others.map (joinLine p.joins), hfrom, splitLines_linesOf htables hjoins, ?_, ?_, ?_,
    fetchedFrom_self hfrom, fun more => ?_⟩
  · rw [h]
    simp
  · rw [List.forall₂_map_right_iff, List.forall₂_same]
    intro table _
    have hstands := joinLine_stands p.joins table
    refine ⟨hstands, fun hempty => ?_⟩
    rw [hempty, ← String.append_empty (s := "JOIN " ++ table ++ " ON ")] at hstands
    exact hstands.about_of_eq.ne_empty rfl
  · rw [h]
    exact tablesOf_linesOf_iff htables hjoins
  · have hfrom' : (p.withJoins more).fromClause =
        .ok (Text.joined "\n" (linesOf (p.joins ++ more) anchor others)) :=
      fromClause_eq_joined (p := p.withJoins more) h
    refine ⟨_, others.map (joinLine (p.joins ++ more)), hfrom', rfl, fun hmore => ?_, ?_,
      fetchedFrom_withJoins hfrom'⟩
    · refine splitLines_linesOf htables fun condition hmem => ?_
      rcases List.mem_append.1 hmem with hown | hnew
      · exact hjoins condition hown
      · exact hmore condition hnew
    · have hzip : others.zip (others.map (joinLine p.joins)) =
          others.map fun table => (table, joinLine p.joins table) := List.map_prod_left_eq_zip.symm
      rw [hzip, List.forall₂_map_left_iff, List.forall₂_map_right_iff, List.forall₂_same]
      intro table _
      exact joinLine_extends p.joins more table

/-- Two tables, of which the second is named for the first and its own place in a join. -/
def hiddenOn : Plan :=
  { empty with
    tables := ["t", "a ON b ON a"]
    joins := ["b.id = a ON b ON a.id", "a ON b.id = a ON b ON a.id"] }

/-- **A name that hides an `ON`.** Two plans have the same conditions and the same FROM clause, whose tables
are not the same, although no text in them has a line break.  So no reader gets the tables of every plan
back from its FROM clause, even if it knows the conditions. -/
theorem hidden_on_is_not_read_back :
    (∀ table ∈ hiddenOn.tables, IsLine table) ∧ (∀ condition ∈ hiddenOn.joins, IsLine condition) ∧
    IsLine "a ON b" ∧
    hiddenOn.fromClause = .ok "t\nJOIN a ON b ON a ON b.id = a ON b ON a.id" ∧
    { hiddenOn with tables := ["t", "a ON b"] }.fromClause = hiddenOn.fromClause ∧
    ¬ ∃ readBack : List String → String → List String, ∀ (p : Plan) (clause : String), p.tables ≠ [] →
      (∀ table ∈ p.tables, IsLine table) → (∀ condition ∈ p.joins, IsLine condition) →
      p.fromClause = .ok clause → readBack p.joins clause = p.tables := by
  have htables : ∀ table ∈ hiddenOn.tables, IsLine table := by decide
  have hjoins : ∀ condition ∈ hiddenOn.joins, IsLine condition := by decide
  have hother : IsLine "a ON b" := by decide
  have hclause : hiddenOn.fromClause = .ok "t\nJOIN a ON b ON a ON b.id = a ON b ON a.id" := by
    decide +kernel
  have hsame : { hiddenOn with tables := ["t", "a ON b"] }.fromClause = hiddenOn.fromClause := by
    decide +kernel
  refine ⟨htables, hjoins, hother, hclause, hsame, ?_⟩
  rintro ⟨readBack, hread⟩
  have hfirst := hread hiddenOn _ (by decide) htables hjoins hclause
  have hsecond := hread { hiddenOn with tables := ["t", "a ON b"] } _ (by decide) (by decide) hjoins
    (hsame.trans hclause)
  have hequal : hiddenOn.tables = ["t", "a ON b"] := hfirst.symm.trans hsecond
  exact absurd hequal (by decide)

/-- Posts with two persons and tags: one condition serves both persons, none is about the tags, and one is
empty. -/
def tagged : Plan :=
  { empty with
    tables := ["post", "person", "person", "tag"]
    joins := ["", "post.author_id = person.id"] }

/-- The tables of these posts are read back. The tags are joined on a condition that is added. -/
theorem tagged_loses_no_table : ∃ clause lines, tagged.fromClause = .ok clause ∧
    Text.splitLines clause.toList = ("post" :: lines).map String.toList ∧ lines.length = 3 ∧
    tablesOf clause = tagged.tables ∧
    ∃ clause' lines', (tagged.withJoins ["tag.post_id = post.id"]).fromClause = .ok clause' ∧
      Text.splitLines clause'.toList = ("post" :: lines').map String.toList ∧
      List.Forall₂ (fun before line => Extends ["tag.post_id = post.id"] before.1 before.2 line)
        (["person", "person", "tag"].zip lines) lines' := by
  have htables : tagged.tables = "post" :: ["person", "person", "tag"] := rfl
  have hplain : ∀ table ∈ ["person", "person", "tag"], ¬ HidesOn table := by decide
  have hmore : ∀ condition ∈ ["tag.post_id = post.id"], IsLine condition := by decide
  obtain ⟨clause, lines, hfrom, hlines, hlength, -, hread, -, hextends⟩ :=
    from_loses_no_table tagged htables (by decide) (by decide)
  obtain ⟨clause', lines', hfrom', -, hlines', hsame, -⟩ := hextends ["tag.post_id = post.id"]
  exact ⟨clause, lines, hfrom, hlines, Nat.succ.inj hlength, hread.2 fun table hmem _ => hplain table hmem,
    clause', lines', hfrom', hlines' hmore, hsame⟩

end QueryPlans.Plan
