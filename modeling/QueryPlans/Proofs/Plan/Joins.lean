import Mathlib.Data.List.Forall2
import Mathlib.Data.List.Infix
import QueryPlans.Plan.Statement
import QueryPlans.Proofs.Text.Search

/-!
# The conditions of a FROM clause

A table after the anchor is joined on the first condition in which its name stands with a point after it.
The name is looked for as text.  So it is also found at the end of a longer name, and then the table is
joined on a condition of another.

* `Plan.StandsIn` — the name stands in the condition, with a point after it.
* `Plan.RefersTo` — it stands there as a name: what is before it does not belong to the name.
* `Plan.JoinLine` — the line of a table, given which conditions are about it.
* `Plan.NamesOnly` — a condition in which points follow names of the plan only.

Principal results: `fromClause_eq_joined` — a FROM clause has a line for each table;
`joinLine_refers_iff` — when a table is joined on a condition that refers to it;
`standsIn_refers` — names of which none ends in another are told apart;
`joined_on_first_mention` — the lines of a plan; `user_joined_on_superuser` — a name that ends in another.
-/

namespace QueryPlans.Plan

variable {inName : Char → Bool} {joins names : List String} {table condition line : String}

/-! ## Lines -/

/-- The anchor and the other tables stand on lines of their own. -/
theorem fromLines_eq_joined (joins : List String) (anchor : String) (others : List String) :
    fromLines joins anchor others = Text.joined "\n" (anchor :: others.map (joinLine joins)) := by
  induction others generalizing anchor with
  | nil => rfl
  | cons table others ih =>
    have hstep : fromLines joins anchor (table :: others) =
        fromLines joins (anchor ++ "\n" ++ joinLine joins table) others := rfl
    rw [hstep, ih, Text.joined_append_cons]
    rfl

theorem fromClause_eq_joined {p : Plan} {anchor : String} {others : List String}
    (h : p.tables = anchor :: others) :
    p.fromClause = .ok (Text.joined "\n" (anchor :: others.map (joinLine p.joins))) := by
  unfold fromClause
  rw [h, ← fromLines_eq_joined]

/-! ## Names in conditions -/

/-- The name of the table stands in the condition, with a point after it. -/
def StandsIn (table condition : String) : Prop :=
  ∃ before after, condition.toList = before ++ (table.toList ++ ['.']) ++ after

/-- The name stands there as a name: the character before it does not belong to one. -/
def RefersTo (inName : Char → Bool) (table condition : String) : Prop :=
  ∃ before after, condition.toList = before ++ (table.toList ++ ['.']) ++ after ∧
    before.getLast?.all (!inName ·) = true

theorem RefersTo.standsIn (h : RefersTo inName table condition) : StandsIn table condition := by
  obtain ⟨before, after, hsplit, -⟩ := h
  exact ⟨before, after, hsplit⟩

theorem mentions_iff : mentions condition table = true ↔ StandsIn table condition := by
  have hne : table.toList ++ ['.'] ≠ [] := by simp
  have hfound : mentions condition table = true ↔
      table.toList ++ ['.'] <:+: condition.toList := by
    unfold mentions Text.occursIn
    rw [Option.isSome_iff_ne_none, ne_eq, Text.find?_eq_none_iff hne, not_not]
  rw [hfound]
  constructor
  · rintro ⟨before, after, hsplit⟩
    exact ⟨before, after, hsplit.symm⟩
  · rintro ⟨before, after, hsplit⟩
    exact ⟨before, after, hsplit.symm⟩

instance (inName : Char → Bool) (table condition : String) :
    Decidable (RefersTo inName table condition) :=
  decidable_of_iff
    (∃ before ∈ condition.toList.inits, before ++ (table.toList ++ ['.']) <+: condition.toList ∧
      before.getLast?.all (!inName ·) = true) <| by
    constructor
    · rintro ⟨before, -, ⟨after, hsplit⟩, hbefore⟩
      exact ⟨before, after, hsplit.symm, hbefore⟩
    · rintro ⟨before, after, hsplit, hbefore⟩
      refine ⟨before, (List.mem_inits _ _).2 ?_, ⟨after, hsplit.symm⟩, hbefore⟩
      rw [hsplit, List.append_assoc]
      exact List.prefix_append _ _

/-- A name with a point after it stands in no empty condition. -/
theorem StandsIn.ne_empty (h : StandsIn table condition) : condition ≠ "" := by
  rintro rfl
  obtain ⟨before, after, hsplit⟩ := h
  have hlength := congrArg List.length hsplit
  simp at hlength

/-! ## The line of a table -/

/-- The first of the conditions that is about the table. -/
def FirstAbout (about : String → Prop) (joins : List String) (condition : String) : Prop :=
  ∃ before after, joins = before ++ condition :: after ∧ about condition ∧
    ∀ earlier ∈ before, ¬ about earlier

/-- The line of a table: it is joined on the first condition that is about it, and with every row exactly
if there is none. -/
inductive JoinLine (about : String → Prop) (joins : List String) (table : String) : String → Prop
  | on {condition : String} (h : FirstAbout about joins condition) :
      JoinLine about joins table ("JOIN " ++ table ++ " ON " ++ condition)
  | cross (h : ∀ condition ∈ joins, ¬ about condition) :
      JoinLine about joins table ("CROSS JOIN " ++ table)

theorem joinCondition?_eq_some_iff :
    joinCondition? joins table = some condition ↔ FirstAbout (StandsIn table) joins condition := by
  unfold joinCondition? FirstAbout
  rw [List.find?_eq_some_iff_append]
  simp only [mentions_iff, Bool.not_eq_true', Bool.eq_false_iff, ne_eq]
  constructor
  · rintro ⟨hcondition, before, after, hjoins, hfirst⟩
    exact ⟨before, after, hjoins, hcondition, hfirst⟩
  · rintro ⟨before, after, hjoins, hcondition, hfirst⟩
    exact ⟨hcondition, before, after, hjoins, hfirst⟩

theorem joinCondition?_eq_none_iff :
    joinCondition? joins table = none ↔ ∀ condition ∈ joins, ¬ StandsIn table condition := by
  unfold joinCondition?
  simp only [List.find?_eq_none, mentions_iff]

/-- A condition that was found has a text: to ask for the text is to ask whether one was found. -/
theorem joinLine_of_some (h : joinCondition? joins table = some condition) :
    joinLine joins table = "JOIN " ++ table ++ " ON " ++ condition := by
  obtain ⟨-, -, -, hstands, -⟩ := joinCondition?_eq_some_iff.1 h
  unfold joinLine
  rw [h]
  exact if_neg hstands.ne_empty

theorem joinLine_of_none (h : joinCondition? joins table = none) :
    joinLine joins table = "CROSS JOIN " ++ table := by
  unfold joinLine
  rw [h]
  exact if_pos rfl

/-- A table is joined on the first condition in which its name stands. -/
theorem joinLine_stands (joins : List String) (table : String) :
    JoinLine (StandsIn table) joins table (joinLine joins table) := by
  cases hcondition : joinCondition? joins table with
  | some condition =>
    rw [joinLine_of_some hcondition]
    exact .on (joinCondition?_eq_some_iff.1 hcondition)
  | none =>
    rw [joinLine_of_none hcondition]
    exact .cross (joinCondition?_eq_none_iff.1 hcondition)

/-- A line says which condition a table is joined on. -/
theorem JoinLine.about_of_eq {about : String → Prop}
    (h : JoinLine about joins table ("JOIN " ++ table ++ " ON " ++ condition)) :
    about condition := by
  generalize hline : "JOIN " ++ table ++ " ON " ++ condition = line at h
  cases h with
  | @on other h =>
    obtain ⟨-, -, -, habout, -⟩ := h
    have hchars := congrArg String.toList hline
    simp only [String.toList_append, List.append_cancel_left_eq] at hchars
    rwa [String.toList_injective hchars]
  | cross h =>
    have hchars := congrArg (fun text => text.toList.head?) hline
    simp at hchars

/-- A table is joined on a condition that refers to it, the first that does, exactly if the first in which
its name stands refers to it. -/
theorem joinLine_refers_iff :
    JoinLine (RefersTo inName table) joins table (joinLine joins table) ↔
      ∀ condition, FirstAbout (StandsIn table) joins condition → RefersTo inName table condition := by
  constructor
  · intro h condition hfirst
    rw [joinLine_of_some (joinCondition?_eq_some_iff.2 hfirst)] at h
    exact h.about_of_eq
  · intro h
    cases hcondition : joinCondition? joins table with
    | some condition =>
      rw [joinLine_of_some hcondition]
      have hfirst := joinCondition?_eq_some_iff.1 hcondition
      have hrefers := h condition hfirst
      obtain ⟨before, after, hjoins, -, hearlier⟩ := hfirst
      exact .on ⟨before, after, hjoins, hrefers, fun earlier hmem hother =>
        hearlier earlier hmem hother.standsIn⟩
    | none =>
      rw [joinLine_of_none hcondition]
      have hnone := joinCondition?_eq_none_iff.1 hcondition
      exact .cross fun condition hmem hrefers => hnone condition hmem hrefers.standsIn

/-! ## Names of the plan -/

/-- Every point in the condition follows a name, which is one of `names`. -/
def NamesOnly (inName : Char → Bool) (names : List String) (condition : String) : Prop :=
  ∀ left right, condition.toList = left ++ '.' :: right →
    ∃ name ∈ names, ∃ before, left = before ++ name.toList ∧ before.getLast?.all (!inName ·) = true

instance (inName : Char → Bool) (names : List String) (condition : String) :
    Decidable (NamesOnly inName names condition) :=
  decidable_of_iff
    (∀ left ∈ condition.toList.inits, left ++ ['.'] <+: condition.toList →
      ∃ name ∈ names, ∃ before ∈ left.inits, left = before ++ name.toList ∧
        before.getLast?.all (!inName ·) = true) <| by
    constructor
    · intro h left right hsplit
      have hleft : left ∈ condition.toList.inits := (List.mem_inits _ _).2 ⟨'.' :: right, hsplit.symm⟩
      obtain ⟨name, hname, before, -, hends⟩ := h left hleft ⟨right, by simp [hsplit]⟩
      exact ⟨name, hname, before, hends⟩
    · rintro h left - ⟨right, hsplit⟩
      obtain ⟨name, hname, before, hends⟩ := h left right (by simp [← hsplit])
      exact ⟨name, hname, before, (List.mem_inits _ _).2 ⟨name.toList, hends.1.symm⟩, hends⟩

/-- No name ends in another one. -/
def SuffixFree (names : List String) : Prop :=
  ∀ name ∈ names, ∀ other ∈ names, other.toList <:+ name.toList → other = name

/-- Where points follow names of the plan, and none of these ends in another, a name stands in a condition
only as a name. -/
theorem standsIn_refers (hnames : NamesOnly inName names condition) (hsuffix : SuffixFree names)
    (hmem : table ∈ names) (htable : table.toList.all inName = true)
    (h : StandsIn table condition) : RefersTo inName table condition := by
  obtain ⟨before, after, hsplit⟩ := h
  have hpoint : condition.toList = before ++ table.toList ++ '.' :: after := by
    rw [hsplit]
    simp
  obtain ⟨name, hname, before', hleft, hbefore⟩ := hnames _ _ hpoint
  refine ⟨before, after, hsplit, ?_⟩
  rcases List.append_eq_append_iff.1 hleft with ⟨longer, rfl, hlonger⟩ | ⟨shorter, rfl, hshorter⟩
  · -- the name that stands there ends the table's name
    cases hlast : longer.getLast? with
    | none =>
      obtain rfl := List.getLast?_eq_none_iff.1 hlast
      rwa [List.append_nil] at hbefore
    | some c =>
      have hc : c ∈ table.toList := by
        rw [hlonger]
        exact List.mem_append_left _ (List.mem_of_getLast? hlast)
      have hin : inName c = true := List.all_eq_true.1 htable c hc
      rw [List.getLast?_append, hlast] at hbefore
      simp [hin] at hbefore
  · -- the table's name ends the name that stands there
    have hends : table.toList <:+ name.toList := ⟨shorter, hshorter.symm⟩
    obtain rfl : table = name := hsuffix name hname table hmem hends
    obtain rfl : shorter = [] := List.self_eq_append_left.1 hshorter
    rwa [List.append_nil]

/-! ## Plans -/

/-- **Tables are joined by their names.** A FROM clause has a line for each table after the anchor.  The
table is joined on the first condition in which its name stands with a point after it, and with every row
exactly if there is none.  This is the line of the conditions that refer to the table exactly if the first
in which its name stands refers to it.  So it is where points follow names of the plan, and no name ends in
another. -/
theorem joined_on_first_mention (inName : Char → Bool) (p : Plan) {anchor : String}
    {others : List String} (h : p.tables = anchor :: others) :
    ∃ lines, p.fromClause = .ok (Text.joined "\n" (anchor :: lines)) ∧
      List.Forall₂ (fun table line => JoinLine (StandsIn table) p.joins table line ∧
        (JoinLine (RefersTo inName table) p.joins table line ↔
          ∀ condition, FirstAbout (StandsIn table) p.joins condition →
            RefersTo inName table condition)) others lines ∧
      ((∀ table ∈ others, table.toList.all inName = true) → SuffixFree p.tables →
        (∀ condition ∈ p.joins, NamesOnly inName p.tables condition) →
        List.Forall₂ (fun table line => JoinLine (RefersTo inName table) p.joins table line)
          others lines) := by
  refine ⟨others.map (joinLine p.joins), fromClause_eq_joined h, ?_, fun hplain hsuffix hnames => ?_⟩
  · rw [List.forall₂_map_right_iff, List.forall₂_same]
    intro table _
    exact ⟨joinLine_stands p.joins table, joinLine_refers_iff⟩
  · rw [List.forall₂_map_right_iff, List.forall₂_same]
    intro table hother
    have hmem : table ∈ p.tables := by
      rw [h]
      exact List.mem_cons_of_mem _ hother
    apply joinLine_refers_iff.2
    rintro condition ⟨before, after, hjoins, hstands, -⟩
    have hcondition : condition ∈ p.joins := by simp [hjoins]
    exact standsIn_refers (hnames condition hcondition) hsuffix hmem (hplain table hother) hstands

/-- A letter, a digit, an underscore or a point: what goes on in a name with points. -/
def isNameOrPoint (c : Char) : Bool := c.isAlphanum || c == '_' || c == '.'

/-- Posts with their authors and editors. -/
def authored : Plan :=
  { empty with
    tables := ["post", "person", "editor"]
    joins := ["post.author_id = person.id", "post.editor_id = editor.id"] }

/-- No name of these tables ends in another. -/
theorem authored_joined :
    ∃ lines, authored.fromClause = .ok (Text.joined "\n" ("post" :: lines)) ∧
      List.Forall₂ (fun table line => JoinLine (RefersTo isNameOrPoint table) authored.joins table line)
        ["person", "editor"] lines := by
  have htables : authored.tables = "post" :: ["person", "editor"] := rfl
  have hplain : ∀ table ∈ ["person", "editor"], table.toList.all isNameOrPoint = true := by decide +kernel
  have hsuffix : SuffixFree authored.tables := by
    unfold SuffixFree
    decide +kernel
  have hnames : ∀ condition ∈ authored.joins, NamesOnly isNameOrPoint authored.tables condition := by
    decide +kernel
  obtain ⟨lines, hfrom, -, hlines⟩ := joined_on_first_mention isNameOrPoint authored htables
  exact ⟨lines, hfrom, hlines hplain hsuffix hnames⟩

/-- Posts with their approvers and authors. -/
def approved : Plan :=
  { empty with
    tables := ["post", "superuser", "user"]
    joins := ["post.approver_id = superuser.id", "post.author_id = user.id"] }

/-- **A name that ends in another.** The authors are joined on the condition of the approvers, which does
not refer to them; another condition does. -/
theorem user_joined_on_superuser :
    approved.fromClause = .ok ("post\nJOIN superuser ON post.approver_id = superuser.id" ++
      "\nJOIN user ON post.approver_id = superuser.id") ∧
    (∀ table ∈ approved.tables, table.toList.all isNameOrPoint = true) ∧
    ¬ RefersTo isNameOrPoint "user" "post.approver_id = superuser.id" ∧
    FirstAbout (RefersTo isNameOrPoint "user") approved.joins "post.author_id = user.id" ∧
    ¬ JoinLine (RefersTo isNameOrPoint "user") approved.joins "user"
      "JOIN user ON post.approver_id = superuser.id" := by
  have hother : ¬ RefersTo isNameOrPoint "user" "post.approver_id = superuser.id" := by decide +kernel
  have hfirst : FirstAbout (RefersTo isNameOrPoint "user") approved.joins "post.author_id = user.id" := by
    refine ⟨["post.approver_id = superuser.id"], [], rfl, by decide +kernel, fun earlier hmem => ?_⟩
    rwa [List.mem_singleton.1 hmem]
  have hjoined : "JOIN user ON post.approver_id = superuser.id" =
      "JOIN " ++ "user" ++ " ON " ++ "post.approver_id = superuser.id" := by decide +kernel
  refine ⟨by decide +kernel, by decide +kernel, hother, hfirst, fun hline => ?_⟩
  rw [hjoined] at hline
  exact hother hline.about_of_eq

end QueryPlans.Plan
