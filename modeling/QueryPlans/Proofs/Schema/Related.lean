import Mathlib.Data.List.Nodup
import QueryPlans.Proofs.Program.Gather
import QueryPlans.Schema.Resolve

/-!
# Related tables, looked up at the same time

The tables that a table refers to are looked up all at once.  Whatever order the catalogue is asked in,
each of them is found, or not, as if it were looked up alone; those that were not found are left out, and
the others come in the order in which the foreign keys first mention them.  Their text does not depend
on that order.

* `Schema.fetchRelatedAtOnce` — the lookups, started together.
* `Schema.FetchesAlone` — what the lookup of a table ends in when nothing else is at work.
* `Schema.Resolves` — the tables that were found.

Principal results: `fetchRelated_resolves` — all lookups together; `sortByName_eq_of_perm` — the order of
the text; `related_order_irrelevant` — both for any order of the lookups, of the tables and of the foreign
keys.
-/

namespace QueryPlans.Schema

/-- The answers of a catalogue that stays as it is. -/
abbrev FixedCatalogue := (c : Database.interface.Call) → Database.interface.Reply c

variable {catalogue : FixedCatalogue} {main : Schema} {related related' : List (String × Schema)}
  {es : List (Event Database.interface)} {table : String}

/-! ## Lookups -/

/-- What the lookup of a table ends in when nothing else is at work. -/
def FetchesAlone (catalogue : FixedCatalogue) (table : String) (found : Except Failure Schema) : Prop :=
  ∃ es, AgreesWith catalogue es ∧ (fetch table).Trace es found

theorem fetchesAlone_iff {found : Except Failure Schema} :
    FetchesAlone catalogue table found ↔ found = (fetch table).valueIn catalogue := by
  constructor
  · rintro ⟨es, hes, h⟩
    exact h.eq_valueIn hes
  · rintro rfl
    exact (fetch table).exists_trace catalogue

/-- The tables that a table refers to, all looked up at once. -/
def fetchRelatedAtOnce (main : Schema) : Concurrent Database.interface (Except Failure Schema)
    (Except Failure (List (String × Schema))) :=
  .gather ((targets main.foreignKeys).map fetch) fun found =>
    .of (keepFound ((targets main.foreignKeys).zip found))

theorem fetchAll_eq (tables : List String) :
    fetchAll tables = (Program.each (tables.map fetch) >>= fun found => .done (tables.zip found)) := by
  induction tables with
  | nil => rfl
  | cons table rest ih => simp [fetchAll, Program.each, ih]

/-- One lookup after the other is one order of events. -/
theorem inOrder_fetchRelatedAtOnce (main : Schema) :
    (fetchRelatedAtOnce main).inOrder = fetchRelated main := by
  unfold fetchRelatedAtOnce fetchRelated
  rw [fetchAll_eq, Program.bind_bind]
  simp [Concurrent.inOrder]

/-! ## The tables that foreign keys mention -/

/-- The tables that the foreign keys mention, in their order. -/
def mentions (main : Schema) : List String := main.foreignKeys.map (·.foreignTable)

/-- The names that are mentioned, each once and in the order of its first mention. -/
structure FirstMentions (past seen : List String) : Prop where
  mem_iff : ∀ name, name ∈ seen ↔ name ∈ past
  ordered : seen.Pairwise fun a b => past.idxOf a < past.idxOf b

theorem FirstMentions.add {past seen : List String} (h : FirstMentions past seen) (name : String) :
    FirstMentions (past ++ [name]) (if seen.contains name then seen else seen ++ [name]) := by
  -- A mention more changes no place of an earlier one.
  have hearlier : seen.Pairwise fun a b => (past ++ [name]).idxOf a < (past ++ [name]).idxOf b := by
    refine h.ordered.imp_of_mem fun {a b} ha hb hlt => ?_
    rwa [List.idxOf_append_of_mem ((h.mem_iff a).1 ha),
      List.idxOf_append_of_mem ((h.mem_iff b).1 hb)]
  split
  · rename_i hseen
    have hmem : name ∈ seen := by simpa using hseen
    refine ⟨fun other => ?_, hearlier⟩
    rw [h.mem_iff, List.mem_append, List.mem_singleton, iff_self_or]
    rintro rfl
    exact (h.mem_iff _).1 hmem
  · rename_i hnew
    have hnot : name ∉ past := by
      rw [← h.mem_iff]
      simpa using hnew
    refine ⟨fun other => by simp only [List.mem_append, h.mem_iff], ?_⟩
    refine List.pairwise_append.2 ⟨hearlier, List.pairwise_singleton _ _, fun a ha b hb => ?_⟩
    obtain rfl := List.mem_singleton.1 hb
    have ha' := (h.mem_iff a).1 ha
    rw [List.idxOf_append_of_mem ha', List.idxOf_append_of_notMem hnot]
    exact Nat.lt_of_lt_of_le (List.idxOf_lt_length_of_mem ha') (Nat.le_add_right _ _)

theorem firstMentions_targets (main : Schema) :
    FirstMentions main.mentions (targets main.foreignKeys) := by
  have hall (keys : List ForeignKey) (past seen : List String) (h : FirstMentions past seen) :
      FirstMentions (past ++ keys.map (·.foreignTable)) (keys.foldl (fun seen k =>
        if seen.contains k.foreignTable then seen else seen ++ [k.foreignTable]) seen) := by
    induction keys generalizing past seen with
    | nil => simpa using h
    | cons key rest ih => simpa using ih _ _ (h.add key.foreignTable)
  exact hall main.foreignKeys [] [] ⟨fun _ => Iff.rfl, .nil⟩

/-! ## The tables that were found -/

/-- A table with what was found, if it was. -/
def kept (x : String × Except Failure Schema) : Option (String × Schema) :=
  x.2.toOption.map fun s => (x.1, s)

/-- Tables that were not found are left out. -/
theorem keepFound_valueIn {found : List (String × Except Failure Schema)}
    (h : ∀ x ∈ found, ∀ f, x.2 = .error f → f.isOrdinary = true) :
    (keepFound found).valueIn catalogue = .ok (found.filterMap kept) := by
  induction found with
  | nil => rfl
  | cons x rest ih =>
    have ihrest := ih fun y hy => h y (List.mem_cons_of_mem _ hy)
    obtain ⟨table, result⟩ := x
    cases result with
    | ok s =>
      rw [keepFound, Program.valueIn_bind, ihrest]
      rfl
    | error f =>
      have hordinary := h _ List.mem_cons_self f rfl
      rw [keepFound]
      simp only [hordinary, ↓reduceIte]
      exact ihrest

/-- A lookup that was cancelled ends it all. -/
theorem keepFound_valueIn_cancelled {found : List (String × Except Failure Schema)}
    (h : ∃ x ∈ found, ∃ f, x.2 = .error f ∧ f.isOrdinary = false) :
    (keepFound found).valueIn catalogue = .error lookupCancelled := by
  induction found with
  | nil =>
    obtain ⟨_, hmem, -⟩ := h
    cases hmem
  | cons x rest ih =>
    obtain ⟨table, result⟩ := x
    obtain ⟨y, hy, f, hf, hcancelled⟩ := h
    rcases List.mem_cons.1 hy with rfl | hlater
    · cases hf
      rw [keepFound]
      simp only [hcancelled, Bool.false_eq_true, ↓reduceIte]
      rfl
    · have ihrest := ih ⟨y, hlater, f, hf, hcancelled⟩
      cases result with
      | ok s =>
        rw [keepFound, Program.valueIn_bind, ihrest]
        rfl
      | error f' =>
        rw [keepFound]
        split
        · exact ihrest
        · rfl

/-- The tables that were found: those that are mentioned and found alone, each once, as they are found
alone, and in the order of their first mention. -/
structure Resolves (catalogue : FixedCatalogue) (main : Schema) (related : List (String × Schema)) :
    Prop where
  mem_iff : ∀ table s, (table, s) ∈ related ↔
    table ∈ main.mentions ∧ FetchesAlone catalogue table (.ok s)
  distinct : (related.map (·.1)).Nodup
  ordered : related.Pairwise fun x y => main.mentions.idxOf x.1 < main.mentions.idxOf y.1

/-- What the tables are looked up to be. -/
def lookedUp (catalogue : FixedCatalogue) (main : Schema) : List (String × Except Failure Schema) :=
  (targets main.foreignKeys).map fun table => (table, (fetch table).valueIn catalogue)

theorem mem_lookedUp_iff {x : String × Except Failure Schema} :
    x ∈ lookedUp catalogue main ↔ x.1 ∈ main.mentions ∧ FetchesAlone catalogue x.1 x.2 := by
  obtain ⟨table, found⟩ := x
  unfold lookedUp
  rw [fetchesAlone_iff, ← (firstMentions_targets main).mem_iff, List.mem_map]
  constructor
  · rintro ⟨_, hmem, heq⟩
    cases heq
    exact ⟨hmem, rfl⟩
  · rintro ⟨hmem, hfound⟩
    exact ⟨table, hmem, Prod.ext rfl hfound.symm⟩

theorem fetchRelatedAtOnce_valueIn :
    (fetchRelatedAtOnce main).valueIn catalogue =
      (keepFound (lookedUp catalogue main)).valueIn catalogue := by
  unfold fetchRelatedAtOnce lookedUp
  rw [Concurrent.valueIn, Concurrent.valueIn_of, List.map_map]
  congr 2
  exact List.map_prod_left_eq_zip.symm

theorem kept_eq_some_iff {x : String × Except Failure Schema} {y : String × Schema} :
    kept x = some y ↔ x = (y.1, .ok y.2) := by
  obtain ⟨table, found⟩ := x
  obtain ⟨table', s⟩ := y
  cases found with
  | error f => simp [kept, Except.toOption]
  | ok s' => simp [kept, Except.toOption]

theorem resolves_lookedUp : Resolves catalogue main ((lookedUp catalogue main).filterMap kept) := by
  have hordered : ((lookedUp catalogue main).filterMap kept).Pairwise
      fun x y => main.mentions.idxOf x.1 < main.mentions.idxOf y.1 := by
    have hfound : (lookedUp catalogue main).Pairwise
        fun x y => main.mentions.idxOf x.1 < main.mentions.idxOf y.1 :=
      List.pairwise_map.2 (firstMentions_targets main).ordered
    refine hfound.filterMap kept fun x y hlt x' hx y' hy => ?_
    rw [kept_eq_some_iff] at hx hy
    subst hx hy
    exact hlt
  refine ⟨fun table s => ?_, ?_, hordered⟩
  · rw [List.mem_filterMap]
    constructor
    · rintro ⟨x, hx, heq⟩
      rw [kept_eq_some_iff] at heq
      subst heq
      exact mem_lookedUp_iff.1 hx
    · intro h
      exact ⟨(table, .ok s), mem_lookedUp_iff.2 h, rfl⟩
  · refine List.pairwise_map.2 (hordered.imp fun {x y} hlt heq => ?_)
    rw [heq] at hlt
    exact Nat.lt_irrefl _ hlt

/-- However the lookups come in between each other, they end in the tables that were found. -/
theorem fetchRelated_resolves {r : Except Failure (List (String × Schema))}
    (hordinary : ∀ table ∈ main.mentions, ∀ f, FetchesAlone catalogue table (.error f) →
      f.isOrdinary = true)
    (hes : AgreesWith catalogue es) (h : (fetchRelatedAtOnce main).Trace es r) :
    ∃ related, r = .ok related ∧ Resolves catalogue main related := by
  refine ⟨_, ?_, resolves_lookedUp⟩
  rw [h.eq_valueIn hes, fetchRelatedAtOnce_valueIn]
  refine keepFound_valueIn fun x hx f hf => ?_
  obtain ⟨hmention, halone⟩ := mem_lookedUp_iff.1 hx
  rw [hf] at halone
  exact hordinary x.1 hmention f halone

theorem fetchRelated_cancelled {r : Except Failure (List (String × Schema))}
    (hcancelled : ∃ table ∈ main.mentions, ∃ f, FetchesAlone catalogue table (.error f) ∧
      f.isOrdinary = false)
    (hes : AgreesWith catalogue es) (h : (fetchRelatedAtOnce main).Trace es r) :
    r = .error lookupCancelled := by
  obtain ⟨table, hmention, f, halone, hf⟩ := hcancelled
  rw [h.eq_valueIn hes, fetchRelatedAtOnce_valueIn]
  exact keepFound_valueIn_cancelled ⟨(table, .error f), mem_lookedUp_iff.2 ⟨hmention, halone⟩, f, rfl, hf⟩

/-! ## The text -/

/-- Tables with different names have one order. -/
theorem sortByName_eq_of_perm (h : related.Perm related') (hdistinct : (related.map (·.1)).Nodup) :
    sortByName related = sortByName related' := by
  have hsorted (tables : List (String × Schema)) :
      (sortByName tables).Pairwise fun a b => decide (a.1 ≤ b.1) = true := by
    refine List.pairwise_mergeSort (fun a b c hab hbc => ?_) (fun a b => ?_) tables
    · rw [decide_eq_true_eq] at *
      exact String.le_trans hab hbc
    · rw [Bool.or_eq_true, decide_eq_true_eq, decide_eq_true_eq]
      exact String.le_total a.1 b.1
  have hperm : (sortByName related).Perm (sortByName related') :=
    (List.mergeSort_perm related _).trans (h.trans (List.mergeSort_perm related' _).symm)
  refine List.Perm.eq_of_pairwise (fun a b ha hb hab hba => ?_) (hsorted related) (hsorted related')
    hperm
  rw [decide_eq_true_eq] at hab hba
  have hmem : a ∈ related ∧ b ∈ related :=
    ⟨(List.mergeSort_perm related _).mem_iff.1 ha,
      h.mem_iff.2 ((List.mergeSort_perm related' _).mem_iff.1 hb)⟩
  exact List.inj_on_of_nodup_map hdistinct hmem.1 hmem.2 (String.le_antisymm hab hba)

theorem allRelatedLines_eq_of_perm (h : related.Perm related')
    (hdistinct : (related.map (·.1)).Nodup) : allRelatedLines related = allRelatedLines related' := by
  cases related with
  | nil => rw [h.nil_eq]
  | cons x rest =>
    cases related' with
    | nil => cases h.eq_nil
    | cons y rest' =>
      simp only [allRelatedLines, sortByName_eq_of_perm h hdistinct]

/-- The text is the same for every order of the related tables. -/
theorem context_eq_of_perm (current : Schema) (h : related.Perm related')
    (hdistinct : (related.map (·.1)).Nodup) : current.context related = current.context related' := by
  unfold context
  rw [allRelatedLines_eq_of_perm h hdistinct]

theorem foreignKeyLines_perm {keys : List ForeignKey} (h : keys.Perm main.foreignKeys) :
    (foreignKeyLines { main with foreignKeys := keys }).Perm main.foreignKeyLines := by
  unfold foreignKeyLines
  cases hkeys : main.foreignKeys with
  | nil =>
    rw [hkeys] at h
    rw [h.eq_nil]
  | cons key rest =>
    rw [hkeys] at h
    cases keys with
    | nil => cases h.nil_eq
    | cons key' rest' => exact (h.map _).append_left _

/-- The order of the foreign keys changes only the order of the tables. -/
theorem Resolves.perm {keys : List ForeignKey} (hkeys : keys.Perm main.foreignKeys)
    (h : Resolves catalogue main related)
    (h' : Resolves catalogue { main with foreignKeys := keys } related') : related.Perm related' := by
  refine (List.perm_ext_iff_of_nodup (List.Nodup.of_map _ h.distinct)
    (List.Nodup.of_map _ h'.distinct)).2 ?_
  rintro ⟨table, s⟩
  rw [h.mem_iff, h'.mem_iff]
  have hmentions : (mentions { main with foreignKeys := keys }).Perm main.mentions := hkeys.map _
  rw [hmentions.mem_iff]

/-- **No order counts.** Over a catalogue that stays as it is, the lookups of the related tables end in
the same tables however they come in between each other; a lookup that fails takes away its own table
only. The text of the tables is the same for any order of them, and another order of the foreign keys
changes the section of the foreign keys only. -/
theorem related_order_irrelevant (catalogue : FixedCatalogue) (main : Schema) :
    (∀ es r, (fetchRelated main).Trace es r → (fetchRelatedAtOnce main).Trace es r) ∧
    (∃ es r, AgreesWith catalogue es ∧ (fetchRelatedAtOnce main).Trace es r) ∧
    (∀ es r, AgreesWith catalogue es → (fetchRelatedAtOnce main).Trace es r →
      (∀ table ∈ main.mentions, ∀ f, FetchesAlone catalogue table (.error f) → f.isOrdinary = true) →
        ∃ related, r = .ok related ∧ Resolves catalogue main related) ∧
    (∀ es r, AgreesWith catalogue es → (fetchRelatedAtOnce main).Trace es r →
      (∃ table ∈ main.mentions, ∃ f, FetchesAlone catalogue table (.error f) ∧
        f.isOrdinary = false) → r = .error lookupCancelled) ∧
    (∀ (current : Schema) related related', related.Perm related' → (related.map (·.1)).Nodup →
      current.context related = current.context related') ∧
    (∀ keys related related', keys.Perm main.foreignKeys → Resolves catalogue main related →
      Resolves catalogue { main with foreignKeys := keys } related' →
        related.Perm related' ∧
        (foreignKeyLines { main with foreignKeys := keys }).Perm main.foreignKeyLines ∧
        main.context related = Text.joined "\n"
          (main.currentLines ++ main.foreignKeyLines ++ allRelatedLines related) ++ "\n" ∧
        context { main with foreignKeys := keys } related' = Text.joined "\n"
          (main.currentLines ++ foreignKeyLines { main with foreignKeys := keys } ++
            allRelatedLines related) ++ "\n") := by
  refine ⟨fun es r h => ?_, ?_, fun es r hes h hordinary => ?_, fun es r hes h hcancelled => ?_,
    fun current related related' h hdistinct => ?_, fun keys related related' hkeys h h' => ?_⟩
  · rw [← inOrder_fetchRelatedAtOnce] at h
    exact Concurrent.trace_of_inOrder h
  · obtain ⟨es, hes, h⟩ := (fetchRelatedAtOnce main).exists_trace catalogue
    exact ⟨es, _, hes, h⟩
  · exact fetchRelated_resolves hordinary hes h
  · exact fetchRelated_cancelled hcancelled hes h
  · exact context_eq_of_perm current h hdistinct
  · have hperm := h.perm hkeys h'
    refine ⟨hperm, foreignKeyLines_perm hkeys, rfl, ?_⟩
    rw [allRelatedLines_eq_of_perm hperm h.distinct]
    rfl

/-! ### A table that may not be read -/

/-- The column of a port. -/
def portColumn : Column := { name := "id", dataType := "integer", isNullable := false, isPrimaryKey := true }

/-- A catalogue with ports only. -/
def portCatalogue : FixedCatalogue
  | .connect => .ok ()
  | .close => .ok ()
  | .execute _ => .ok default
  | .fetchValue _ => .ok .null
  | .describeColumns table =>
    if table = "port" then .ok [portColumn] else .error (.raised .schema "permission denied")
  | .describeForeignKeys _ => .ok []
  | .tableExists _ => .ok false

/-- A table that refers to a table that may not be read, and to ports twice. -/
def shipment : Schema :=
  { name := "shipment"
    foreignKeys := [⟨"a", "pass_id", "secret", "id"⟩, ⟨"b", "origin_id", "port", "id"⟩,
      ⟨"c", "dest_id", "port", "id"⟩] }

/-- The lookups of its tables, where that of the ports is begun and ended around the other. -/
def shipmentEvents : List (Event Database.interface) :=
  [.answered (.describeColumns "port") (.ok [portColumn]),
    .answered (.describeColumns "secret") (.error (.raised .schema "permission denied")),
    .answered (.describeForeignKeys "port") (.ok []),
    .noted ⟨.warning, logSource, "Skipping related table secret: " ++
      "Failed to fetch schema for secret: permission denied"⟩]

theorem shipment_trace : (fetchRelatedAtOnce shipment).Trace shipmentEvents
    (.ok [("port", { name := "port", columns := [portColumn] })]) := by
  have htargets : targets shipment.foreignKeys = ["secret", "port"] := by decide
  unfold fetchRelatedAtOnce shipmentEvents
  rw [htargets]
  refine .step (.part [fetch "secret"] [] _ (.ask _ _ _)) ?_
  refine .step (.part [] [_] _ (.ask _ _ _)) ?_
  refine .step (.part [_] [] _ (.ask _ _ _)) ?_
  exact .step (.join [_, _] _ (.note _ _)) ⟨_, .refl _, .done _⟩

/-- The ports are found around a lookup that fails, and in any order of the foreign keys. -/
theorem shipment_resolved :
    Resolves portCatalogue shipment [("port", { name := "port", columns := [portColumn] })] ∧
      ∃ related, related.Perm [("port", { name := "port", columns := [portColumn] })] ∧
        Resolves portCatalogue { shipment with foreignKeys := shipment.foreignKeys.reverse } related := by
  obtain ⟨-, -, hresolves, -, -, hreorder⟩ := related_order_irrelevant portCatalogue shipment
  have hagrees : AgreesWith portCatalogue shipmentEvents := by
    intro c r hmem
    rcases List.mem_cons.1 hmem with heq | hmem
    · cases heq
      rfl
    rcases List.mem_cons.1 hmem with heq | hmem
    · cases heq
      rfl
    rcases List.mem_cons.1 hmem with heq | hmem
    · cases heq
      rfl
    · cases List.mem_singleton.1 hmem
  have hsecret : (fetch "secret").valueIn portCatalogue = .error (.plan (.schema "secret"
      "Failed to fetch schema for secret: permission denied")) := rfl
  have hport : (fetch "port").valueIn portCatalogue =
      .ok { name := "port", columns := [portColumn] } := rfl
  have hordinary : ∀ table ∈ shipment.mentions, ∀ f,
      FetchesAlone portCatalogue table (.error f) → f.isOrdinary = true := by
    intro table hmention f halone
    rw [fetchesAlone_iff] at halone
    have hcases : table = "secret" ∨ table = "port" := by
      simpa [mentions, shipment] using hmention
    rcases hcases with rfl | rfl
    · rw [hsecret] at halone
      cases halone
      rfl
    · rw [hport] at halone
      cases halone
  obtain ⟨related, heq, h⟩ := hresolves shipmentEvents _ hagrees shipment_trace hordinary
  cases heq
  refine ⟨h, _, ?_, resolves_lookedUp⟩
  exact (hreorder _ _ _ (List.reverse_perm _) h resolves_lookedUp).1.symm

end QueryPlans.Schema
