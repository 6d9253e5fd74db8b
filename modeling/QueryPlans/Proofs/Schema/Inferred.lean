import QueryPlans.Proofs.Database.Layers
import QueryPlans.Proofs.Schema.Related

/-!
# Foreign keys that are inferred

A table that declares foreign keys has these and no others.  Where it declares none, a column `x_id`
refers to the table `x` if there is one, unless a column of the primary key has that name.  The catalogue
is asked once for each such column, in the order of the columns, up to the first question that fails.

* `RefersByName`, `IsReference` — a column whose name is that of a table and `_id`; one that may refer to
  that table.
* `References` — the columns that may refer to a table, in their order, each with that table.
* `AnswersAs` — what the catalogue says of a table, where each question may also fail.

Principal results: `references_iff` — the candidates of a lookup are the references; `existing_found`,
`existing_failed` — the questions one after the other; `fetch_foreignKeys` — the foreign keys of a table
that was looked up.
-/

namespace QueryPlans.Schema

variable {table column target : String} {columns rest : List Column} {declared : List ForeignKey}
  {c : Column} {refs : List (String × String)} {isTable : String → Bool}
  {es : List (Event Database.interface)} {f : Fault}

/-! ## References -/

/-- The name of the column is that of the table and `_id`. -/
def RefersByName (column target : String) : Prop := target ≠ "" ∧ column = target ++ "_id"

theorem referredTable?_eq_some_iff : referredTable? column = some target ↔ RefersByName column target := by
  have hend : "_id".toList = referenceEnd := rfl
  unfold referredTable? RefersByName
  constructor
  · intro h
    obtain ⟨hlong, htarget⟩ := Option.ite_none_right_eq_some.1 h
    rw [Bool.and_eq_true, List.isSuffixOf_iff_suffix, decide_eq_true_eq] at hlong
    obtain ⟨⟨start, hstart⟩, hlength⟩ := hlong
    have htake : column.toList.take (column.toList.length - referenceEnd.length) = start := by
      simp [← hstart]
    rw [htake, Option.some.injEq] at htarget
    subst htarget
    refine ⟨?_, ?_⟩
    · rintro hempty
      have hnil : start = [] := by simpa using congrArg String.toList hempty
      simp [← hstart, hnil] at hlength
    · rw [← String.toList_inj, String.toList_append, String.toList_ofList, hend, hstart]
  · rintro ⟨hne, rfl⟩
    have hpositive : 0 < target.toList.length := by
      rw [List.length_pos_iff]
      intro hnil
      exact hne (String.toList_inj.1 hnil)
    rw [String.toList_append, hend]
    simp [hpositive]

/-- The column may refer to the table: by its name, unless a column of the primary key has that name. -/
structure IsReference (columns : List Column) (c : Column) (target : String) : Prop where
  plain : c.isPrimaryKey = false
  unshared : ∀ key ∈ columns, key.isPrimaryKey = true → key.name ≠ c.name
  named : RefersByName c.name target

/-- The columns that may refer to a table, in their order, each with that table. -/
inductive References (columns : List Column) : List Column → List (String × String) → Prop
  | nil : References columns [] []
  | refers {c : Column} {target : String} {rest : List Column} {refs : List (String × String)}
      (h : IsReference columns c target) (hrest : References columns rest refs) :
      References columns (c :: rest) ((c.name, target) :: refs)
  | other {c : Column} {rest : List Column} {refs : List (String × String)}
      (h : ∀ target, ¬ IsReference columns c target) (hrest : References columns rest refs) :
      References columns (c :: rest) refs

/-- The table that a column may refer to, if there is one. -/
def candidate? (columns : List Column) (c : Column) : Option (String × String) :=
  if c.isPrimaryKey || ((columns.filter (·.isPrimaryKey)).map (·.name)).contains c.name then none
  else (referredTable? c.name).map fun target => (c.name, target)

theorem candidates_eq (columns : List Column) : candidates columns = columns.filterMap (candidate? columns) :=
  rfl

theorem candidate?_eq_some_iff :
    candidate? columns c = some (column, target) ↔ column = c.name ∧ IsReference columns c target := by
  have hkeys : ((columns.filter (·.isPrimaryKey)).map (·.name)).contains c.name = true ↔
      ∃ key ∈ columns, key.isPrimaryKey = true ∧ key.name = c.name := by
    simp [and_assoc]
  unfold candidate?
  rw [Option.ite_none_left_eq_some, Bool.or_eq_true, not_or, hkeys, Bool.not_eq_true,
    Option.map_eq_some_iff]
  constructor
  · rintro ⟨⟨hplain, hunshared⟩, referred, hreferred, heq⟩
    cases heq
    refine ⟨rfl, hplain, fun key hkey hprimary hname => ?_, referredTable?_eq_some_iff.1 hreferred⟩
    exact hunshared ⟨key, hkey, hprimary, hname⟩
  · rintro ⟨rfl, hplain, hunshared, hnamed⟩
    refine ⟨⟨hplain, ?_⟩, target, referredTable?_eq_some_iff.2 hnamed, rfl⟩
    rintro ⟨key, hkey, hprimary, hname⟩
    exact hunshared key hkey hprimary hname

theorem references_filterMap_iff :
    References columns rest refs ↔ refs = rest.filterMap (candidate? columns) := by
  constructor
  · intro h
    induction h with
    | nil => rfl
    | refers h hrest ih => rw [List.filterMap_cons_some (candidate?_eq_some_iff.2 ⟨rfl, h⟩), ih]
    | @other c rest refs h hrest ih =>
      have hnone : candidate? columns c = none := by
        rw [Option.eq_none_iff_forall_ne_some]
        rintro ⟨column, target⟩ heq
        exact h target (candidate?_eq_some_iff.1 heq).2
      rw [List.filterMap_cons_none hnone, ih]
  · rintro rfl
    induction rest with
    | nil => exact .nil
    | cons c rest ih =>
      cases hcandidate : candidate? columns c with
      | none =>
        rw [List.filterMap_cons_none hcandidate]
        refine .other (fun target h => ?_) ih
        have hsome := candidate?_eq_some_iff.2 ⟨rfl, h⟩
        rw [hcandidate] at hsome
        cases hsome
      | some ref =>
        obtain ⟨column, target⟩ := ref
        obtain ⟨rfl, h⟩ := candidate?_eq_some_iff.1 hcandidate
        rw [List.filterMap_cons_some hcandidate]
        exact .refers h ih

/-- The candidates of a lookup are the references. -/
theorem references_iff : References columns columns refs ↔ refs = candidates columns := by
  rw [candidates_eq]
  exact references_filterMap_iff

/-! ## Questions -/

/-- The calls among events. -/
def callsOf (es : List (Event Database.interface)) : List Database.interface.Call :=
  es.filterMap Event.call?

theorem callsOf_append (es fs : List (Event Database.interface)) :
    callsOf (es ++ fs) = callsOf es ++ callsOf fs := List.filterMap_append

/-- The question whether the table of a reference exists. -/
def question (ref : String × String) : Database.interface.Call := .tableExists ref.2

/-- The foreign keys of the references to tables that exist. -/
def keysTo (isTable : String → Bool) (refs : List (String × String)) : List ForeignKey :=
  (refs.filter fun ref => isTable ref.2).map fun ref => implicitKey ref.1 ref.2

/-- Each table that is asked for is said to exist or not; a question may also fail. -/
def TablesAre (isTable : String → Bool) (es : List (Event Database.interface)) : Prop :=
  ∀ name found, .answered (.tableExists name) (.ok found) ∈ es → found = isTable name

theorem TablesAre.mono {fs : List (Event Database.interface)} (h : TablesAre isTable fs) (hsub : es ⊆ fs) :
    TablesAre isTable es := fun name found hmem => h name found (hsub hmem)

/-- Where no question fails, each is asked, and the tables that exist are referred to. -/
theorem existing_found {r : Except Fault (List ForeignKey)} (h : (existing refs).Trace es r)
    (htables : TablesAre isTable es) (hnone : ∀ f, ¬ Raises es f) :
    r = .ok (keysTo isTable refs) ∧ callsOf es = refs.map question := by
  induction refs generalizing es r with
  | nil =>
    obtain ⟨rfl, rfl⟩ := Program.trace_done_iff.1 h
    exact ⟨rfl, rfl⟩
  | cons ref refs ih =>
    obtain ⟨reply, tail, rfl, hrest⟩ := Program.trace_call_bind_iff.1 h
    cases reply with
    | error f => exact absurd (raises_error_cons.2 (.inl rfl)) (hnone f)
    | ok found =>
      obtain ⟨early, late, keys, hkeys, hend, rfl⟩ := Program.trace_bind_iff.1 hrest
      have hfound : found = isTable ref.2 := htables _ _ List.mem_cons_self
      have hsub : early ⊆ .answered (question ref) (.ok found) :: (early ++ late) := fun e he =>
        List.mem_cons_of_mem _ (List.mem_append_left _ he)
      obtain ⟨rfl, hcalls⟩ := ih hkeys (htables.mono hsub) fun f hraises => hnone f (hraises.mono hsub)
      obtain ⟨rfl, rfl⟩ := Program.trace_done_iff.1 hend
      subst hfound
      refine ⟨?_, ?_⟩
      · unfold keysTo
        rw [List.filter_cons]
        split <;> rfl
      · rw [List.append_nil, List.map_cons, ← hcalls]
        rfl

/-- The first question that fails is the last one. -/
theorem existing_failed {r : Except Fault (List ForeignKey)} (h : (existing refs).Trace es r)
    (hraises : Raises es f) :
    r = .error f ∧ ∃ before ref after, refs = before ++ ref :: after ∧
      callsOf es = (before ++ [ref]).map question := by
  refine ⟨(existing_forwards refs).stops h hraises, ?_⟩
  induction refs generalizing es r with
  | nil =>
    obtain ⟨rfl, -⟩ := Program.trace_done_iff.1 h
    exact absurd hraises not_raises_nil
  | cons ref refs ih =>
    obtain ⟨reply, tail, rfl, hrest⟩ := Program.trace_call_bind_iff.1 h
    cases reply with
    | error g =>
      obtain ⟨rfl, -⟩ := Program.trace_done_iff.1 hrest
      exact ⟨[], ref, refs, rfl, rfl⟩
    | ok found =>
      obtain ⟨early, late, keys, hkeys, hend, rfl⟩ := Program.trace_bind_iff.1 hrest
      have hsilent : late = [] := by
        cases keys with
        | error g => exact (Program.trace_done_iff.1 hend).1
        | ok keys => exact (Program.trace_done_iff.1 hend).1
      subst hsilent
      rw [List.append_nil] at hraises ⊢
      obtain ⟨before, failing, after, rfl, hcalls⟩ := ih hkeys (raises_ok_cons.1 hraises)
      refine ⟨ref :: before, failing, after, rfl, ?_⟩
      rw [List.cons_append, List.map_cons, ← hcalls]
      rfl

variable {inferred : Except Fault (List ForeignKey)}

/-- An inference is the questions for the references, and after that at most an entry of the log. -/
theorem inferForeignKeys_trace (h : (inferForeignKeys table columns).Trace es inferred) :
    ∃ early late, es = early ++ late ∧ (existing (candidates columns)).Trace early inferred ∧
      callsOf late = [] ∧ ∀ f, ¬ Raises late f := by
  obtain ⟨early, late, keys, hkeys, hend, rfl⟩ := Program.trace_bind_iff.1 h
  refine ⟨early, late, rfl, ?_⟩
  cases keys with
  | error f =>
    obtain ⟨rfl, rfl⟩ := Program.trace_done_iff.1 hend
    exact ⟨hkeys, rfl, fun _ => not_raises_nil⟩
  | ok keys =>
    simp only at hend
    split at hend
    · obtain ⟨tail, rfl, hdone⟩ := Program.trace_log_bind_iff.1 hend
      obtain ⟨rfl, rfl⟩ := Program.trace_done_iff.1 hdone
      exact ⟨hkeys, rfl, fun _ hraises => not_raises_nil (raises_noted_cons.1 hraises)⟩
    · obtain ⟨rfl, rfl⟩ := Program.trace_done_iff.1 hend
      exact ⟨hkeys, rfl, fun _ => not_raises_nil⟩

theorem inferForeignKeys_found (h : (inferForeignKeys table columns).Trace es inferred)
    (htables : TablesAre isTable es) (hnone : ∀ f, ¬ Raises es f) :
    inferred = .ok (keysTo isTable (candidates columns)) ∧
      callsOf es = (candidates columns).map question := by
  obtain ⟨early, late, rfl, hkeys, hlate, -⟩ := inferForeignKeys_trace h
  have hsub : early ⊆ early ++ late := List.subset_append_left early late
  obtain ⟨hfound, hcalls⟩ := existing_found hkeys (htables.mono hsub) fun f hraises =>
    hnone f (hraises.mono hsub)
  refine ⟨hfound, ?_⟩
  rw [callsOf_append, hlate, hcalls, List.append_nil]

theorem inferForeignKeys_failed (h : (inferForeignKeys table columns).Trace es inferred)
    (hraises : Raises es f) :
    inferred = .error f ∧ ∃ before ref after, candidates columns = before ++ ref :: after ∧
      callsOf es = (before ++ [ref]).map question := by
  obtain ⟨early, late, rfl, hkeys, hlate, hnone⟩ := inferForeignKeys_trace h
  have hearly := (raises_append.1 hraises).resolve_right (hnone f)
  rw [callsOf_append, hlate, List.append_nil]
  exact existing_failed hkeys hearly

/-! ## Tables -/

/-- What the catalogue says of a table: its columns, the foreign keys that it declares, and which tables
exist. A question whether a table exists may also fail. -/
structure AnswersAs (table : String) (columns : List Column) (declared : List ForeignKey)
    (isTable : String → Bool) (es : List (Event Database.interface)) : Prop where
  columns : ∀ reply, .answered (.describeColumns table) reply ∈ es → reply = .ok columns
  declared : ∀ reply, .answered (.describeForeignKeys table) reply ∈ es → reply = .ok declared
  tables : TablesAre isTable es

/-- The questions that come before those for the tables. -/
def described (table : String) : List Database.interface.Call :=
  [.describeColumns table, .describeForeignKeys table]

/-- A table whose foreign keys came to something. -/
def withKeys (table : String) (columns : List Column) : Except Fault (List ForeignKey) → Except Failure Schema
  | .error f => .error (failure table f)
  | .ok foreignKeys => .ok { name := table, columns, foreignKeys }

/-- The columns are asked for, then the declared foreign keys, and after that only what these leave open. -/
theorem fetch_described {r : Except Failure Schema} (h : (fetch table).Trace es r)
    (hes : AnswersAs table columns declared isTable es) :
    ∃ tail, (∀ f, Raises es f ↔ Raises tail f) ∧ tail ⊆ es ∧ callsOf es = described table ++ callsOf tail ∧
      (declared ≠ [] → tail = [] ∧ r = withKeys table columns (.ok declared)) ∧
      (declared = [] → ∃ inferred, (inferForeignKeys table columns).Trace tail inferred ∧
        r = withKeys table columns inferred) := by
  obtain ⟨reply, afterColumns, rfl, hrest⟩ := Program.trace_call_bind_iff.1 h
  obtain rfl := hes.columns reply List.mem_cons_self
  obtain ⟨fetched, late, keys, hkeys, hend, rfl⟩ := Program.trace_bind_iff.1 hrest
  obtain ⟨reply, tail, rfl, htail⟩ := Program.trace_call_bind_iff.1 hkeys
  obtain rfl := hes.declared reply (List.mem_cons_of_mem _ List.mem_cons_self)
  have hended : late = [] ∧ r = withKeys table columns keys := by
    cases keys with
    | error f => exact Program.trace_done_iff.1 hend
    | ok keys => exact Program.trace_done_iff.1 hend
  obtain ⟨rfl, rfl⟩ := hended
  refine ⟨tail, fun f => ?_, fun e he => ?_, ?_, fun hsome => ?_, ?_⟩
  · rw [List.append_nil]
    exact raises_ok_cons.trans raises_ok_cons
  · exact List.mem_cons_of_mem _ (List.mem_append_left _ (List.mem_cons_of_mem _ he))
  · rw [List.append_nil]
    rfl
  · cases declared with
    | nil => exact absurd rfl hsome
    | cons key keys =>
      obtain ⟨rfl, rfl⟩ := Program.trace_done_iff.1 htail
      exact ⟨rfl, rfl⟩
  · rintro rfl
    exact ⟨keys, htail, rfl⟩

/-- **Foreign keys are inferred where none are declared.** Declared foreign keys are taken as they are, and
no table is asked for.  Otherwise each column that may refer to a table is asked for, once and in order, and
those of tables that exist are the foreign keys; the first question that fails is the last one, and there
is no table then but an error of this one.  Over a connector to the database, every failure but a
cancellation is such an error. -/
theorem fetch_foreignKeys {r : Except Failure Schema} (h : (fetch table).Trace es r)
    (hes : AnswersAs table columns declared isTable es) :
    (declared ≠ [] → r = .ok (Schema.mk table columns declared) ∧
      callsOf es = [.describeColumns table, .describeForeignKeys table]) ∧
    (declared = [] → ∃ refs, References columns columns refs ∧
      ((∀ f, ¬ Raises es f) →
        r = .ok (Schema.mk table columns ((refs.filter fun ref => isTable ref.2).map fun ref =>
          ⟨"(implicit)", ref.1, ref.2, "id"⟩)) ∧
        callsOf es = [.describeColumns table, .describeForeignKeys table] ++
          refs.map fun ref => .tableExists ref.2) ∧
      (∀ f, Raises es f →
        (f.isConnector = true → r = .error (.plan (.schema table
          ("Failed to fetch schema for " ++ table ++ ": " ++ f.message)))) ∧
        (f.isConnector = false → r = .error (.fault f)) ∧
        ∃ before ref after, refs = before ++ ref :: after ∧
          callsOf es = [.describeColumns table, .describeForeignKeys table] ++
            (before ++ [ref]).map fun ref => .tableExists ref.2)) ∧
    (∀ t s s' (ds : List (Event Pool.interface)) found, Pool.CatalogueTyped ds →
      (Connector.serving t s (fetch table)).Trace ds (found, s') → Pool.Uncancelled ds →
        ∀ failed, found = .error failed → ∃ message, failed = .plan (.schema table message)) := by
  obtain ⟨tail, hraises, hsub, hcalls, hdeclared, hinferred⟩ := fetch_described h hes
  refine ⟨fun hsome => ?_, fun hnone => ?_, fun t s s' ds found htyped htrace hds => ?_⟩
  · obtain ⟨rfl, rfl⟩ := hdeclared hsome
    exact ⟨rfl, hcalls⟩
  · obtain ⟨inferred, htail, rfl⟩ := hinferred hnone
    refine ⟨candidates columns, references_iff.2 rfl, fun hquiet => ?_, fun f hf => ?_⟩
    · obtain ⟨rfl, hquestions⟩ := inferForeignKeys_found htail (hes.tables.mono hsub) fun f hf =>
        hquiet f ((hraises f).2 hf)
      rw [hcalls, hquestions]
      exact ⟨rfl, rfl⟩
    · obtain ⟨rfl, before, ref, after, hrefs, hquestions⟩ :=
        inferForeignKeys_failed htail ((hraises f).1 hf)
      rw [hcalls, hquestions]
      refine ⟨fun hconnector => ?_, fun hforeign => ?_, before, ref, after, hrefs, rfl⟩
      · simp only [withKeys, failure, hconnector, ↓reduceIte]
      · simp only [withKeys, failure, hforeign, Bool.false_eq_true, ↓reduceIte]
  · exact (Connector.fetch_caught htyped htrace).failures hds

/-! ### A table with a key of two columns -/

/-- The columns of a table of entries: the key is of two columns, one of which is named like a reference. -/
def entryColumns : List Column :=
  [{ name := "id", dataType := "integer", isPrimaryKey := true },
    { name := "book_id", dataType := "integer", isPrimaryKey := true },
    { name := "_id", dataType := "integer" }, { name := "a_id_id", dataType := "integer" },
    { name := "port_id", dataType := "integer" }, { name := "book_id", dataType := "text" }]

/-- The tables beside that of the entries. -/
def isEntryTable (name : String) : Bool := ["book", "a_id", ""].contains name

/-- A catalogue with these tables. -/
def entryCatalogue : FixedCatalogue
  | .connect => .ok ()
  | .close => .ok ()
  | .execute _ => .ok default
  | .fetchValue _ => .ok .null
  | .describeColumns _ => .ok entryColumns
  | .describeForeignKeys _ => .ok []
  | .tableExists name => .ok (isEntryTable name)

/-- The table of the entries refers to one table, and only two tables were asked for. -/
theorem entry_foreignKeys :
    ∃ es, (fetch "entry").Trace es (.ok (Schema.mk "entry" entryColumns
        [⟨"(implicit)", "a_id_id", "a_id", "id"⟩])) ∧
      callsOf es = [.describeColumns "entry", .describeForeignKeys "entry", .tableExists "a_id",
        .tableExists "port"] := by
  obtain ⟨es, hagrees, h⟩ := (fetch "entry").exists_trace entryCatalogue
  have hes : AnswersAs "entry" entryColumns [] isEntryTable es :=
    ⟨fun reply hmem => hagrees _ reply hmem, fun reply hmem => hagrees _ reply hmem,
      fun name found hmem => Except.ok.inj (hagrees _ _ hmem)⟩
  have hquiet : ∀ f, ¬ Raises es f := by
    rintro f ⟨c, hmem⟩
    have hanswer := hagrees _ _ hmem
    cases c <;> cases hanswer
  obtain ⟨refs, hrefs, hfound, -⟩ := (fetch_foreignKeys h hes).2.1 rfl
  have heq : refs = [("a_id_id", "a_id"), ("port_id", "port")] := by
    rw [references_iff.1 hrefs]
    decide
  subst heq
  obtain ⟨hr, hcalls⟩ := hfound hquiet
  rw [hr] at h
  exact ⟨es, h, hcalls⟩

end QueryPlans.Schema
