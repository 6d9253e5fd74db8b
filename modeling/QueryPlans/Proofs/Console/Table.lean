import Mathlib.Data.List.Induction
import Mathlib.Data.List.Nodup
import QueryPlans.Console.Report
import QueryPlans.Proofs.Database.Layers

/-!
# Results on the screen

The driver gives a record as values under the names of the statement's columns, and a name may repeat, as
it does when tables are joined.  A connector keeps the fields of a record by name, and a table looks its
cells up by name, so that every column of one name shows the last value under it.

* `Pool.Record.last?` — the last value under a name.
* `Display.valueCell` — what a cell shows of a value; `Display.cellAt?` — the cell of a table by row and
  column.
* `Display.ShowsAll` — each value of each record is shown in its row and column.
* `Pool.Record.AlikeByName` — the values of a record under one name are shown alike.

Principal results: `Display.cellAt?_toRows` — what each cell shows; `Outcome.printed_table_shows_all_iff` —
when the table of a result shows all values.
-/

namespace QueryPlans

/-! ## Fields by name -/

namespace Pool.Record

/-- The last value under a name. -/
def last? (r : Record) (name : String) : Option Json :=
  (r.reverse.find? fun field => field.1 = name).map (·.2)

theorem last?_concat {r : Record} {field : String × Json} {name : String} :
    last? (r ++ [field]) name = if field.1 = name then some field.2 else last? r name := by
  unfold last?
  rw [List.reverse_append, List.reverse_singleton, List.singleton_append, List.find?_cons]
  by_cases h : field.1 = name <;> simp [h]

theorem toFields_concat {r : Record} {field : String × Json} :
    toFields (r ++ [field]) = Json.Fields.put field.1 field.2 r.toFields := by
  unfold toFields
  rw [List.foldl_append]
  rfl

/-- Of the values under one name the last one is kept. -/
theorem get?_toFields (r : Record) (name : String) : r.toFields.get? name = r.last? name := by
  induction r using List.reverseRecOn with
  | nil => rfl
  | append_singleton r field ih =>
    rw [toFields_concat, last?_concat]
    split
    · rename_i heq
      rw [heq, Json.Fields.get?_put_self]
    · rename_i hne
      rw [Json.Fields.get?_put_of_ne _ _ (Ne.symm hne), ih]

/-- There is a last value under each name of a record. -/
theorem exists_last? {r : Record} {field : String × Json} (h : field ∈ r) :
    ∃ v, r.last? field.1 = some v ∧ (field.1, v) ∈ r := by
  unfold last?
  cases hfind : r.reverse.find? fun f => f.1 = field.1 with
  | none =>
    rw [List.find?_eq_none] at hfind
    exact absurd (by simp) (hfind field (List.mem_reverse.2 h))
  | some found =>
    have hname : found.1 = field.1 := by simpa using List.find?_some hfind
    refine ⟨found.2, rfl, ?_⟩
    rw [← hname]
    exact List.mem_reverse.1 (List.mem_of_find?_eq_some hfind)

end Pool.Record

/-! ## Cells -/

namespace Display

/-- What a cell shows of a value. -/
def valueCell (v : Json) : String := Markup.escape v.cell

/-- The cell of a table by row and column. -/
def cellAt? (i j : Nat) : Display → Option String
  | table _ rows => rows[i]?.bind (·[j]?)
  | _ => none

def isTable : Display → Bool
  | table _ _ => true
  | _ => false

/-- Each value of each record is shown in its row and column. -/
def ShowsAll (d : Display) (records : List Pool.Record) : Prop :=
  ∀ (i j : Nat) (record : Pool.Record) (field : String × Json),
    records[i]? = some record → record[j]? = some field → d.cellAt? i j = some (valueCell field.2)

end Display

/-- The values of a record under one name are shown alike. -/
def Pool.Record.AlikeByName (r : Pool.Record) : Prop :=
  ∀ field ∈ r, ∀ other ∈ r, field.1 = other.1 →
    Display.valueCell field.2 = Display.valueCell other.2

namespace Display

variable {statement : Pool.Statement} {records : List Pool.Record}

/-- A cell shows the last value that its record has under the name of its column. -/
theorem cellAt?_toRows {i j : Nat} {record : Pool.Record} {field : String × Json}
    (hshape : record.map (·.1) = statement.columns) (hrecord : records[i]? = some record)
    (hfield : record[j]? = some field) :
    (ofRows (Connector.toRows statement records)).cellAt? i j =
      some (valueCell ((record.last? field.1).getD .null)) := by
  have hcolumn : statement.columns[j]? = some field.1 := by
    rw [← hshape, List.getElem?_map, hfield, Option.map_some]
  have hcolumns : statement.columns ≠ [] := by
    rintro hnil
    rw [hnil] at hcolumn
    cases hcolumn
  simp only [ofRows, Connector.toRows, if_neg hcolumns, cellAt?, List.map_map, List.getElem?_map,
    hrecord, Option.map_some, Option.bind_some, Function.comp_apply, cells, hcolumn, cell,
    Pool.Record.get?_toFields, valueCell]

/-- The table shows all values exactly if in each record the values under one name are shown alike. -/
theorem showsAll_toRows_iff (hshape : ∀ record ∈ records, record.map (·.1) = statement.columns) :
    (ofRows (Connector.toRows statement records)).ShowsAll records ↔
      ∀ record ∈ records, record.AlikeByName := by
  constructor
  · intro hall record hrecord field hfield other hother hname
    obtain ⟨i, hi⟩ := List.getElem?_of_mem hrecord
    obtain ⟨j, hj⟩ := List.getElem?_of_mem hfield
    obtain ⟨k, hk⟩ := List.getElem?_of_mem hother
    -- Both cells show the last value under the name.
    have hfirst := (cellAt?_toRows (hshape record hrecord) hi hj).symm.trans (hall i j _ _ hi hj)
    have hsecond := (cellAt?_toRows (hshape record hrecord) hi hk).symm.trans (hall i k _ _ hi hk)
    rw [hname] at hfirst
    exact Option.some.inj (hfirst.symm.trans hsecond)
  · intro halike i j record field hi hj
    have hrecord := List.mem_of_getElem? hi
    have hfield := List.mem_of_getElem? hj
    obtain ⟨v, hlast, hv⟩ := Pool.Record.exists_last? hfield
    rw [cellAt?_toRows (hshape record hrecord) hi hj, hlast, Option.getD_some]
    exact congrArg some (halike record hrecord _ hv _ hfield rfl)

end Display

/-! ## Column lists -/

/-- The record over columns with a mark at one place and null elsewhere. -/
def Pool.Record.marked (columns : List String) (place : Nat) : Pool.Record :=
  columns.mapIdx fun i name => (name, if i = place then .str "1" else .null)

theorem Pool.Record.map_marked (columns : List String) (place : Nat) :
    (marked columns place).map (·.1) = columns := by
  refine List.ext_getElem? fun i => ?_
  unfold marked
  rw [List.getElem?_map, List.getElem?_mapIdx, Option.map_map]
  exact Option.map_id'

/-- Without repeated names the values under one name are one value. -/
theorem Pool.Record.AlikeByName.of_nodup {r : Pool.Record} (h : (r.map (·.1)).Nodup) :
    r.AlikeByName := by
  intro field hfield other hother hname
  rw [List.inj_on_of_nodup_map h hfield hother hname]

/-- Over columns with a repeated name, a mark under one of the two is not shown alike. -/
theorem Pool.Record.exists_not_alikeByName {columns : List String} (h : ¬ columns.Nodup) :
    ∃ r : Pool.Record, r.map (·.1) = columns ∧ ¬ r.AlikeByName := by
  rw [List.nodup_iff_getElem?_ne_getElem?] at h
  push Not at h
  obtain ⟨j, k, hjk, hk, hname⟩ := h
  refine ⟨marked columns k, map_marked columns k, fun halike => ?_⟩
  have hplace {i : Nat} (hi : i < columns.length) :
      (columns[i], if i = k then Json.str "1" else .null) ∈ marked columns k :=
    List.mem_mapIdx.2 ⟨i, hi, rfl⟩
  have hj : j < columns.length := Nat.lt_trans hjk hk
  rw [List.getElem?_eq_getElem hj, List.getElem?_eq_getElem hk] at hname
  have heq := halike _ (hplace hj) _ (hplace hk) (Option.some.inj hname)
  simp only [if_neg (Nat.ne_of_lt hjk), if_pos] at heq
  exact absurd heq (by decide)

/-! ## The printed table -/

namespace Outcome

open Connector (localTarget opened toRows)

variable {statement : Pool.Statement} {records : List Pool.Record} {o : Outcome} {rows : Rows}

theorem opening_has_no_table (shown : Showing) : shown.opening.filter Display.isTable = [] := by
  refine List.filter_eq_nil_iff.2 fun d hd => ?_
  rcases List.mem_cons.1 hd with rfl | hstatement
  · exact Bool.false_ne_true
  · rw [Option.mem_toList, Option.map_eq_some_iff] at hstatement
    obtain ⟨sql, -, rfl⟩ := hstatement
    exact Bool.false_ne_true

theorem statusLine_has_no_table (page : Page) :
    (Showing.statusLine page).displays.filter Display.isTable = [] := by
  unfold Showing.statusLine
  split <;> rfl

/-- One table is printed of an outcome with rows. -/
theorem tables_shown (h : o.rows? = some rows) :
    o.shown.displays.filter Display.isTable = [.ofRows rows] := by
  cases o with
  | needOtherTables plan summary => cases h
  | review plan summary sql => cases h
  | executed plan summary sql countSql given page =>
    obtain rfl := Option.some.inj h
    have hdisplays : (executed plan summary sql countSql given page).shown.displays =
        (executed plan summary sql countSql given page).showing.opening ++
          .ofRows given :: (Showing.statusLine page).displays := by
      unfold shown Showing.shown Showing.result
      simp only [showing, Shown.done_append, Option.elim_some, List.singleton_append]
    rw [hdisplays, List.filter_append, List.filter_cons_of_pos rfl, opening_has_no_table,
      statusLine_has_no_table, List.nil_append]

/-- A statement was run through a connector and its result is printed. Each record of the driver is one of
values under the names of the statement's columns. -/
structure Printed (statement : Pool.Statement) (records : List Pool.Record) (o : Outcome) : Prop where
  shape : ∀ record ∈ records, record.map (·.1) = statement.columns
  ran : ∃ (t : Target) (s : Connector) (sql : String) (timeout : Option Int)
    (es : List (Event Pool.interface)) (rows : Rows) (pool : Pool),
    (s.execute t sql timeout).Trace es (.ok rows) ∧
      .answered (.fetchPrepared pool statement) (.ok records) ∈ es ∧ o.rows? = some rows

/-- The rows that are printed are those of the records. -/
theorem Printed.rows?_eq (h : Printed statement records o) :
    o.rows? = some (toRows statement records) := by
  obtain ⟨t, s, sql, timeout, es, rows, pool, hrun, hfetch, hrows⟩ := h.ran
  obtain ⟨pool', limit, statement', records', rfl, rfl⟩ := Connector.execute_rows hrun
  simp only [Connector.exchanges, List.mem_cons, List.not_mem_nil, or_false] at hfetch
  rcases hfetch with heq | heq | heq | heq | heq <;> cases heq
  exact hrows

theorem Printed.tables (h : Printed statement records o) :
    o.shown.displays.filter Display.isTable = [.ofRows (toRows statement records)] :=
  tables_shown h.rows?_eq

/-- An outcome with the rows of the records. -/
def ofRecords (statement : Pool.Statement) (records : List Pool.Record) : Outcome :=
  .executed Session.samplePlan "" "" none (toRows statement records) ⟨1, 20, records.length, none⟩

/-- Records of every shape may be printed. -/
theorem printed_ofRecords (hshape : ∀ record ∈ records, record.map (·.1) = statement.columns) :
    Printed statement records (ofRecords statement records) where
  shape := hshape
  ran := by
    have hlimit : Connector.limitStatement (Connector.timeoutOr localTarget none) =
        .ok "SET statement_timeout = 30000" := Session.eq_ok_of_toOption (by decide +kernel)
    exact ⟨localTarget, opened, "", none, _, _, ⟨0⟩,
      Connector.exchanges_trace rfl hlimit, by simp [Connector.exchanges], rfl⟩

/-- **What the table of a result shows.** A statement is run through a connector, and its result is
printed. One table is printed. It shows each value of each record in its row and column exactly if the
values of a record under one name are shown alike. So all results of a statement are shown whole exactly
if the names of its columns are distinct. -/
theorem printed_table_shows_all_iff (statement : Pool.Statement) :
    (∀ records o, Printed statement records o →
      ∃ d, o.shown.displays.filter Display.isTable = [d] ∧
        (d.ShowsAll records ↔ ∀ record ∈ records, record.AlikeByName)) ∧
    ((∀ records o d, Printed statement records o → o.shown.displays.filter Display.isTable = [d] →
      d.ShowsAll records) ↔ statement.columns.Nodup) := by
  refine ⟨fun records o h => ⟨_, h.tables, Display.showsAll_toRows_iff h.shape⟩, fun hall => ?_,
    fun hnodup records o d h htables => ?_⟩
  · refine Classical.byContradiction fun hrepeated => ?_
    obtain ⟨record, hnames, hunlike⟩ := Pool.Record.exists_not_alikeByName hrepeated
    have hshape : ∀ r ∈ [record], r.map (·.1) = statement.columns := by simpa using hnames
    have hprinted := printed_ofRecords hshape
    have hshown := hall [record] _ _ hprinted hprinted.tables
    exact hunlike ((Display.showsAll_toRows_iff hshape).1 hshown record List.mem_cons_self)
  · obtain rfl := List.singleton_inj.1 (h.tables.symm.trans htables)
    refine (Display.showsAll_toRows_iff h.shape).2 fun record hrecord => ?_
    exact .of_nodup (h.shape record hrecord ▸ hnodup)

/-! ### Tables that are joined -/

/-- Two rows over distinct columns are shown whole. -/
theorem distinct_columns_are_shown :
    Printed ⟨["id", "total"]⟩ [[("id", .int 1), ("total", .null)], [("id", .int 2), ("total", .int 7)]]
        (ofRecords ⟨["id", "total"]⟩
          [[("id", .int 1), ("total", .null)], [("id", .int 2), ("total", .int 7)]]) ∧
      (Display.table ["id", "total"] [["1", ""], ["2", "7"]]).ShowsAll
        [[("id", .int 1), ("total", .null)], [("id", .int 2), ("total", .int 7)]] := by
  have hprinted : Printed ⟨["id", "total"]⟩
      [[("id", .int 1), ("total", .null)], [("id", .int 2), ("total", .int 7)]] _ :=
    printed_ofRecords (by decide)
  refine ⟨hprinted, ?_⟩
  refine ((printed_table_shows_all_iff ⟨["id", "total"]⟩).2.2 (by decide)) _ _ _ hprinted ?_
  rw [hprinted.tables]
  decide +kernel

/-- **A value is lost where a name is repeated.** Of a row with two identifiers the table shows the second
one twice. -/
theorem repeated_column_loses_value :
    Printed ⟨["id", "id"]⟩ [[("id", .int 1), ("id", .int 2)]]
        (ofRecords ⟨["id", "id"]⟩ [[("id", .int 1), ("id", .int 2)]]) ∧
      (ofRecords ⟨["id", "id"]⟩ [[("id", .int 1), ("id", .int 2)]]).shown.displays.filter
        Display.isTable = [.table ["id", "id"] [["2", "2"]]] ∧
      ¬ (Display.table ["id", "id"] [["2", "2"]]).ShowsAll [[("id", .int 1), ("id", .int 2)]] := by
  have hprinted : Printed ⟨["id", "id"]⟩ [[("id", .int 1), ("id", .int 2)]] _ :=
    printed_ofRecords (by decide)
  refine ⟨hprinted, ?_, fun hall => ?_⟩
  · rw [hprinted.tables]
    decide +kernel
  · have hcell := hall 0 0 _ _ rfl rfl
    exact absurd hcell (by decide +kernel)

end Outcome

end QueryPlans
