import QueryPlans.Proofs.Database.Faults
import QueryPlans.Proofs.Number.Written
import QueryPlans.Proofs.Session.Calls

/-!
# Answers of a connector

Whatever the driver does, a call on a connector ends with a value or with a fault of the connector, of
the kind that belongs to the call.  Two things come through: a cancellation, and, when the server cancels
a statement whose time limit is a number too long to be written, the failure to write it.  Where another fault
comes in giving a connection back, that fault takes the place of both, and is translated.

* `Catalogue.IsColumn`, `Catalogue.IsForeignKey` — rows with the columns that were asked for.
* `Pool.Uncancelled`, `Pool.ServerCanceled`, `Pool.LimitUnwritten` — what the driver answered.
* `Connector.IsReport` — a fault of the connector.
* `Connector.Translated` — a result in which every fault of the driver is translated.

Principal results: `answer_translated` — every answer of a connector is such a result;
`execute_translated` — so is a statement with a time limit of its own; `execute_rows` — the rows of a statement
come from its records.
-/

namespace QueryPlans

/-! ## Rows of the catalogue -/

namespace Catalogue

/-- A row of the catalogue that describes a column. -/
structure IsColumn (row : Json.Fields) : Prop where
  name : ∃ s, row.get? "column_name" = some (.str s)
  dataType : ∃ s, row.get? "data_type" = some (.str s)
  nullable : ∃ s, row.get? "is_nullable" = some (.str s)
  default : row.get? "column_default" = some .null ∨ ∃ s, row.get? "column_default" = some (.str s)
  primary : ∃ b, row.get? "is_primary_key" = some (.bool b)

/-- A row of the catalogue that describes a foreign key. -/
structure IsForeignKey (row : Json.Fields) : Prop where
  constraint : ∃ s, row.get? "constraint_name" = some (.str s)
  column : ∃ s, row.get? "column_name" = some (.str s)
  table : ∃ s, row.get? "foreign_table_name" = some (.str s)
  foreignColumn : ∃ s, row.get? "foreign_column_name" = some (.str s)

variable {row : Json.Fields} {v : Json} {key : String}

theorem value_eq_ok (h : row.get? key = some v) : value row key = .ok v := by
  unfold value
  rw [h]

theorem IsColumn.column_eq_ok (h : IsColumn row) (reports : Reports) :
    ∃ c, column reports row = .ok c := by
  obtain ⟨⟨name, hname⟩, ⟨dataType, htype⟩, ⟨nullable, hnullable⟩, hdefault, ⟨primary, hprimary⟩⟩ := h
  unfold column
  rw [value_eq_ok hname, value_eq_ok htype, value_eq_ok hnullable, value_eq_ok hprimary]
  rcases hdefault with hnull | ⟨default, htext⟩
  · rw [value_eq_ok hnull]
    exact ⟨_, rfl⟩
  · rw [value_eq_ok htext]
    exact ⟨_, rfl⟩

theorem IsForeignKey.foreignKey_eq_ok (h : IsForeignKey row) (reports : Reports) :
    ∃ k, foreignKey reports row = .ok k := by
  obtain ⟨⟨constraint, hconstraint⟩, ⟨column, hcolumn⟩, ⟨table, htable⟩, ⟨foreign, hforeign⟩⟩ := h
  unfold foreignKey
  rw [value_eq_ok hconstraint, value_eq_ok hcolumn, value_eq_ok htable, value_eq_ok hforeign]
  exact ⟨_, rfl⟩

end Catalogue

theorem exists_mapM_eq_ok {ε α β : Type} {k : α → Except ε β} {xs : List α}
    (h : ∀ x ∈ xs, ∃ y, k x = .ok y) : ∃ ys, xs.mapM k = .ok ys := by
  induction xs with
  | nil => exact ⟨[], rfl⟩
  | cons x xs ih =>
    obtain ⟨y, hy⟩ := h x List.mem_cons_self
    obtain ⟨ys, hys⟩ := ih fun x hx => h x (List.mem_cons_of_mem _ hx)
    refine ⟨y :: ys, ?_⟩
    rw [List.mapM_cons, hy, hys]
    rfl

/-! ## What the driver answered -/

namespace Pool

/-- Nothing was given up from outside. -/
def Uncancelled (es : List (Event Pool.interface)) : Prop :=
  ∀ f, Raises es f → f.isCancellation = false

/-- The server cancelled what it was asked for. -/
def ServerCanceled (es : List (Event Pool.interface)) : Prop :=
  ∃ f, Raises es f ∧ f.isOneOf [.queryCanceled] = true

/-- The server cancelled what it was asked for within a time that cannot be written. -/
def LimitUnwritten (seconds : Int) (es : List (Event Pool.interface)) : Prop :=
  ¬ Numeral.IsWritable seconds ∧ ServerCanceled es

/-- The rows of the catalogue have the columns that were asked for. -/
structure CatalogueTyped (es : List (Event Pool.interface)) : Prop where
  columns : ∀ pool arguments (rows : List Record), .answered
    (.fetch pool Catalogue.columnsQuery arguments) (.ok rows) ∈ es →
      ∀ row ∈ rows, Catalogue.IsColumn row.toFields
  foreignKeys : ∀ pool arguments (rows : List Record), .answered
    (.fetch pool Catalogue.foreignKeysQuery arguments) (.ok rows) ∈ es →
      ∀ row ∈ rows, Catalogue.IsForeignKey row.toFields

/-- What counts the rows of a statement is an integer or null. -/
def CountsTyped (es : List (Event Pool.interface)) : Prop :=
  ∀ pool sql v, (.answered (.fetchValue pool sql []) (.ok v) : Event Pool.interface) ∈ es →
    v = .null ∨ ∃ n, v = .int n

variable {es fs : List (Event Pool.interface)} {seconds : Int}

theorem Uncancelled.mono (h : Uncancelled fs) (hsub : es ⊆ fs) : Uncancelled es :=
  fun f hraises => h f (hraises.mono hsub)

theorem ServerCanceled.mono (h : ServerCanceled es) (hsub : es ⊆ fs) : ServerCanceled fs := by
  obtain ⟨f, hraises, hserver⟩ := h
  exact ⟨f, hraises.mono hsub, hserver⟩

theorem CatalogueTyped.mono (h : CatalogueTyped fs) (hsub : es ⊆ fs) : CatalogueTyped es where
  columns pool arguments rows hmem := h.columns pool arguments rows (hsub hmem)
  foreignKeys pool arguments rows hmem := h.foreignKeys pool arguments rows (hsub hmem)

end Pool

/-! ## Faults of the connector -/

/-- The kind of fault that belongs to a call. -/
def Database.Call.faultKind : Database.Call → Fault.Kind
  | connect => .connection
  | close => .connection
  | execute _ => .query
  | fetchValue _ => .query
  | describeColumns _ => .schema
  | describeForeignKeys _ => .schema
  | tableExists _ => .schema

namespace Connector

open Pool (Released ReleasedBut Uncancelled ServerCanceled LimitUnwritten CatalogueTyped)
open Program (Forwards)

variable {α β : Type} {w : Wording} {f g : Fault} {es : List (Event Pool.interface)} {t : Target}
  {s s' : Connector} {r : Except Fault α} {kind : Fault.Kind} {unwritten : Prop}

/-- A fault of the connector: of the kind of the call, or that it is not connected. -/
def IsReport (s : Connector) (kind : Fault.Kind) (f : Fault) : Prop :=
  (∃ message, f = .raised kind message) ∨ s.activePool? = none ∧ f = notConnected

/-- A result in which every fault of the driver is translated: a fault ends the call, a cancellation as
it is, and any other in a report of the connector, unless the time limit of a cancelled statement cannot
be written. A fault that comes in giving a connection back takes the place of those before it. -/
structure Translated (s : Connector) (kind : Fault.Kind) (unwritten : Prop)
    (es : List (Event Pool.interface)) (r : Except Fault α) : Prop where
  failed : ∀ g, Raises es g → ∃ f, r = .error f
  cancelled : ∀ g, ReleasedBut g es → Raises es g → g.isCancellation = true → r = .error g
  reported : Uncancelled es → ¬ unwritten → ∀ f, r = .error f → s.IsReport kind f
  unwritten : Released es → Uncancelled es → unwritten → r = .error (.ofNumeral .tooLongToWrite)

theorem Translated.congr {u v : Prop} (h : s.Translated kind u es r) (huv : u ↔ v) :
    s.Translated kind v es r := by
  rwa [← propext huv]

/-- What is covered by a wording is translated. -/
theorem Wording.Covers.translated (h : w.Covers es r) {unwritten : Prop}
    (hwritten : ¬ unwritten → ∀ e, ∃ report, w.canceled e = .ok report)
    (hunwritten : unwritten → ∀ e, w.canceled e = .error .tooLongToWrite) :
    s.Translated w.kind (unwritten ∧ ServerCanceled es) es r where
  failed := h.fails
  cancelled g hreleased hraises hcancelled := by
    rw [h.stops g hreleased hraises, reported_of_cancellation hcancelled]
  reported huncancelled hlimit f heq := by
    obtain ⟨g, rfl, hg⟩ := h.only f heq
    rcases hg with hraises | ⟨hordinary, hplain⟩
    · refine .inl (reported_kind (huncancelled g hraises) fun hserver => ?_)
      exact hwritten (fun hnot => hlimit ⟨hnot, g, hraises, hserver⟩) g.message
    · exact .inl (reported_kind hordinary fun hserver => nomatch hplain.symm.trans hserver)
  unwritten hreleased _ hlimit := by
    obtain ⟨hnot, g, hraises, hserver⟩ := hlimit
    rw [h.stops g (hreleased.but g) hraises, reported_unwritten hserver (hunwritten hnot _)]

/-- Without a word of the time limit everything can be written. -/
theorem Wording.Covers.translated_plain (h : w.Covers es r)
    (hplain : ∀ e, ∃ report, w.canceled e = .ok report) : s.Translated w.kind False es r := by
  have htranslated : s.Translated w.kind (False ∧ ServerCanceled es) es r :=
    h.translated (fun _ => hplain) False.elim
  rwa [false_and] at htranslated

/-- A call that is refused before the driver is asked. -/
theorem translated_of_notConnected (hpool : s.activePool? = none)
    (hlimit : ¬ unwritten) : s.Translated kind unwritten [] (.error notConnected : Except Fault α) where
  failed _ hraises := absurd hraises not_raises_nil
  cancelled _ _ hraises := absurd hraises not_raises_nil
  reported _ _ f heq := by
    cases heq
    exact .inr ⟨hpool, rfl⟩
  unwritten _ _ h := absurd h hlimit

theorem not_serverCanceled_nil : ¬ ServerCanceled [] := by
  rintro ⟨g, hraises, -⟩
  exact not_raises_nil hraises

/-! ## Statements -/

/-- The wording tells the time limit of a statement that the server cancelled. -/
structure Wording.Tells (w : Wording) (seconds : Int) : Prop where
  written : Numeral.IsWritable seconds → ∀ e, ∃ report, w.canceled e = .ok report
  unwritten : ¬ Numeral.IsWritable seconds → ∀ e, w.canceled e = .error .tooLongToWrite

theorem timedOut_eq_ok {what sql : String} {seconds : Int} (h : Numeral.IsWritable seconds) :
    ∃ report, timedOut what sql seconds = .ok report := by
  unfold timedOut
  rw [Numeral.write?_eq_ok h]
  exact ⟨_, rfl⟩

theorem timedOut_eq_error {what sql : String} {seconds : Int} (h : ¬ Numeral.IsWritable seconds) :
    timedOut what sql seconds = .error .tooLongToWrite := by
  unfold timedOut
  rw [Numeral.write?_eq_error h]
  rfl

theorem executing_tells (sql : String) (seconds : Int) : (executing sql seconds).Tells seconds :=
  ⟨fun h _ => timedOut_eq_ok h, fun h _ => timedOut_eq_error h⟩

theorem fetchingValue_tells (sql : String) (seconds : Int) :
    (fetchingValue sql seconds).Tells seconds :=
  ⟨fun h _ => timedOut_eq_ok h, fun h _ => timedOut_eq_error h⟩

/-- A statement through the pool, in a wording that tells its time limit. -/
theorem withPool_translated {p : Pool → PoolProgram (Except Fault α)} {seconds : Int}
    (hp : ∀ pool, Forwards Fault.IsPlain (p pool)) (hw : w.Tells seconds)
    (h : (s.withPool w p).Trace es r) : s.Translated w.kind (LimitUnwritten seconds es) es r := by
  rcases withPool_trace hp h with ⟨hpool, rfl, rfl⟩ | ⟨-, hcovers⟩
  · exact translated_of_notConnected hpool fun hlimit => not_serverCanceled_nil hlimit.2
  · exact hcovers.translated (fun hnot => hw.written (Classical.not_not.1 hnot)) hw.unwritten

/-- A statement through the pool, in a wording without numbers. -/
theorem withPool_translated_plain {p : Pool → PoolProgram (Except Fault α)}
    (hp : ∀ pool, Forwards Fault.IsPlain (p pool))
    (hplain : ∀ e, ∃ report, w.canceled e = .ok report) (h : (s.withPool w p).Trace es r) :
    s.Translated w.kind False es r := by
  rcases withPool_trace hp h with ⟨hpool, rfl, rfl⟩ | ⟨-, hcovers⟩
  · exact translated_of_notConnected hpool not_false
  · exact hcovers.translated_plain hplain

/-- A statement with a time limit. -/
theorem execute_translated {sql : String} {timeout : Option Int} {r : Except Fault Rows}
    (h : (s.execute t sql timeout).Trace es r) :
    s.Translated .query (LimitUnwritten (timeoutOr t timeout) es) es r :=
  withPool_translated (runStatement_forwards sql _) (executing_tells sql _) h

/-- The exchanges of a statement that is answered with records. -/
def exchanges (pool : Pool) (limit sql : String) (statement : Pool.Statement)
    (records : List Pool.Record) : List (Event Pool.interface) :=
  [.answered (.acquire pool) (.ok ()), .answered (.execute pool limit) (.ok ()),
    .answered (.prepare pool sql) (.ok statement),
    .answered (.fetchPrepared pool statement) (.ok records), .answered (.release pool) (.ok ())]

/-- The rows of a statement are those of the records that the driver gave, the only ones that it was
asked for. -/
theorem execute_rows {sql : String} {timeout : Option Int} {rows : Rows}
    (h : (s.execute t sql timeout).Trace es (.ok rows)) :
    ∃ pool limit statement records, rows = toRows statement records ∧
      es = exchanges pool limit sql statement records := by
  obtain ⟨pool, done, rfl, hrun⟩ := withPool_ok h
  unfold runStatement at hrun
  split at hrun
  · cases (Program.trace_done_iff.1 hrun).2
  rename_i limit _
  obtain ⟨limited, tail, rfl, hlimited⟩ := Program.trace_call_bind_iff.1 hrun
  cases limited with
  | error f => cases (Program.trace_done_iff.1 hlimited).2
  | ok u =>
    obtain ⟨prepared, tail, rfl, hprepared⟩ := Program.trace_call_bind_iff.1 hlimited
    cases prepared with
    | error f => cases (Program.trace_done_iff.1 hprepared).2
    | ok statement =>
      obtain ⟨fetched, tail, rfl, hfetched⟩ := Program.trace_call_bind_iff.1 hprepared
      cases fetched with
      | error f => cases (Program.trace_done_iff.1 hfetched).2
      | ok records =>
        obtain ⟨rfl, heq⟩ := Program.trace_done_iff.1 hfetched
        cases heq
        exact ⟨pool, limit, statement, records, rfl, rfl⟩

/-- A connected connector runs a statement so, whatever columns and records the driver gives. -/
theorem exchanges_trace {sql limit : String} {timeout : Option Int} {pool : Pool}
    {statement : Pool.Statement} {records : List Pool.Record} (hpool : s.activePool? = some pool)
    (hlimit : limitStatement (timeoutOr t timeout) = .ok limit) :
    (s.execute t sql timeout).Trace (exchanges pool limit sql statement records)
      (.ok (toRows statement records)) := by
  unfold execute withPool reporting runStatement
  simp only [hpool, hlimit]
  exact .ask _ (.ask _ (.ask _ (.ask _ (.ask _ (.done _)))))

theorem fetchValue_translated {sql : String} {r : Except Fault Json}
    (h : (s.fetchValue t sql).Trace es r) :
    s.Translated .query (LimitUnwritten t.timeout es) es r :=
  withPool_translated (fun pool => .of_call (Pool.Call.fetchValue pool sql []))
    (fetchingValue_tells sql _) h

/-- A value was given by the driver. -/
theorem fetchValue_value {sql : String} {v : Json} (h : (s.fetchValue t sql).Trace es (.ok v)) :
    ∃ pool, .answered (.fetchValue pool sql []) (.ok v) ∈ es := by
  obtain ⟨pool, done, rfl, hnext⟩ := withPool_ok h
  obtain ⟨reply, rest, rfl, hend⟩ := Program.trace_ask_iff.1 hnext
  obtain ⟨rfl, rfl⟩ := Program.trace_done_iff.1 hend
  exact ⟨pool, by simp⟩

/-- Nothing is sent with a time limit that cannot be written. -/
theorem runStatement_of_long {sql : String} {seconds : Int} (pool : Pool)
    (hlong : ¬ Numeral.IsWritable seconds) :
    runStatement sql seconds pool = .done (.error (.ofNumeral .tooLongToWrite)) := by
  have hlimit : limitStatement seconds = .error (.ofNumeral .tooLongToWrite) := by
    unfold limitStatement
    rw [Numeral.write?_eq_error fun hmore => hlong hmore.of_mul]
    rfl
  unfold runStatement
  rw [hlimit]
  rfl

/-- A statement is sent only with a time limit that can be written. -/
theorem execute_writable {sql : String} {timeout : Option Int} {rows : Rows}
    (h : (s.execute t sql timeout).Trace es (.ok rows)) :
    Numeral.IsWritable (timeoutOr t timeout) := by
  obtain ⟨pool, done, -, hnext⟩ := withPool_ok h
  refine Classical.byContradiction fun hlong => ?_
  rw [runStatement_of_long pool hlong] at hnext
  cases (Program.trace_done_iff.1 hnext).2

/-- If the time limit cannot be written, the driver is only asked for a connection and given it back, so that
it raises one fault at most. -/
theorem execute_unwritten {sql : String} {timeout : Option Int} {r : Except Fault Rows}
    (hlong : ¬ Numeral.IsWritable (timeoutOr t timeout)) (h : (s.execute t sql timeout).Trace es r)
    (hserver : ServerCanceled es) : r = .error (.ofNumeral .tooLongToWrite) := by
  obtain ⟨g, hraises, hg⟩ := hserver
  unfold execute withPool at h
  split at h
  · obtain ⟨rfl, -⟩ := Program.trace_done_iff.1 h
    exact absurd hraises not_raises_nil
  · rename_i pool hpool
    dsimp only at h
    rw [runStatement_of_long pool hlong] at h
    rcases reporting_trace h with ⟨a, hmain, rfl⟩ | ⟨main, notes, f, hmain, hnotes, rfl, rfl⟩
    · cases withConnection_stops hmain hraises
    · cases withConnection_stops hmain ((raises_append.1 hraises).resolve_right hnotes.not_raises)
      rw [reported_unwritten hg ((executing_tells sql _).unwritten hlong _)]

/-! ## The catalogue -/

theorem fetchCatalogue_translated {sql table : String} {r : Except Fault (List Pool.Record)}
    (hplain : ∀ e, ∃ report, w.canceled e = .ok report)
    (h : (s.fetchCatalogue t w sql table).Trace es r) : s.Translated w.kind False es r :=
  withPool_translated_plain (fun _ => .of_call _) hplain h

/-- Rows of the catalogue were given by the driver. -/
theorem fetchCatalogue_rows {sql table : String} {rows : List Pool.Record}
    (h : (s.fetchCatalogue t w sql table).Trace es (.ok rows)) :
    ∃ pool, .answered (.fetch pool sql [t.schemaName, table]) (.ok rows) ∈ es := by
  obtain ⟨pool, done, rfl, hnext⟩ := withPool_ok h
  obtain ⟨reply, rest, rfl, hend⟩ := Program.trace_ask_iff.1 hnext
  obtain ⟨rfl, rfl⟩ := Program.trace_done_iff.1 hend
  exact ⟨pool, by simp⟩

/-- What is made of the rows of the catalogue: a value for rows with the right columns, or a fault of the
connector's own. -/
theorem Translated.ofRows {rows : Except Fault (List Pool.Record)} {r : Except Fault β}
    (h : s.Translated .schema False es rows) (herror : ∀ f, rows = .error f → r = .error f)
    (hok : ∀ records, rows = .ok records →
      (∃ a, r = .ok a) ∨ ∃ message, r = .error (.raised .schema message)) :
    s.Translated .schema False es r where
  failed g hraises := by
    obtain ⟨f, hf⟩ := h.failed g hraises
    exact ⟨f, herror f hf⟩
  cancelled g hreleased hraises hcancelled := herror g (h.cancelled g hreleased hraises hcancelled)
  reported huncancelled hlimit f heq := by
    cases hrows : rows with
    | error f' =>
      rw [herror f' hrows] at heq
      cases heq
      exact h.reported huncancelled hlimit f hrows
    | ok records =>
      rcases hok records hrows with ⟨a, ha⟩ | ⟨message, hmessage⟩
      · rw [ha] at heq
        cases heq
      · rw [hmessage] at heq
        cases heq
        exact .inl ⟨message, rfl⟩
  unwritten _ _ hlimit := hlimit.elim

theorem describeColumns_translated {table : String} {r : Except Fault (List Column)}
    (htyped : CatalogueTyped es) (h : (s.describeColumns t table).Trace es r) :
    s.Translated .schema False es r := by
  obtain ⟨es₁, es₂, rows, hrows, hrest, rfl⟩ := Program.trace_bind_iff.1 h
  have hplain : ∀ e, ∃ report, (describing table).canceled e = .ok report := fun e => ⟨_, rfl⟩
  have htranslated := fetchCatalogue_translated hplain hrows
  cases rows with
  | error f =>
    obtain ⟨rfl, rfl⟩ := Program.trace_done_iff.1 hrest
    rw [List.append_nil]
    exact htranslated.ofRows (fun f' heq => by cases heq; rfl) fun _ heq => nomatch heq
  | ok records =>
    cases records with
    | nil =>
      obtain ⟨rfl, rfl⟩ := Program.trace_done_iff.1 hrest
      rw [List.append_nil]
      exact htranslated.ofRows (fun _ heq => nomatch heq) fun _ _ => .inr ⟨_, rfl⟩
    | cons first others =>
      obtain ⟨rfl, rfl⟩ := Program.trace_done_iff.1 hrest
      rw [List.append_nil] at htyped ⊢
      obtain ⟨pool, hmem⟩ := fetchCatalogue_rows hrows
      refine htranslated.ofRows (fun _ heq => nomatch heq) fun _ _ => .inl ?_
      exact exists_mapM_eq_ok fun row hrow =>
        (htyped.columns pool _ _ hmem row hrow).column_eq_ok t.reports

theorem describeForeignKeys_translated {table : String} {r : Except Fault (List ForeignKey)}
    (htyped : CatalogueTyped es) (h : (s.describeForeignKeys t table).Trace es r) :
    s.Translated .schema False es r := by
  obtain ⟨es₁, es₂, rows, hrows, hrest, rfl⟩ := Program.trace_bind_iff.1 h
  have hplain : ∀ e, ∃ report, (readingForeignKeys table).canceled e = .ok report := fun e => ⟨_, rfl⟩
  have htranslated := fetchCatalogue_translated hplain hrows
  cases rows with
  | error f =>
    obtain ⟨rfl, rfl⟩ := Program.trace_done_iff.1 hrest
    rw [List.append_nil]
    exact htranslated.ofRows (fun f' heq => by cases heq; rfl) fun _ heq => nomatch heq
  | ok records =>
    obtain ⟨rfl, rfl⟩ := Program.trace_done_iff.1 hrest
    rw [List.append_nil] at htyped ⊢
    obtain ⟨pool, hmem⟩ := fetchCatalogue_rows hrows
    refine htranslated.ofRows (fun _ heq => nomatch heq) fun _ _ => .inl ?_
    exact exists_mapM_eq_ok fun row hrow =>
      (htyped.foreignKeys pool _ _ hmem row hrow).foreignKey_eq_ok t.reports

theorem tableExists_translated {name : String} {r : Except Fault Bool}
    (h : (s.tableExists t name).Trace es r) : s.Translated .schema False es r := by
  refine withPool_translated_plain (fun pool => ?_) (fun e => ⟨_, rfl⟩) h
  exact (Forwards.of_call (Pool.Call.fetchValue pool _ _)).andThen (fun _ => rfl) fun _ => .of_ok _

/-! ## Answers -/

/-- Every answer of a connector translates the faults of the driver. -/
theorem answer_translated {c : Database.Call} {r : Except Fault c.Value} (htyped : CatalogueTyped es)
    (h : (s.answer t c).Trace es (r, s')) :
    s.Translated c.faultKind (c.isData = true ∧ LimitUnwritten t.timeout es) es r := by
  have hsilent {limit : Prop} (hdata : c.isData = false) : False ↔ c.isData = true ∧ limit := by
    simp [hdata]
  have hdata {limit : Prop} (hdata : c.isData = true) : limit ↔ c.isData = true ∧ limit := by
    simp [hdata]
  cases c with
  | connect => exact ((connect_trace h).translated_plain fun _ => ⟨_, rfl⟩).congr (hsilent rfl)
  | close => exact ((close_trace h).translated_plain fun _ => ⟨_, rfl⟩).congr (hsilent rfl)
  | execute sql =>
    obtain ⟨_, hcall, heq⟩ := Program.trace_map_iff.1 h
    cases heq
    exact (execute_translated hcall).congr (hdata rfl)
  | fetchValue sql =>
    obtain ⟨_, hcall, heq⟩ := Program.trace_map_iff.1 h
    cases heq
    exact (fetchValue_translated hcall).congr (hdata rfl)
  | describeColumns table =>
    obtain ⟨_, hcall, heq⟩ := Program.trace_map_iff.1 h
    cases heq
    exact (describeColumns_translated htyped hcall).congr (hsilent rfl)
  | describeForeignKeys table =>
    obtain ⟨_, hcall, heq⟩ := Program.trace_map_iff.1 h
    cases heq
    exact (describeForeignKeys_translated htyped hcall).congr (hsilent rfl)
  | tableExists name =>
    obtain ⟨_, hcall, heq⟩ := Program.trace_map_iff.1 h
    cases heq
    exact (tableExists_translated hcall).congr (hsilent rfl)

end Connector

end QueryPlans
