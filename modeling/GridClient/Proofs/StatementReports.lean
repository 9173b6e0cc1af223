import GridClient.Proofs.Settling
import GridClient.Proofs.StatementCursor

/-!
What a statement tells of its latest operation. Whatever was done before, and however the node and
the stream behave, the diagnostics are those of that operation alone, and they fit its result.
-/
namespace GridClient

/-- Warnings that columns were cut short, in ascending order of the columns. -/
structure Truncations (warnings : List StatusRecord) : Prop where
  state : ∀ warning ∈ warnings, warning.state.code = "01004"
  ascending : warnings.Pairwise fun warning later => warning.column < later.column

/-- A record that tells an error: its state, its text, and the place of the column that it is about,
if it is about one. -/
structure TellsError (e : Error) (record : StatusRecord) : Prop where
  state : record.state = e.state
  message : record.message = e.recordText
  locus : ∀ row column, e = .columnRetrieval row column →
    record.row = row ∧ record.column = Int32.ofNat column.toNat
  elsewhere : (∀ row column, e ≠ .columnRetrieval row column) → record.row = 0 ∧ record.column = 0

theorem tellsError_ofError (e : Error) (o : Options) :
    TellsError e ((StatusRecord.ofError e).stamp o) := by
  cases e with
  | columnRetrieval row column =>
    refine ⟨rfl, rfl, ?_, fun h => absurd rfl (h row column)⟩
    rintro _ _ ⟨⟩
    exact ⟨rfl, rfl⟩
  | _ =>
    refine ⟨rfl, rfl, ?_, fun _ => ⟨rfl, rfl⟩⟩
    rintro _ _ ⟨⟩

/-- What an operation that ended with some result returns, and the records that it leaves. They
carry what identifies the connection. -/
inductive Reported (o : Options) : Except Error Outcome → Outcome → List StatusRecord → Prop where
  | success : Reported o (.ok .success) .success []
  | noData : Reported o (.ok .noData) .noData []
  | warned {warnings : List StatusRecord} (some : warnings ≠ []) (cut : Truncations warnings) :
    Reported o (.ok .successWithInfo) .successWithInfo warnings
  | failed {e : Error} {warnings : List StatusRecord} (cut : Truncations warnings)
    (tells : TellsError e ((StatusRecord.ofError e).stamp o)) :
    Reported o (.error e) .error (warnings ++ [(StatusRecord.ofError e).stamp o])

theorem Truncations.of_rowWarnings {row : Int32} {bound : Nat} {warnings : List StatusRecord}
    (h : RowWarnings row bound warnings) (o : Options) :
    Truncations (warnings.map (StatusRecord.stamp o)) := by
  obtain ⟨columns, hascending, _, rfl⟩ := h
  rw [List.map_map]
  refine ⟨fun warning hw => ?_, ?_⟩
  · obtain ⟨column, _, rfl⟩ := List.mem_map.mp hw
    rfl
  · rw [List.pairwise_map]
    refine hascending.imp fun {column later} hlt => ?_
    show Int32.ofNat column.toNat < Int32.ofNat later.toNat
    have hbound := later.toNat_lt
    rw [UInt16.lt_iff_toNat_lt] at hlt
    rw [Int32.lt_iff_toInt_lt, Int32.toInt_ofNat_of_lt (by omega),
      Int32.toInt_ofNat_of_lt (by omega)]
    omega

/-- To complete an operation is to report it. -/
theorem Judged.reported {result : Except Error Outcome} {d : Diagnostics}
    (h : Judged result d.records) (o : Options) :
    Reported o result (d.complete result o).1 (d.complete result o).2.records := by
  obtain ⟨records, hrecords⟩ : ∃ records, d.records = records := ⟨_, rfl⟩
  unfold Diagnostics.complete
  rw [hrecords] at h ⊢
  cases h with
  | success => exact .success
  | noData => exact .noData
  | warned some ascending =>
    exact .warned (fun h => some (List.map_eq_nil_iff.mp h)) (.of_rowWarnings ascending o)
  | failed ascending =>
    simp only [List.map_append]
    exact .failed (.of_rowWarnings ascending o) (tellsError_ofError _ o)

namespace Statement

variable {ν : Type}

/-! ### What an operation leaves in the diagnostics -/

/-- What the inside of an operation, which starts with no records, hands over to be completed. -/
structure Ends (s : Statement ν) (result : Except Error Outcome)
    (p : Except Error Outcome × Statement ν) : Prop where
  ending : p.1 = result
  options : p.2.connection.options = s.connection.options
  judged : Judged result p.2.diagnostics.records

/-- What an operation that ended with some result returns and leaves. -/
structure Reports (s : Statement ν) (result : Except Error Outcome) (p : Outcome × Statement ν) :
    Prop where
  options : p.2.connection.options = s.connection.options
  header : p.2.diagnostics.result = p.1
  origin : ∀ record ∈ p.2.diagnostics.records,
    record.connection = s.connection.options.cache ∧
      record.server =
        s.connection.options.host ++ ":" ++ toString s.connection.options.port.toNat
  records : Reported s.connection.options result p.1 p.2.diagnostics.records

variable {s : Statement ν} {result : Except Error Outcome}

/-- An operation that hands over what can be completed reports it, whatever an earlier one left. -/
theorem reports_run {attempt : Statement ν → Except Error Outcome}
    {operation : Statement ν → Except Error Outcome × Statement ν}
    (hattempt : ∀ s earlier, attempt { s with diagnostics := earlier } = attempt s)
    (h : ∀ s, s.diagnostics.records = [] → Ends s (attempt s) (operation s)) (s : Statement ν) :
    Reports s (attempt s) (run operation s) := by
  have hends := h { s with diagnostics := .reset } rfl
  unfold run
  obtain ⟨⟨ended, s'⟩, hr⟩ : ∃ r, operation { s with diagnostics := .reset } = r := ⟨_, rfl⟩
  rw [hr, hattempt] at hends
  obtain ⟨hending, hoptions, hjudged⟩ := hends
  simp only at hending hoptions hjudged
  simp only [hr, hoptions]
  rw [hending]
  refine ⟨hoptions, rfl, fun record hmem => ?_, hjudged.reported _⟩
  obtain ⟨_, _, rfl⟩ := List.mem_map.mp hmem
  exact ⟨rfl, rfl⟩

/-- What leaves the connection and the diagnostics alone has only its result to report. -/
theorem Ends.of_eq {p : Except Error Outcome × Statement ν} (hending : p.1 = result)
    (hc : p.2.connection = s.connection) (hblank : p.2.diagnostics.records = [])
    (hjudged : Judged result []) : Ends s result p :=
  ⟨hending, congrArg Connection.options hc, hblank ▸ hjudged⟩

variable [Network ν]

/-! ### How an operation ends -/

/-- How it ends to close the query at hand, if there is one. -/
def closed (s : Statement ν) : Except Error Outcome × Connection ν :=
  match s.query with
  | none => (.ok .success, s.connection)
  | some query =>
    let (result, _, connection) := query.close s.connection
    (result, connection)

/-- How it ends to take a query in place of the one at hand and to run it. -/
def taken (s : Statement ν) (query : Query) : Except Error Outcome :=
  match s.closed with
  | (.error e, _) => .error e
  | (.ok _, connection) => (query.execute s.parameters connection).1

/-- How it ends to write the value of an attribute. -/
def attributeWritten (s : Statement ν) (index : UInt16) (attr : ColumnAttribute) (b : DataBuffer) :
    Except Error Outcome :=
  (s.attribute? index attr).bind fun value =>
    let (conversion, _) := match value with
      | .text text => b.putString text
      | .number n => b.putNumber (.int64 n)
    (conversion.report 0 index).map fun warnings => .ofTruncated (!warnings.isEmpty)

/-- How an operation ends, which depends on the query at hand, what is bound and the connection. -/
def attempt (s : Statement ν) : StatementOp → Except Error Outcome
  | .bindColumn index buffer =>
    if index = 0 then .error (.columnIndexOutOfRange 0)
    else (checkBindable buffer).map fun _ => .success
  | .bindParameter index buffer type =>
    if index = 0 then .error (.unboundParameter 0)
    else (checkBindable buffer).bind fun _ =>
      if type.isSupported then .ok .success
      else .error (.notImplemented ("SQL type " ++ type.label ++ " is not supported."))
  | .unbindColumn _ | .unbindAllColumns | .unbindParameter _ | .unbindAllParameters => .ok .success
  | .prepare _ => s.closed.1.map fun _ => .success
  | .execute =>
    match s.query with
    | none => .error .queryNotPrepared
    | some query => (query.execute s.parameters s.connection).1
  | .executeSql sql => s.taken (.ofSql sql)
  | .findColumns schema table column => s.taken (.ofColumns schema table column)
  | .findTables catalog schema table tableType => s.taken (.ofTables catalog schema table tableType)
  | .findForeignKeys primaryKey foreignKey => s.taken (.foreignKeys { primaryKey, foreignKey })
  | .close => s.closed.1
  | .fetch =>
    match s.query with
    | none => .error .queryNotExecuted
    | some query => (query.fetch s.connection s.columns).result
  | .describe => if s.query.isSome then .ok .success else .error .queryNotPrepared
  | .affectedRows => if s.query.isSome then .ok .success else .error .queryNotExecuted
  | .getAttribute index attr buffer => s.attributeWritten index attr buffer

/-- Does one thing with a statement, and what it returns. Descriptors and a number of rows are
returned when all went well. -/
def perform (s : Statement ν) : StatementOp → Outcome × Statement ν
  | .bindColumn index buffer => s.bindColumn index buffer
  | .unbindColumn index => s.unbindColumn index
  | .unbindAllColumns => s.unbindAllColumns
  | .bindParameter index buffer type => s.bindParameter index buffer type
  | .unbindParameter index => s.unbindParameter index
  | .unbindAllParameters => s.unbindAllParameters
  | .prepare sql => s.prepare sql
  | .execute => s.execute
  | .executeSql sql => s.executeSql sql
  | .findColumns schema table column => s.findColumns schema table column
  | .findTables catalog schema table tableType => s.findTables catalog schema table tableType
  | .findForeignKeys primaryKey foreignKey => s.findForeignKeys primaryKey foreignKey
  | .close => s.close
  | .fetch => s.fetch
  | .describe => (if s.describe.1.isSome then .success else .error, s.describe.2)
  | .affectedRows => (if s.affectedRows.1.isSome then .success else .error, s.affectedRows.2)
  | .getAttribute index attr buffer =>
    let (outcome, _, s) := s.getAttribute index attr buffer
    (outcome, s)

theorem snd_perform (s : Statement ν) (op : StatementOp) : (s.perform op).2 = s.apply op := by
  cases op <;> rfl

/-- Earlier diagnostics have no part in an operation. -/
theorem perform_over_diagnostics (s : Statement ν) (earlier : Diagnostics) (op : StatementOp) :
    { s with diagnostics := earlier }.perform op = s.perform op := by
  cases op <;> rfl

/-! ### Every operation reports -/

theorem settles_closed (s : Statement ν) : Settles s.connection s.closed.1 s.closed.2 := by
  unfold closed
  cases s.query with
  | none => exact .refl _
  | some query => exact query.settles_close s.connection

theorem replaceQuery_eq (query : Query) (s : Statement ν) :
    s.replaceQuery query = match s.closed with
      | (.ok _, connection) => (.ok (), { s with connection, query := some query })
      | (.error e, connection) => (.error e, { s with connection, query := none }) := by
  unfold replaceQuery closed
  cases s.query with
  | none => rfl
  | some previous =>
    obtain ⟨⟨result, closed, c⟩, hr⟩ : ∃ r, previous.close s.connection = r := ⟨_, rfl⟩
    simp only [hr]
    cases result <;> rfl

theorem reports_prepare (sql : String) (s : Statement ν) :
    Reports s (s.attempt (.prepare sql)) (s.prepare sql) := by
  apply reports_run (fun _ _ => rfl)
  intro s hblank
  have hclosed := s.settles_closed
  have hreplace := s.replaceQuery_eq (.ofSql sql)
  show Ends s (s.closed.1.map fun _ => .success) _
  obtain ⟨⟨result, c⟩, hr⟩ : ∃ r, s.closed = r := ⟨_, rfl⟩
  rw [hr] at hclosed hreplace
  simp only [hr]
  cases result with
  | ok _ =>
    simp only [hreplace]
    exact ⟨rfl, hclosed.options, hblank ▸ .success⟩
  | error e =>
    simp only [hreplace]
    exact ⟨rfl, hclosed.options, hblank ▸ .error e⟩

theorem ends_executeCurrent (s : Statement ν) (hblank : s.diagnostics.records = []) :
    Ends s (s.attempt .execute) s.executeCurrent := by
  unfold executeCurrent attempt
  cases s.query with
  | none => exact .of_eq rfl rfl hblank (.error _)
  | some query =>
    have hsettles := query.settles_execute s.connection s.parameters
    exact ⟨rfl, hsettles.options, hblank ▸ hsettles.judged⟩

theorem reports_executeQuery (query : Query) (s : Statement ν) :
    Reports s (s.taken query) (s.executeQuery query) := by
  apply reports_run (fun _ _ => rfl)
  intro s hblank
  have hclosed := s.settles_closed
  have hreplace := s.replaceQuery_eq query
  unfold taken
  obtain ⟨⟨result, c⟩, hr⟩ : ∃ r, s.closed = r := ⟨_, rfl⟩
  rw [hr] at hclosed hreplace
  simp only [hr, hreplace]
  cases result with
  | ok _ =>
    have hends := ends_executeCurrent { s with connection := c, query := some query } hblank
    exact ⟨hends.ending, hends.options.trans hclosed.options, hends.judged⟩
  | error e => exact ⟨rfl, hclosed.options, hblank ▸ .error e⟩

theorem reports_close (s : Statement ν) : Reports s (s.attempt .close) s.close := by
  apply reports_run (fun _ _ => rfl)
  intro s hblank
  have hclosed := s.settles_closed
  show Ends s s.closed.1 _
  unfold closed at hclosed ⊢
  cases hq : s.query with
  | none => exact .of_eq rfl rfl hblank .success
  | some query =>
    rw [hq] at hclosed
    exact ⟨rfl, hclosed.options, hblank ▸ hclosed.judged⟩

theorem reports_fetch (s : Statement ν) : Reports s (s.attempt .fetch) s.fetch := by
  apply reports_run (fun _ _ => rfl)
  intro s hblank
  unfold attempt
  cases s.query with
  | none => exact ⟨rfl, rfl, hblank ▸ .error _⟩
  | some query =>
    refine ⟨rfl, query.options_fetch s.connection s.columns, ?_⟩
    show Judged _ (s.diagnostics.records ++ _)
    rw [hblank, List.nil_append]
    exact query.judged_fetch s.connection s.columns

omit [Network ν] in
theorem reports_checkQuery (e : Error) (s : Statement ν) :
    Reports s (if s.query.isSome then .ok .success else .error e) (s.checkQuery e) := by
  apply reports_run (fun _ _ => rfl)
  intro s hblank
  cases s.query with
  | none => exact .of_eq rfl rfl hblank (.error e)
  | some query => exact .of_eq rfl rfl hblank .success

theorem reports_describe (s : Statement ν) :
    Reports s (s.attempt .describe) (s.perform .describe) := by
  have hcheck := s.reports_checkQuery .queryNotPrepared
  obtain ⟨connection, columns, parameters, query, diagnostics⟩ := s
  cases query <;> exact ⟨hcheck.options, hcheck.header, hcheck.origin, hcheck.records⟩

theorem reports_affectedRows (s : Statement ν) :
    Reports s (s.attempt .affectedRows) (s.perform .affectedRows) := by
  have hcheck := s.reports_checkQuery .queryNotExecuted
  obtain ⟨connection, columns, parameters, query, diagnostics⟩ := s
  cases query <;> exact ⟨hcheck.options, hcheck.header, hcheck.origin, hcheck.records⟩

omit [Network ν] in
theorem reports_recordReport {report : Except Error (List StatusRecord)}
    (hwarnings : ∀ warnings, report = .ok warnings → ∃ row bound, RowWarnings row bound warnings)
    (s : Statement ν) :
    Reports s (report.map fun warnings => .ofTruncated (!warnings.isEmpty))
      (s.recordReport report) := by
  apply reports_run (fun _ _ => rfl)
  intro s hblank
  cases report with
  | error e => exact .of_eq rfl rfl hblank (.error e)
  | ok warnings =>
    obtain ⟨row, bound, h⟩ := hwarnings warnings rfl
    refine ⟨rfl, rfl, ?_⟩
    show Judged _ (s.diagnostics.records ++ warnings)
    rw [hblank, List.nil_append]
    exact h.judged

theorem reports_getAttribute (index : UInt16) (attr : ColumnAttribute) (buffer : DataBuffer)
    (s : Statement ν) :
    Reports s (s.attempt (.getAttribute index attr buffer))
      (s.perform (.getAttribute index attr buffer)) := by
  have hreport (conversion : Conversion) : ∀ warnings, conversion.report 0 index = .ok warnings →
      ∃ row bound, RowWarnings row bound warnings := by
    intro warnings h
    exact ⟨0, _, conversion.rowWarnings_of_report h (.nil 0 0) (Nat.zero_le _)⟩
  show Reports s (s.attributeWritten index attr buffer)
    ((s.getAttribute index attr buffer).1, (s.getAttribute index attr buffer).2.2)
  unfold attributeWritten getAttribute
  cases s.attribute? index attr with
  | error e =>
    have hnone (warnings : List StatusRecord) (h : Except.error e = .ok warnings) :
        ∃ row bound, RowWarnings row bound warnings := by cases h
    exact reports_recordReport hnone s
  | ok value =>
    cases value with
    | text text => exact reports_recordReport (hreport (buffer.putString text).1) s
    | number n => exact reports_recordReport (hreport (buffer.putNumber (.int64 n)).1) s

omit [Network ν] in
theorem reports_unbinding (unbind : Statement ν → Statement ν)
    (hc : ∀ s, (unbind s).connection = s.connection)
    (hd : ∀ s, (unbind s).diagnostics = s.diagnostics) (s : Statement ν) :
    Reports s (.ok .success) (run (fun s => (.ok .success, unbind s)) s) := by
  apply reports_run (fun _ _ => rfl)
  intro s hblank
  have hrecords : (unbind s).diagnostics.records = [] := by rw [hd, hblank]
  exact .of_eq rfl (hc s) hrecords .success

theorem reports_bindColumn (index : UInt16) (buffer : DataBuffer) (s : Statement ν) :
    Reports s (s.attempt (.bindColumn index buffer)) (s.bindColumn index buffer) := by
  apply reports_run (fun _ _ => rfl)
  intro s hblank
  unfold attempt
  by_cases hindex : index = 0
  · simp only [hindex, if_true]
    exact .of_eq rfl rfl hblank (.error _)
  · simp only [hindex, if_false]
    cases checkBindable buffer with
    | error e => exact .of_eq rfl rfl hblank (.error e)
    | ok _ => exact .of_eq rfl rfl hblank .success

theorem reports_bindParameter (index : UInt16) (buffer : DataBuffer) (type : SqlType)
    (s : Statement ν) :
    Reports s (s.attempt (.bindParameter index buffer type))
      (s.bindParameter index buffer type) := by
  apply reports_run (fun _ _ => rfl)
  intro s hblank
  unfold attempt
  by_cases hindex : index = 0
  · simp only [hindex, if_true]
    exact .of_eq rfl rfl hblank (.error _)
  · simp only [hindex, if_false]
    cases checkBindable buffer with
    | error e => exact .of_eq rfl rfl hblank (.error e)
    | ok _ =>
      by_cases htype : type.isSupported
      · simp only [htype]
        exact .of_eq rfl rfl hblank .success
      · simp only [htype]
        exact .of_eq rfl rfl hblank (.error _)

/-- Whatever is done with a statement, it reports what was done and how it ended. -/
theorem reports_perform (s : Statement ν) (op : StatementOp) :
    Reports s (s.attempt op) (s.perform op) := by
  cases op with
  | bindColumn index buffer => exact reports_bindColumn index buffer s
  | bindParameter index buffer type => exact reports_bindParameter index buffer type s
  | unbindColumn index =>
    exact reports_unbinding (fun s => { s with columns := s.columns.erase index })
      (fun _ => rfl) (fun _ => rfl) s
  | unbindAllColumns =>
    exact reports_unbinding (fun s => { s with columns := {} }) (fun _ => rfl) (fun _ => rfl) s
  | unbindParameter index =>
    exact reports_unbinding (fun s => { s with parameters := s.parameters.erase index })
      (fun _ => rfl) (fun _ => rfl) s
  | unbindAllParameters =>
    exact reports_unbinding (fun s => { s with parameters := {} }) (fun _ => rfl) (fun _ => rfl) s
  | prepare sql => exact reports_prepare sql s
  | execute => exact reports_run (fun _ _ => rfl) ends_executeCurrent s
  | executeSql sql => exact reports_executeQuery _ s
  | findColumns schema table column => exact reports_executeQuery _ s
  | findTables catalog schema table tableType => exact reports_executeQuery _ s
  | findForeignKeys primaryKey foreignKey => exact reports_executeQuery _ s
  | close => exact reports_close s
  | fetch => exact reports_fetch s
  | describe => exact reports_describe s
  | affectedRows => exact reports_affectedRows s
  | getAttribute index attr buffer => exact reports_getAttribute index attr buffer s

theorem options_applyAll (s : Statement ν) (ops : List StatementOp) :
    (s.applyAll ops).connection.options = s.connection.options := by
  induction ops generalizing s with
  | nil => rfl
  | cons op ops ih =>
    have hstep := (s.reports_perform op).options
    rw [snd_perform] at hstep
    exact (ih (s.apply op)).trans hstep

/-- After any run of operations the diagnostics are about the latest one alone: what it returned,
the warnings of columns cut short, and behind them the record of its error. -/
theorem operations_reported (s : Statement ν) (ops : List StatementOp) (op : StatementOp) :
    let before := s.applyAll ops
    let after := s.applyAll (ops ++ [op])
    let returned := (before.perform op).1
    before.perform op = (returned, after) ∧
      (∀ earlier, { before with diagnostics := earlier }.perform op = (returned, after)) ∧
      after.diagnostics.result = returned ∧
      (∀ record ∈ after.diagnostics.records,
        record.connection = s.connection.options.cache ∧
          record.server =
            s.connection.options.host ++ ":" ++ toString s.connection.options.port.toNat) ∧
      Reported s.connection.options (before.attempt op) returned after.diagnostics.records := by
  intro before after returned
  have hperform : before.perform op = (returned, after) := by
    refine Prod.ext rfl ?_
    show (before.perform op).2 = s.applyAll (ops ++ [op])
    rw [snd_perform, applyAll, List.foldl_append]
    rfl
  have hreports := before.reports_perform op
  have hoptions : before.connection.options = s.connection.options := s.options_applyAll ops
  rw [hperform] at hreports
  obtain ⟨_, hheader, horigin, hrecords⟩ := hreports
  rw [hoptions] at horigin hrecords
  refine ⟨hperform, fun earlier => ?_, hheader, horigin, hrecords⟩
  exact (before.perform_over_diagnostics earlier op).trans hperform

end Statement

end GridClient
