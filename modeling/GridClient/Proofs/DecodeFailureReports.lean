import GridClient.Proofs.DecoderFailures
import GridClient.Proofs.StatementReports
import GridClient.Proofs.UndecodableColumn

/-!
What a statement tells of a column that cannot be decoded. When a fetch comes to the column in the
row that it enters, the last record names the place, and no further row is announced. When the
column is left over of a row that was given up, the record is that of the decoder, which knows of
no place, and the statement goes on to announce a further row.
-/
namespace GridClient

theorem Row.Undecodable.malformed {row : Row} {e : Error} (h : row.Undecodable e) :
    e.Malformed := by
  obtain ⟨_, reader, hfail⟩ := h
  exact Decoder.failsOnMalformed_columnValue _ _ _ hfail

/-! ### Queries that have no row to come until they are run again -/

/-- What runs a query. -/
def StatementOp.runs : StatementOp → Bool
  | execute | executeSql _ | findColumns _ _ _ | findTables _ _ _ _ | findForeignKeys _ _ => true
  | _ => false

namespace Query

variable {ν : Type} [Network ν] {query : Query}

/-- A query in SQL that has no cursor or is stalled. -/
inductive Ended : Query → Prop where
  | closed {q : DataQuery} (cursor_eq : q.cursor = none) : Ended (.data q)
  | stalled {q : DataQuery} {place : Int32 × UInt16} (stalled_eq : q.stalled = some place) :
    Ended (.data q)

theorem Ended.dataAvailable (h : query.Ended) : query.dataAvailable = false := by
  cases h with
  | closed cursor_eq =>
    simp only [Query.dataAvailable, DataQuery.dataAvailable, cursor_eq, Option.any_none,
      Bool.and_false]
  | stalled stalled_eq =>
    simp only [Query.dataAvailable, DataQuery.dataAvailable, stalled_eq, Option.isNone_some,
      Bool.false_and]

theorem Ended.fetch (h : query.Ended) (c : Connection ν) (bound : Bindings DataBuffer) :
    (query.fetch c bound).query.Ended := by
  cases h with
  | closed cursor_eq =>
    rename_i q
    show Ended (.data (q.fetch c bound).query)
    rw [DataQuery.fetch_of_unopened cursor_eq]
    exact .closed cursor_eq
  | stalled stalled_eq =>
    rename_i q place
    show Ended (.data (q.fetch c bound).query)
    unfold DataQuery.fetch
    split
    · exact .stalled stalled_eq
    · simp only [stalled_eq]
      exact .stalled stalled_eq

theorem Ended.close (h : query.Ended) (c : Connection ν) : (query.close c).2.1.Ended := by
  cases h with
  | closed => exact .closed (DataQuery.cursor_of_close _ c)
  | stalled => exact .closed (DataQuery.cursor_of_close _ c)

end Query

namespace Statement

variable {ν : Type} {s s' : Statement ν}

/-- The query at hand has no row to come until it is run again. -/
def Ended (s : Statement ν) : Prop := ∀ query, s.query = some query → query.Ended

theorem Ended.dataAvailable [Network ν] (h : s.Ended) : s.dataAvailable = false := by
  unfold Statement.dataAvailable
  cases hq : s.query with
  | none => rfl
  | some query => exact (h query hq).dataAvailable

theorem Ended.of_eq (h : s.Ended) (hq : s'.query = s.query) : s'.Ended :=
  fun query h' => h query (hq ▸ h')

theorem Ended.run {operation : Statement ν → Except Error Outcome × Statement ν}
    (hstep : ∀ s, s.Ended → (operation s).2.Ended) (h : s.Ended) :
    (Statement.run operation s).2.Ended :=
  hstep { s with diagnostics := .reset } h

variable [Network ν]

/-- A query that has just been prepared has not been run. -/
theorem ended_replaceQuery (sql : String) (s : Statement ν) :
    (s.replaceQuery (.ofSql sql)).2.Ended := by
  have hnew : Query.Ended (.ofSql sql) := .closed rfl
  unfold Statement.replaceQuery
  cases hq : s.query with
  | none =>
    rintro query ⟨⟩
    exact hnew
  | some previous =>
    obtain ⟨⟨result, closed, c⟩, hr⟩ : ∃ r, previous.close s.connection = r := ⟨_, rfl⟩
    simp only [hr]
    cases result with
    | ok _ =>
      rintro query ⟨⟩
      exact hnew
    | error e => rintro query ⟨⟩

theorem Ended.prepare (h : s.Ended) (sql : String) : (s.prepare sql).2.Ended := by
  refine Ended.run (fun s _ => ?_) h
  have hreplace := ended_replaceQuery sql s
  obtain ⟨⟨result, s₁⟩, hr⟩ : ∃ r, s.replaceQuery (.ofSql sql) = r := ⟨_, rfl⟩
  rw [hr] at hreplace
  simp only [hr]
  cases result <;> exact hreplace

theorem Ended.close (h : s.Ended) : s.close.2.Ended := by
  refine Ended.run (fun s h => ?_) h
  cases hq : s.query with
  | none => exact h
  | some query =>
    rintro closed ⟨⟩
    exact (h query hq).close s.connection

theorem Ended.fetch (h : s.Ended) : s.fetch.2.Ended := by
  refine Ended.run (fun s h => ?_) h
  cases hq : s.query with
  | none => exact h
  | some query =>
    rintro fetched ⟨⟩
    exact (h query hq).fetch s.connection s.columns

theorem Ended.apply (h : s.Ended) {op : StatementOp} (hop : op.runs = false) :
    (s.apply op).Ended := by
  by_cases hkeeps : op.keepsQuery = true
  · exact h.of_eq (s.sameQuery_apply hkeeps).query_eq
  · cases op with
    | execute | executeSql | findColumns | findTables | findForeignKeys => cases hop
    -- The others take a query that has not been run, or give up its cursor, or change nothing.
    | prepare sql => exact h.prepare sql
    | close => exact h.close
    | fetch => exact h.fetch
    | _ => exact absurd rfl hkeeps

/-- Whatever is done afterwards, no row is announced until a query is run. -/
theorem Ended.applyAll (h : s.Ended) (ops : List StatementOp)
    (hops : ∀ op ∈ ops, op.runs = false) : (s.applyAll ops).Ended := by
  induction ops generalizing s with
  | nil => exact h
  | cons op ops ih =>
    exact ih (h.apply (hops op List.mem_cons_self))
      fun op hop => hops op (List.mem_cons_of_mem _ hop)

end Statement

/-! ### The records of a fetch that comes to such a column -/

namespace DataQuery

variable {ν : Type} [Network ν] {q : DataQuery} {c : Connection ν} {columns : Bindings DataBuffer}

/-- The next fetch fails at this column of this row: it enters the row and cannot decode the
column, or an earlier fetch could not. -/
inductive FailsAt (q : DataQuery) (c : Connection ν) (columns : Bindings DataBuffer) :
    Int32 → UInt16 → Prop where
  | entering {cursor : Cursor} {values : List ColumnValue} {stop : Row} {c' : Connection ν}
    (unreadable : q.Unreadable c columns cursor values stop c') :
    FailsAt q c columns (q.rowNumber + 1) (columnNumber values.length)
  | stalled {cursor : Cursor} {row : Int32} {column : UInt16} (cursor_eq : q.cursor = some cursor)
    (stalled_eq : q.stalled = some (row, column)) : FailsAt q c columns row column

theorem FailsAt.fetch {row : Int32} {column : UInt16} (h : q.FailsAt c columns row column) :
    (q.fetch c columns).result = .error (.columnRetrieval row column) ∧
      (q.fetch c columns).query.stalled = some (row, column) := by
  cases h with
  | entering unreadable =>
    rw [unreadable.fetch]
    exact ⟨rfl, rfl⟩
  | stalled cursor_eq stalled_eq =>
    have hhalted : q.Halted (.columnRetrieval row column) := .stalled cursor_eq stalled_eq
    rw [hhalted.fetch]
    exact ⟨rfl, stalled_eq⟩

end DataQuery

namespace Statement

variable {ν : Type} [Network ν] {s : Statement ν} {q : DataQuery} {e : Error}

theorem query_fetch (hq : s.query = some (.data q)) :
    s.fetch.2.query = some (.data (q.fetch s.connection s.columns).query) := by
  unfold fetch run
  simp only [hq]
  rfl

/-- A fetch that fails ends its records with that of its error. -/
theorem last_record_fetch (hq : s.query = some (.data q))
    (hfail : (q.fetch s.connection s.columns).result = .error e) :
    s.fetch.1 = .error ∧ s.fetch.2.diagnostics.records.getLast? =
      some ((StatusRecord.ofError e).stamp s.connection.options) := by
  have hreported := s.reports_fetch.records
  have hattempt : s.attempt .fetch = .error e := by
    simp only [attempt, hq]
    exact hfail
  rw [hattempt] at hreported
  generalize s.fetch.1 = outcome, s.fetch.2.diagnostics.records = records at hreported
  cases hreported with
  | failed => exact ⟨rfl, List.getLast?_concat⟩

theorem report_of_failsAt {row : Int32} {column : UInt16} (hq : s.query = some (.data q))
    (h : q.FailsAt s.connection s.columns row column) :
    s.fetch.1 = .error ∧ s.fetch.2.diagnostics.records.getLast? =
      some ((StatusRecord.ofError (.columnRetrieval row column)).stamp s.connection.options) ∧
      s.fetch.2.Ended := by
  obtain ⟨hresult, hstalled⟩ := h.fetch
  obtain ⟨houtcome, hlast⟩ := last_record_fetch hq hresult
  refine ⟨houtcome, hlast, fun query hquery => ?_⟩
  cases (query_fetch hq).symm.trans hquery
  exact .stalled hstalled

theorem report_of_jammed {cursor : Cursor} {stop : Row} (hq : s.query = some (.data q))
    (h : q.Jammed cursor stop e) :
    s.fetch.1 = .error ∧ s.fetch.2.diagnostics.records.getLast? =
      some (({ state := .generalError, message := e.message } : StatusRecord).stamp
        s.connection.options) ∧
      s.fetch.2.dataAvailable = true := by
  have hfetch := h.fetch s.connection s.columns
  obtain ⟨houtcome, hlast⟩ := last_record_fetch hq (congrArg Fetched.result hfetch)
  obtain ⟨hstalled, _, ⟨_, hfurther⟩, _, _, _, _, hundecodable⟩ := h
  rw [hundecodable.malformed.ofError_eq] at hlast
  refine ⟨houtcome, hlast, ?_⟩
  have hnext : Cursor.hasNext { cursor with row := some stop } = true := by
    rw [Cursor.hasNext, decide_eq_true hfurther, Bool.or_true, Bool.true_or]
  rw [dataAvailable, query_fetch hq, hfetch]
  simp only [Option.any_some, Query.dataAvailable, DataQuery.dataAvailable, hstalled,
    Option.isNone_none, hnext, Bool.and_true]

/-- A query in SQL that the node answers is run. -/
theorem executeSql_of_opens {sql : String} {result : ExecuteResult} {c' : Connection ν}
    (hnone : s.query = none)
    (h : DataQuery.Opens { sql } s.parameters s.connection result c') :
    (s.executeSql sql).2 = { s with
      connection := c'
      query := some (.data ⟨sql, result.columns, some (Cursor.opened result.id), 0, none⟩)
      diagnostics := {} } := by
  have hrun := DataQuery.run_of_opens h
  simp only [executeSql, executeQuery, run, replaceQuery, hnone, executeCurrent, Query.ofSql,
    Query.execute, DataQuery.execute, DataQuery.close, hrun]
  rfl

/-- A statement that has run a query over a page of two rows, each of a number and a decimal, and
has fetched once, with a buffer for identifiers bound to the numbers. -/
def afterRefusedNumber : Statement ScriptedPeer :=
  let data : Bytes := [2, 0, 0, 0, 3, 7, 0, 0, 0, 30, 2, 0, 0, 0, 3, 8, 0, 0, 0, 30]
  let opened := [0] ++ encodeInt64 5 ++ encodeInt32 0
  let page : ResultPage := ⟨5, true, 2, data⟩
  let peer : ScriptedPeer :=
    ⟨none, [.message opened, .message page.encode], [], false, [], []⟩
  (Statement.ofConnection { channel := ⟨peer, []⟩, isOpen := true }).applyAll
    [.bindColumn 1 ⟨.guid, none, none⟩, .executeSql "", .fetch]

/-- The number was refused, and the decimal is left over. -/
theorem jammed_afterRefusedNumber :
    ∃ q cursor stop, afterRefusedNumber.query = some (.data q) ∧
      q.Jammed cursor stop (.unsupportedTag 30) := by
  let data : Bytes := [2, 0, 0, 0, 3, 7, 0, 0, 0, 30, 2, 0, 0, 0, 3, 8, 0, 0, 0, 30]
  let opened := [0] ++ encodeInt64 5 ++ encodeInt32 0
  let page : ResultPage := ⟨5, true, 2, data⟩
  let peer : ScriptedPeer :=
    ⟨none, [.message opened, .message page.encode], [], false, [], []⟩
  let c : Connection ScriptedPeer := { channel := ⟨peer, []⟩, isOpen := true }
  let bound := ((Statement.ofConnection c).bindColumn 1 ⟨.guid, none, none⟩).2
  let request : Bytes := [1, 0, 9, 0, 0, 0, 0, 0, 4, 0, 0, 0, 0, 0, 0]
  let c₁ : Connection ScriptedPeer := { c with
    channel := ⟨⟨none, [.message page.encode], [request], false, [], []⟩, opened⟩
    outbox := request }
  have hexecute : (Request.execute "" ({} : Options).distributedJoins ({} : Options).pageSize
      []).encode = .ok request := rfl
  have hopens : DataQuery.Opens { sql := "" } bound.parameters bound.connection ⟨5, []⟩ c₁ :=
    ⟨[], request, opened, rfl, hexecute,
      ScriptedPeer.answers rfl rfl (List.cons_ne_nil _ _) (by decide) (by decide), rfl⟩
  -- The query is run, its page is taken, and the first row ends behind the number.
  have hexecuted := executeSql_of_opens (s := bound) rfl hopens
  obtain ⟨_, c₂, hreq, hans, _⟩ := ScriptedPeer.answers_page (c := c₁) rfl rfl (by decide) 5
  have hload : (Cursor.opened 5).loadPage c₁ =
      (.ok true, ⟨5, some ⟨4, 2, 0, ⟨4, data.drop 4⟩⟩, 2, 0, true⟩, c₂) :=
    Cursor.loadPage_of_first rfl (Cursor.exchange_of_page hreq hans (by decide)) rfl rfl rfl rfl
  let q : DataQuery := ⟨"", [], some (Cursor.opened 5), 0, none⟩
  have hfetch : (q.fetch c₁ bound.columns).query =
      { q with
        cursor := some ⟨5, some ⟨4, 2, 1, ⟨9, data.drop 9⟩⟩, 2, 1, true⟩
        rowNumber := 1 } := by
    rw [DataQuery.fetch_of_loadPage rfl rfl rfl hload]
    rfl
  have hquery := query_fetch (s := { bound with connection := c₁, query := some (.data q) }) rfl
  rw [hfetch] at hquery
  have hs : afterRefusedNumber = (bound.executeSql "").2.fetch.2 := rfl
  rw [hs, hexecuted]
  exact ⟨_, _, _, hquery, rfl, rfl, by decide, _, [], rfl, .here _, by decide, _, rfl⟩

/-- A fetch that comes to a column that cannot be decoded tells its row and number, as does every
later fetch. A column that is left over of a row given up is told at no row and no column. -/
theorem decode_failure_reported (hq : s.query = some (.data q)) :
    (∀ row column, q.FailsAt s.connection s.columns row column →
      s.fetch.1 = .error ∧
      s.fetch.2.diagnostics.records.getLast? =
        some (StatusRecord.stamp s.connection.options
          { state := .generalError
            message := "Can not retrieve row column."
            row
            column := Int32.ofNat column.toNat }) ∧
      ∀ ops : List StatementOp, (∀ op ∈ ops, op.runs = false) →
        (s.fetch.2.applyAll ops).dataAvailable = false) ∧
    ∀ cursor stop e, q.Jammed cursor stop e →
      s.fetch.1 = .error ∧ e.Malformed ∧
      s.fetch.2.diagnostics.records.getLast? =
        some (StatusRecord.stamp s.connection.options
          { state := .generalError, message := e.message, row := 0, column := 0 }) ∧
      s.fetch.2.dataAvailable = true := by
  refine ⟨fun row column h => ?_, fun cursor stop e h => ?_⟩
  · obtain ⟨houtcome, hlast, hended⟩ := report_of_failsAt hq h
    exact ⟨houtcome, hlast, fun ops hops => (hended.applyAll ops hops).dataAvailable⟩
  · obtain ⟨houtcome, hlast, havailable⟩ := report_of_jammed hq h
    obtain ⟨_, _, _, _, hundecodable⟩ := h.leftOver
    exact ⟨houtcome, hundecodable.malformed, hlast, havailable⟩

/-- The number and the decimal in a row that is entered, and left over of the row before. -/
theorem decode_failure_reported_decimal :
    let c : Connection ScriptedPeer := { channel := ⟨⟨none, [], [], false, [], []⟩, []⟩ }
    let entering : DataQuery :=
      { sql := "", cursor := some ⟨9, some ⟨4, 2, 0, ⟨4, [3, 7, 0, 0, 0, 30]⟩⟩, 2, 0, true⟩ }
    let s : Statement ScriptedPeer := { connection := c, query := some (.data entering) }
    (entering.FailsAt s.connection s.columns 1 2 ∧
      s.fetch.2.diagnostics.records.getLast? =
        some (StatusRecord.stamp {}
          { state := .generalError, message := "Can not retrieve row column.", row := 1
            column := 2 }) ∧
      (s.fetch.2.applyAll [.fetch, .unbindAllColumns]).dataAvailable = false) ∧
    ∃ q cursor stop, afterRefusedNumber.query = some (.data q) ∧
      q.Jammed cursor stop (.unsupportedTag 30) ∧
      afterRefusedNumber.fetch.2.dataAvailable = true := by
  intro c entering s
  have hfails : entering.FailsAt s.connection s.columns 1 2 :=
    .entering (DataQuery.unreadable_decimal c)
  obtain ⟨_, hrecord, hended⟩ := (decode_failure_reported (s := s) rfl).1 1 2 hfails
  refine ⟨⟨hfails, hrecord, hended _ (by decide)⟩, ?_⟩
  obtain ⟨q, cursor, stop, hq, hjammed⟩ := jammed_afterRefusedNumber
  obtain ⟨_, _, _, havailable⟩ := (decode_failure_reported hq).2 _ _ _ hjammed
  exact ⟨q, cursor, stop, hq, hjammed, havailable⟩

/-- A decimal that is left over is not reported as a column that could not be retrieved: the last
record has another text and no place, and a further row is announced. -/
theorem left_over_decimal_unlocated :
    (∃ q cursor stop e, afterRefusedNumber.query = some (.data q) ∧ q.Jammed cursor stop e) ∧
      afterRefusedNumber.fetch.1 = .error ∧
      (∃ record, afterRefusedNumber.fetch.2.diagnostics.records.getLast? = some record ∧
        record.message ≠ "Can not retrieve row column." ∧ record.row = 0 ∧ record.column = 0) ∧
      afterRefusedNumber.fetch.2.dataAvailable = true := by
  obtain ⟨q, cursor, stop, hq, hjammed⟩ := jammed_afterRefusedNumber
  obtain ⟨houtcome, hlast, havailable⟩ := report_of_jammed hq hjammed
  refine ⟨⟨q, cursor, stop, _, hq, hjammed⟩, houtcome, ⟨_, hlast, ?_, rfl, rfl⟩, havailable⟩
  exact (Error.Malformed.unsupportedTag 30).message_ne

end Statement

end GridClient
