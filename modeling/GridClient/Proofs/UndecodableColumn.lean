import GridClient.Proofs.ResultSet

/-!
Columns that cannot be decoded. Nothing behind such a column can be found, so a fetch that has come
to one is the last that moves: every later one fails with the same error and changes nothing.
-/
namespace GridClient

/-! ### Rows with a column that cannot be decoded -/

namespace Row

/-- The next column is there and cannot be decoded. -/
def Undecodable (row : Row) (e : Error) : Prop :=
  row.position < row.size ∧ ∃ reader, Decoder.columnValue row.reader = .error e reader

/-- The next columns decode to these values, and `stop` stands behind them. -/
inductive Passes : Row → List ColumnValue → Row → Prop where
  | here (row : Row) : Passes row [] row
  | column {row behind stop : Row} {value : ColumnValue} {values : List ColumnValue}
    (read : row.readColumn = .ok value behind) (rest : Passes behind values stop) :
    Passes row (value :: values) stop

variable {row behind stop : Row} {value : ColumnValue} {values : List ColumnValue} {e : Error}

theorem Undecodable.readColumn (h : row.Undecodable e) : row.readColumn = .error e row := by
  obtain ⟨hlt, reader, hdecode⟩ := h
  have hnot : ¬ row.size ≤ row.position := Nat.not_le_of_lt hlt
  simp only [Row.readColumn, hnot, if_false, hdecode]

/-- A column that was read lies behind, in the same row. -/
theorem moved_of_readColumn (h : row.readColumn = .ok value behind) :
    behind.size = row.size ∧ behind.position = row.position + 1 := by
  unfold readColumn at h
  split at h
  · cases h
  · split at h
    · cases h
      exact ⟨rfl, rfl⟩
    · cases h

theorem Passes.moved (h : Passes row values stop) :
    stop.size = row.size ∧ stop.position = row.position + values.length := by
  induction h with
  | here row => exact ⟨rfl, rfl⟩
  | column read rest ih =>
    obtain ⟨hsize, hposition⟩ := moved_of_readColumn read
    obtain ⟨hsize', hposition'⟩ := ih
    refine ⟨hsize'.trans hsize, ?_⟩
    rw [hposition', hposition, List.length_cons]
    omega

/-- The column that cannot be decoded is one of those that are left in the row. -/
theorem Passes.length_lt (h : Passes row values stop) (hu : stop.Undecodable e) :
    values.length < row.size - row.position := by
  obtain ⟨hsize, hposition⟩ := h.moved
  have hlt := hu.1
  rw [hsize, hposition] at hlt
  omega

/-- Skipping stops in front of it. -/
theorem Passes.skipColumns (h : Passes row values stop) (hu : stop.Undecodable e) {n : Nat}
    (hn : values.length < n) : Row.skipColumns n row = .error e stop := by
  induction h generalizing n with
  | here row =>
    obtain ⟨n, rfl⟩ := Nat.exists_eq_add_one_of_ne_zero (Nat.ne_of_gt hn)
    show EStateM.bind (EStateM.bind Row.readColumn _) _ _ = _
    rw [EStateM.bind, EStateM.bind, hu.readColumn]
  | column read rest ih =>
    obtain ⟨n, rfl⟩ := Nat.exists_eq_add_one_of_ne_zero (Nat.ne_zero_of_lt hn)
    show EStateM.bind (EStateM.bind Row.readColumn _) _ _ = _
    rw [EStateM.bind, EStateM.bind, read]
    exact ih hu (Nat.lt_of_succ_lt_succ hn)

/-- The next row is not entered past it. -/
theorem Passes.next (h : Passes row values stop) (hu : stop.Undecodable e) :
    Row.next row = .error e stop := by
  show EStateM.bind (Row.skipColumns (row.size - row.position)) (fun _ => Row.enter) row = _
  rw [EStateM.bind, h.skipColumns hu (h.length_lt hu)]

/-- A delivery stops in front of it, behind a list of values that were accepted. -/
theorem Passes.deliver (h : Passes row values stop) (hu : stop.Undecodable e) {number : Int32}
    {index n : Nat} {sink sink' : ColumnSink} (hn : values.length < n)
    (hput : ColumnSink.putAll number (columnNumber index) values sink = (.ok (), sink')) :
    Row.deliver number n (columnNumber index) row sink =
      (.error (.undecodable (columnNumber (index + values.length))), stop, sink') := by
  -- Each column passed takes its value out of the list and one of the n columns to come.
  induction h generalizing index n sink with
  | here row =>
    obtain ⟨n, rfl⟩ := Nat.exists_eq_add_one_of_ne_zero (Nat.ne_of_gt hn)
    cases hput
    rw [Row.deliver, hu.readColumn]
    rfl
  | column read rest ih =>
    rename_i value values
    obtain ⟨n, rfl⟩ := Nat.exists_eq_add_one_of_ne_zero (Nat.ne_zero_of_lt hn)
    rw [Row.deliver, read]
    rw [ColumnSink.putAll] at hput
    obtain ⟨⟨result, sink₁⟩, hr⟩ : ∃ r, sink.put number (columnNumber index) value = r := ⟨_, rfl⟩
    simp only [hr] at hput ⊢
    cases result with
    | error e => cases hput
    | ok _ =>
      rw [ColumnSink.columnNumber_succ] at hput ⊢
      rw [List.length_cons, Nat.add_comm values.length 1, ← Nat.add_assoc]
      exact ih hu (Nat.lt_of_succ_lt_succ hn) hput

end Row

/-! ### Values that are all accepted -/

theorem Delivered.eq_of_accepted {row : Int32} {values : List ColumnValue}
    {before after : Bindings DataBuffer} {result : Except Error Outcome}
    {warnings : List StatusRecord} (h : Delivered row values before result after warnings)
    (accepted : ∀ i < values.length, ∃ warnings, reportAt row values before i = .ok warnings) :
    result = .ok (.ofTruncated (!warnings.isEmpty)) ∧
      after = before.mapWithKey (written values values.length) ∧
      warnings = warningsBefore row values before values.length := by
  cases h with
  | whole => exact ⟨rfl, rfl, rfl⟩
  | refused lt _ refused =>
    obtain ⟨warnings, hok⟩ := accepted _ lt
    cases hok.symm.trans refused

/-- Values that are all accepted go into the buffers of the first columns. -/
theorem ColumnSink.putAll_accepted {row : Int32} {values : List ColumnValue}
    {before : Bindings DataBuffer} (hlen : values.length ≤ 0xFFFF)
    (accepted : ∀ i < values.length, ∃ warnings, reportAt row values before i = .ok warnings) :
    putAll row (columnNumber 0) values { columns := before } =
      (.ok (), reached row values before values.length) := by
  have hput := putAll_delivers_row row before hlen
  obtain ⟨⟨result, after, warnings⟩, hr⟩ : ∃ r, putAll row (columnNumber 0) values
      { columns := before } = r := ⟨_, rfl⟩
  rw [hr] at hput ⊢
  obtain ⟨hresult, hafter, hwarnings⟩ := hput.eq_of_accepted accepted
  simp only at hresult hafter hwarnings
  cases result with
  | error e => cases hresult
  | ok _ => rw [hafter, hwarnings, reached]

/-! ### Fetches that come to such a column -/

theorem Cursor.entered_of_increment {cursor cursor' : Cursor}
    (h : cursor.increment = .ok true cursor') : cursor'.entered = cursor.entered + 1 := by
  have hattempted := cursor.attempted_increment
  rw [h] at hattempted
  cases hattempted with
  | first _ hzero => rw [hzero]
  | next => rfl

namespace DataQuery

variable {ν : Type} [Network ν]

/-- The next fetch enters this row, perhaps of a page that it has asked for. -/
structure Enters (q : DataQuery) (c : Connection ν) (cursor : Cursor) (row : Row)
    (c' : Connection ν) : Prop where
  stalled_eq : q.stalled = none
  entered : ∃ start loaded, q.cursor = some start ∧ start.hasNext = true ∧
    start.loadPage c = (.ok true, loaded, c') ∧ loaded.increment = .ok true cursor
  row_eq : cursor.row = some row

/-- A row that the next fetch enters has a column that cannot be decoded, bound or not, and the
buffers bound to the columns before it accept their values. -/
structure Unreadable (q : DataQuery) (c : Connection ν) (columns : Bindings DataBuffer)
    (cursor : Cursor) (values : List ColumnValue) (stop : Row) (c' : Connection ν) : Prop where
  entered : ∃ row e, q.Enters c cursor row c' ∧ row.size < UInt16.size ∧
    Row.Passes row values stop ∧ stop.Undecodable e
  accepted : ∀ i < values.length, ∃ warnings,
    reportAt (q.rowNumber + 1) values columns i = .ok warnings

/-- The page has a further row, and what is left over of the row at hand has a column that cannot
be decoded, behind some that can. -/
structure Jammed (q : DataQuery) (cursor : Cursor) (stop : Row) (e : Error) : Prop where
  stalled_eq : q.stalled = none
  cursor_eq : q.cursor = some cursor
  further : 0 < cursor.entered ∧ cursor.entered < cursor.rowCount
  leftOver : ∃ row values, cursor.row = some row ∧ Row.Passes row values stop ∧ stop.Undecodable e

variable {q : DataQuery} {c c' : Connection ν} {columns before : Bindings DataBuffer}
  {cursor : Cursor} {row stop : Row} {values : List ColumnValue} {e : Error}

theorem Enters.fetch (h : q.Enters c cursor row c') (columns : Bindings DataBuffer) :
    q.fetch c columns =
      { q with rowNumber := q.rowNumber + 1 }.deliverRow cursor row c' columns := by
  obtain ⟨hstalled, ⟨start, loaded, hcursor, hnext, hload, hincrement⟩, hrow⟩ := h
  have hcurrent : cursor.currentRow = some row := by
    rw [Cursor.currentRow, Cursor.entered_of_increment hincrement, if_neg (Nat.succ_ne_zero _),
      hrow]
  rw [fetch_of_loadPage hcursor hstalled hnext hload]
  simp only [enterRow, hincrement, hcurrent]

/-- The values before the column are delivered, and the query is stalled there. -/
theorem Unreadable.fetch (h : q.Unreadable c columns cursor values stop c') :
    q.fetch c columns =
      ⟨.error (.columnRetrieval (q.rowNumber + 1) (columnNumber values.length)),
        { q with
          cursor := some { cursor with row := some stop }
          rowNumber := q.rowNumber + 1
          stalled := some (q.rowNumber + 1, columnNumber values.length) },
        c', columns.mapWithKey (written values values.length),
        warningsBefore (q.rowNumber + 1) values columns values.length⟩ := by
  obtain ⟨⟨row, e, henters, hnarrow, hpasses, hundecodable⟩, haccepted⟩ := h
  have hlt := hpasses.length_lt hundecodable
  have hsize : (0x10000 : Nat) = UInt16.size := rfl
  have hput := ColumnSink.putAll_accepted (by omega) haccepted
  have hdeliver := hpasses.deliver hundecodable (Nat.lt_of_lt_of_le hlt (Nat.sub_le _ _)) hput
  have hfirst : columnNumber 0 = 1 := rfl
  rw [Nat.zero_add, hfirst] at hdeliver
  rw [henters.fetch, deliverRow, if_neg (Nat.not_le_of_lt hnarrow)]
  simp only [hdeliver]
  rfl

/-- The fetch gets no further than that column, and nothing is delivered. -/
theorem Jammed.fetch (h : q.Jammed cursor stop e) (c : Connection ν)
    (columns : Bindings DataBuffer) :
    q.fetch c columns =
      ⟨.error e, { q with cursor := some { cursor with row := some stop } }, c, columns, []⟩ := by
  obtain ⟨hstalled, hcursor, ⟨hpos, hlt⟩, row, values, hrow, hpasses, hundecodable⟩ := h
  have hnext : cursor.hasNext = true := by
    rw [Cursor.hasNext, decide_eq_true hlt, Bool.or_true, Bool.true_or]
  have hneed : cursor.needsPage = false := by
    rw [Cursor.needsPage, hrow, decide_eq_false (Nat.not_le_of_lt hlt)]
    rfl
  -- No page is needed, so the fetch comes to the increment, which skips what is left over.
  have hincrement : cursor.increment = .error e { cursor with row := some stop } := by
    simp only [Cursor.increment, hrow, if_neg (Nat.not_le_of_lt hlt),
      if_neg (Nat.ne_of_gt hpos), hpasses.next hundecodable]
  rw [fetch_of_loadPage hcursor hstalled hnext (Cursor.loadPage_of_held hneed)]
  simp only [enterRow, hincrement]

/-- A query that does not go on: it is stalled, or what is left over of the row at hand begins with
a column that cannot be decoded. -/
inductive Halted (q : DataQuery) : Error → Prop where
  | stalled {cursor : Cursor} {row : Int32} {column : UInt16} (cursor_eq : q.cursor = some cursor)
    (stalled_eq : q.stalled = some (row, column)) : Halted q (.columnRetrieval row column)
  | jammed {cursor : Cursor} {row : Row} {e : Error} (jammed : q.Jammed cursor row e)
    (row_eq : cursor.row = some row) : Halted q e

/-- To fetch from it is to be told the same again, over any connection and with any buffers. -/
theorem Halted.fetch (h : q.Halted e) (c : Connection ν) (columns : Bindings DataBuffer) :
    q.fetch c columns = ⟨.error e, q, c, columns, []⟩ := by
  cases h with
  | stalled cursor_eq stalled_eq => exact fetch_of_stalled cursor_eq stalled_eq c columns
  | jammed jammed row_eq =>
    rename_i cursor row
    have hcursor : { cursor with row := some row } = cursor := by rw [← row_eq]
    rw [jammed.fetch, hcursor, ← jammed.cursor_eq]

theorem Jammed.halted (h : q.Jammed cursor stop e) :
    { q with cursor := some { cursor with row := some stop } }.Halted e := by
  obtain ⟨hstalled, _, hfurther, row, values, _, _, hundecodable⟩ := h
  exact .jammed ⟨hstalled, rfl, hfurther, stop, [], rfl, .here stop, hundecodable⟩ rfl

/-- The next fetch fails with this error since a column cannot be decoded: it is in the row that is
entered, it is left over of the row before, or an earlier fetch has come to it already. -/
inductive FailsToDecode (q : DataQuery) (c : Connection ν) (columns : Bindings DataBuffer) :
    Error → Prop where
  | reading {cursor : Cursor} {values : List ColumnValue} {stop : Row} {c' : Connection ν}
    (unreadable : q.Unreadable c columns cursor values stop c') :
    FailsToDecode q c columns
      (.columnRetrieval (q.rowNumber + 1) (columnNumber values.length))
  | leftOver {cursor : Cursor} {stop : Row} {e : Error} (jammed : q.Jammed cursor stop e) :
    FailsToDecode q c columns e
  | again {e : Error} (halted : q.Halted e) : FailsToDecode q c columns e

theorem FailsToDecode.halts (h : q.FailsToDecode c columns e) :
    (q.fetch c columns).result = .error e ∧ (q.fetch c columns).query.Halted e := by
  cases h with
  | reading unreadable =>
    rw [unreadable.fetch]
    exact ⟨rfl, .stalled rfl rfl⟩
  | leftOver jammed =>
    rw [jammed.fetch]
    exact ⟨rfl, jammed.halted⟩
  | again halted =>
    rw [halted.fetch]
    exact ⟨rfl, halted⟩

theorem Halted.fetches (h : q.Halted e) (c : Connection ν) (calls : List (Bindings DataBuffer))
    {n : Nat} (hn : calls[n]? = some before) :
    (q.fetches c calls)[n]? = some ⟨.error e, q, c, before, []⟩ := by
  induction calls generalizing n with
  | nil => cases hn
  | cons columns calls ih =>
    -- The query and the connection are the same again behind the first call.
    rw [DataQuery.fetches, h.fetch]
    cases n with
    | zero =>
      cases hn
      rfl
    | succ n => exact ih hn

/-- A number and a decimal, which has no reader, in a row that is entered. -/
theorem unreadable_decimal (c : Connection ν) :
    Unreadable
      { sql := "", cursor := some ⟨9, some ⟨4, 2, 0, ⟨4, [3, 7, 0, 0, 0, 30]⟩⟩, 2, 0, true⟩ } c {}
      ⟨9, some ⟨4, 2, 0, ⟨4, [3, 7, 0, 0, 0, 30]⟩⟩, 2, 1, true⟩ [.int 7] ⟨4, 2, 1, ⟨9, [30]⟩⟩
      c := by
  refine ⟨⟨⟨4, 2, 0, ⟨4, [3, 7, 0, 0, 0, 30]⟩⟩, .unsupportedTag 30, ?_, by decide,
    .column rfl (.here _), by decide, _, rfl⟩, fun i hi => ?_⟩
  · exact ⟨rfl, ⟨_, _, rfl, rfl, Cursor.loadPage_of_held rfl, rfl⟩, rfl⟩
  · cases Nat.lt_one_iff.mp hi
    exact ⟨[], rfl⟩

/-- The fetch that comes to a column that cannot be decoded fails, and as long as the query is
neither closed nor run again every later one fails with the same error and leaves everything as it
is. -/
theorem undecodable_column_halts (h : q.FailsToDecode c columns e) :
    (q.fetch c columns).result = .error e ∧
      ∀ (later : Connection ν) (calls : List (Bindings DataBuffer)) (n : Nat)
        (before : Bindings DataBuffer), calls[n]? = some before →
        ((q.fetch c columns).query.fetches later calls)[n]? =
          some ⟨.error e, (q.fetch c columns).query, later, before, []⟩ := by
  obtain ⟨hresult, hhalted⟩ := h.halts
  exact ⟨hresult, fun later calls n before hn => hhalted.fetches later calls hn⟩

/-- A number and a decimal: once in a row that is entered, and once left over of a row whose number
was refused by its buffer. -/
theorem undecodable_column_halts_decimal :
    let c : Connection ScriptedPeer := { channel := ⟨⟨none, [], [], false, [], []⟩, []⟩ }
    let entering : DataQuery :=
      { sql := "", cursor := some ⟨9, some ⟨4, 2, 0, ⟨4, [3, 7, 0, 0, 0, 30]⟩⟩, 2, 0, true⟩ }
    let refused : DataQuery :=
      { sql := "", cursor := some ⟨9, some ⟨4, 2, 1, ⟨9, [30]⟩⟩, 2, 1, true⟩, rowNumber := 1 }
    entering.FailsToDecode c {} (.columnRetrieval 1 2) ∧
      ((entering.fetch c {}).query.fetches c [{}, {}])[1]? =
        some ⟨.error (.columnRetrieval 1 2), (entering.fetch c {}).query, c, {}, []⟩ ∧
      refused.FailsToDecode c {} (.unsupportedTag 30) ∧
      ((refused.fetch c {}).query.fetches c [{}, {}])[1]? =
        some ⟨.error (.unsupportedTag 30), (refused.fetch c {}).query, c, {}, []⟩ := by
  intro c entering refused
  have hentering : entering.FailsToDecode c {} (.columnRetrieval 1 2) :=
    .reading (unreadable_decimal c)
  have hrefused : refused.FailsToDecode c {} (.unsupportedTag 30) :=
    .leftOver ⟨rfl, rfl, by decide, _, _, rfl, .here ⟨4, 2, 1, ⟨9, [30]⟩⟩, by decide, _, rfl⟩
  exact ⟨hentering, (undecodable_column_halts hentering).2 c [{}, {}] 1 {} rfl,
    hrefused, (undecodable_column_halts hrefused).2 c [{}, {}] 1 {} rfl⟩

end DataQuery

end GridClient
