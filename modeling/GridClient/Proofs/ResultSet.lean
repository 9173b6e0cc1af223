import GridClient.Proofs.PageCursor

/-!
Delivery of result sets. Each fetch enters the next row, whether or not the row before it was
delivered whole, and behind the last row there is no data.
-/
namespace GridClient

variable {ν : Type}

namespace DataQuery

variable {id : QueryId} {rows : List (List Cell)} {entered : Nat} {last : Bool}
  {cells : List Cell} {cursor : Cursor}

/-- A row whose columns come to these values is delivered, and the cursor stays where they end. -/
theorem deliverRow_of_deliver {q : DataQuery} {row behind : Row} {values : List ColumnValue}
    {before : Bindings DataBuffer} (hsize : row.size = values.length)
    (hlen : values.length ≤ 0xFFFF)
    (hdeliver : row.deliver q.rowNumber values.length 1 { columns := before } =
      let (result, sink) := ColumnSink.putAll q.rowNumber 1 values { columns := before }
      (result.mapError .refused, behind, sink)) (cursor : Cursor) (c : Connection ν) :
    ∃ result after warnings, Delivered q.rowNumber values before result after warnings ∧
      q.deliverRow cursor row c before =
        ⟨result, { q with cursor := some { cursor with row := some behind } }, c, after,
          warnings⟩ := by
  have hput := ColumnSink.putAll_delivers_row q.rowNumber before hlen
  rw [show columnNumber 0 = 1 from rfl] at hput
  obtain ⟨⟨result, sink⟩, hresult⟩ : ∃ r, ColumnSink.putAll q.rowNumber 1 values
      { columns := before } = r := ⟨_, rfl⟩
  rw [hresult] at hput hdeliver
  have hnot : ¬ UInt16.size ≤ values.length := by
    show ¬ 0x10000 ≤ values.length
    omega
  refine ⟨_, _, _, hput, ?_⟩
  rw [deliverRow, hsize, if_neg hnot, hdeliver]
  cases result <;> rfl

/-- A row that has been entered is delivered, and the cursor stays somewhere in it. -/
theorem deliverRow_toRow {i : Nat} (hcells : rows[i]? = some cells) (hwidth : cells.length ≤ 0xFFFF)
    (q : DataQuery) (cursor : Cursor) (c : Connection ν) (before : Bindings DataBuffer) :
    ∃ result after warnings j, j ≤ cells.length ∧
      Delivered q.rowNumber (cells.map Cell.column) before result after warnings ∧
      q.deliverRow cursor (Place.toRow rows ⟨i, 0⟩) c before =
        ⟨result, { q with cursor := some { cursor with row := some (Place.toRow rows ⟨i, j⟩) } },
          c, after, warnings⟩ := by
  have hsize : Place.cells rows ⟨i, 0⟩ = cells := by rw [Place.cells, hcells, Option.getD_some]
  have hrow : (Place.toRow rows ⟨i, 0⟩).size = cells.length := congrArg List.length hsize
  obtain ⟨j, hj, hdeliver⟩ := Row.deliver_toRow rows ⟨i, 0⟩ q.rowNumber 1
    { columns := before }
  have hlen : (cells.map Cell.column).length = cells.length := List.length_map ..
  rw [hsize, Nat.sub_zero, List.drop_zero, ← hlen] at hdeliver
  rw [hsize, Nat.max_eq_right (Nat.zero_le _)] at hj
  obtain ⟨result, after, warnings, hdelivered, hf⟩ :=
    deliverRow_of_deliver (hrow.trans hlen.symm) (by rwa [hlen]) hdeliver cursor c
  exact ⟨result, after, warnings, j, hj, hdelivered, hf⟩

/-- While the page has a further row, that is the row to be delivered. -/
theorem enterRow_of_holds (h : cursor.Holds id rows entered last)
    (hcells : rows[entered]? = some cells) (hwidth : ∀ cells ∈ rows, cells.length ≤ 0xFFFF)
    (q : DataQuery) (c : Connection ν) (before : Bindings DataBuffer) :
    ∃ result after warnings, ∃ cursor' : Cursor,
      Delivered (q.rowNumber + 1) (cells.map Cell.column) before result after warnings ∧
      cursor'.Holds id rows (entered + 1) last ∧
      q.enterRow cursor c before =
        ⟨result, { q with cursor := some cursor', rowNumber := q.rowNumber + 1 }, c, after,
          warnings⟩ := by
  obtain ⟨hlt, hget⟩ := List.getElem?_eq_some_iff.mp hcells
  have hcell : cells.length ≤ 0xFFFF := hwidth cells (hget ▸ List.getElem_mem hlt)
  obtain ⟨result, after, warnings, j, hj, hdelivered, hf⟩ := deliverRow_toRow hcells hcell
    { q with rowNumber := q.rowNumber + 1 }
    ⟨id, some (Place.toRow rows ⟨entered, 0⟩), rows.length, entered + 1, last⟩ c before
  refine ⟨result, after, warnings,
    ⟨id, some (Place.toRow rows ⟨entered, j⟩), rows.length, entered + 1, last⟩, hdelivered,
    ⟨rfl, rfl, rfl, rfl, _, rfl, ?_⟩, ?_⟩
  · intro _
    have hin : Place.InPage rows ⟨entered, j⟩ := by
      refine ⟨hlt, ?_⟩
      show j ≤ (Place.cells rows ⟨entered, j⟩).length
      rwa [Place.cells, hcells, Option.getD_some]
    exact ⟨j, hin, fun h => absurd h (Nat.succ_ne_zero entered), rfl⟩
  · rw [enterRow, h.increment hlt hwidth]
    exact hf

end DataQuery

/-! ### What is still to come -/

variable [Network ν]

/-- The rows that a cursor has still to enter: those left in its page and those of the pages that
the node has still to send. -/
inductive Ahead (id : QueryId) (rows : List (List Cell)) : Cursor → Connection ν → Prop where
  | opened {c : Connection ν} {pages : List (List (List Cell))} (nonempty : pages ≠ [])
    (served : ServesPages id c pages) (countable : Countable pages)
    (rows_eq : pages.flatten = rows) : Ahead id rows (Cursor.opened id) c
  | holding {c : Connection ν} {cursor : Cursor} {page : List (List Cell)} {entered : Nat}
    {pages : List (List (List Cell))} (holds : cursor.Holds id page entered pages.isEmpty)
    (served : ServesPages id c pages) (countable : Countable (page :: pages))
    (rows_eq : page.drop entered ++ pages.flatten = rows) : Ahead id rows cursor c

variable {id : QueryId} {rows : List (List Cell)} {cursor : Cursor} {c : Connection ν}

theorem Ahead.of_hasNext_eq_false (h : Ahead id rows cursor c) (hnext : cursor.hasNext = false) :
    rows = [] := by
  cases h with
  | opened => cases hnext
  | holding holds served countable rows_eq =>
    rename_i page entered pages
    rw [holds.hasNext_eq, Bool.or_eq_false_iff] at hnext
    obtain ⟨hentered, hpages⟩ := hnext
    have hlen : page.length ≤ entered := by simpa using hentered
    have hnil : pages = [] := by simpa using hpages
    rw [← rows_eq, hnil, List.drop_eq_nil_of_le hlen]
    rfl

/-- A cursor that may have further rows comes to the next of them, if there is one. -/
theorem Ahead.load (h : Ahead id rows cursor c) (hnext : cursor.hasNext = true) :
    Cursor.Loaded id rows (cursor.loadPage c) := by
  cases h with
  | opened nonempty served countable rows_eq =>
    rw [← rows_eq]
    exact Cursor.loaded_of_served rfl nonempty countable rfl served
  | holding holds served countable rows_eq =>
    rename_i page entered pages
    by_cases hlt : entered < page.length
    · have hneed : cursor.needsPage = false := by
        rw [holds.needsPage_eq, decide_eq_false (by omega), Bool.false_and]
      rw [Cursor.loadPage_of_held hneed]
      exact .entering holds hlt served countable rows_eq
    · have hempty : pages.isEmpty = false := by
        rw [holds.hasNext_eq, decide_eq_false hlt] at hnext
        simpa using hnext
      have hneed : cursor.needsPage = true := by
        rw [holds.needsPage_eq, hempty, decide_eq_true (by omega)]
        rfl
      rw [← rows_eq, List.drop_eq_nil_of_le (by omega), List.nil_append]
      exact Cursor.loaded_of_served holds.id_eq (by simpa using hempty)
        (fun rows h => countable rows (List.mem_cons_of_mem _ h)) hneed served

theorem Ahead.of_ended (h : cursor.Holds id [] 0 true) : Ahead id [] cursor c := by
  have hserved : ServesPages id c [] := trivial
  have hcountable : Countable [[]] := by
    intro rows hmem
    cases List.mem_singleton.mp hmem
    exact ⟨by decide, fun cells h => absurd h List.not_mem_nil⟩
  exact .holding h hserved hcountable rfl

/-- The fetch delivered this row under its number; without one, it found no data and left the
bound buffers alone. -/
def Fetched.Enters (f : Fetched DataQuery ν) (number : Int32) (next : Option (List Cell))
    (before : Bindings DataBuffer) : Prop :=
  match next with
  | some cells => f.query.rowNumber = number ∧
      Delivered number (cells.map Cell.column) before f.result f.columns f.warnings
  | none => f.result = .ok .noData ∧ f.columns = before ∧ f.warnings = []

namespace DataQuery

/-- A query whose cursor has these rows to come and has entered so many. -/
structure Awaits (q : DataQuery) (id : QueryId) (rows : List (List Cell)) (count : Nat)
    (c : Connection ν) : Prop where
  ahead : ∃ cursor, q.cursor = some cursor ∧ Ahead id rows cursor c
  rowNumber_eq : q.rowNumber = Int32.ofNat count
  stalled_eq : q.stalled = none

variable {q : DataQuery} {count : Nat} {before : Bindings DataBuffer}

/-- A fetch whose cursor comes to a row enters it. -/
theorem fetch_of_loadPage {loaded : Cursor} {c' : Connection ν} (hcursor : q.cursor = some cursor)
    (hstalled : q.stalled = none) (hnext : cursor.hasNext = true)
    (hload : cursor.loadPage c = (.ok true, loaded, c')) (columns : Bindings DataBuffer) :
    q.fetch c columns = q.enterRow loaded c' columns := by
  simp only [fetch, hcursor, hstalled, if_pos hnext, hload]

theorem fetch_of_unopened (hcursor : q.cursor = none) (c : Connection ν)
    (before : Bindings DataBuffer) :
    q.fetch c before = ⟨.error .queryNotExecuted, q, c, before, []⟩ := by
  simp only [fetch, hcursor]

theorem fetch_of_stalled {row : Int32} {column : UInt16} (hcursor : q.cursor = some cursor)
    (hstalled : q.stalled = some (row, column)) (c : Connection ν)
    (before : Bindings DataBuffer) :
    q.fetch c before = ⟨.error (.columnRetrieval row column), q, c, before, []⟩ := by
  simp only [fetch, hcursor, hstalled]

theorem fetch_of_ended (hcursor : q.cursor = some cursor) (hstalled : q.stalled = none)
    (hend : cursor.hasNext = false) (c : Connection ν) (before : Bindings DataBuffer) :
    q.fetch c before = ⟨.ok .noData, q, c, before, []⟩ := by
  simp [fetch, hcursor, hstalled, hend]

/-- However the node answers, a query that was closed holds no cursor. -/
theorem cursor_of_close (q : DataQuery) (c : Connection ν) : (q.close c).2.1.cursor = none := by
  unfold close
  cases hcursor : q.cursor with
  | none => exact hcursor
  | some cursor =>
    dsimp only
    split <;> rfl

/-- The fetch delivers the first of some rows, if there is one, and the others are awaited. -/
def Takes (q : DataQuery) (id : QueryId) (rows : List (List Cell)) (count : Nat)
    (c : Connection ν) (before : Bindings DataBuffer) : Prop :=
  let f := q.fetch c before
  match rows with
  | cells :: rows => f.Enters (Int32.ofNat (count + 1)) (some cells) before ∧
      f.query.Awaits id rows (count + 1) f.connection
  | [] => f.Enters (Int32.ofNat (count + 1)) none before ∧ f.query.Awaits id [] count f.connection

/-- So does a fetch whose cursor comes to these rows. -/
theorem takes_of_loaded (hcursor : q.cursor = some cursor) (hstalled : q.stalled = none)
    (hnext : cursor.hasNext = true) (hnumber : q.rowNumber = Int32.ofNat count)
    (hload : Cursor.Loaded id rows (cursor.loadPage c)) (before : Bindings DataBuffer) :
    q.Takes id rows count c before := by
  obtain ⟨loaded, hloaded⟩ : ∃ loaded, cursor.loadPage c = loaded := ⟨_, rfl⟩
  rw [hloaded] at hload
  cases hload with
  | ended holds rows_eq =>
    subst rows_eq
    simp only [Takes, fetch, hcursor, hstalled, if_pos hnext, hloaded]
    exact ⟨⟨rfl, rfl, rfl⟩, ⟨_, rfl, .of_ended holds⟩, hnumber, rfl⟩
  | entering holds lt served countable rows_eq =>
    rename_i cursor' c' page entered pages
    rw [List.drop_eq_getElem_cons lt, List.cons_append] at rows_eq
    subst rows_eq
    have hwidth := (countable page List.mem_cons_self).2
    obtain ⟨result, after, warnings, cursor'', hdelivered, hholds, hf⟩ :=
      enterRow_of_holds holds (List.getElem?_eq_getElem lt) hwidth q c' before
    have hsucc : q.rowNumber + 1 = Int32.ofNat (count + 1) := by
      rw [hnumber, Int32.ofNat_add count 1]
      rfl
    simp only [Takes, fetch_of_loadPage hcursor hstalled hnext hloaded, hf]
    rw [hsucc] at hdelivered ⊢
    have hahead : Ahead id (page.drop (entered + 1) ++ pages.flatten) cursor'' c' :=
      .holding hholds served countable rfl
    exact ⟨⟨rfl, hdelivered⟩, ⟨cursor'', rfl, hahead⟩, rfl, hstalled⟩

theorem Awaits.takes (h : q.Awaits id rows count c) (before : Bindings DataBuffer) :
    q.Takes id rows count c before := by
  have hawaits := h
  obtain ⟨⟨cursor, hcursor, hahead⟩, hnumber, hstalled⟩ := h
  by_cases hnext : cursor.hasNext = true
  · exact takes_of_loaded hcursor hstalled hnext hnumber (hahead.load hnext) before
  · cases hahead.of_hasNext_eq_false (by simpa using hnext)
    simp only [Takes, fetch_of_ended hcursor hstalled (by simpa using hnext)]
    exact ⟨⟨rfl, rfl, rfl⟩, hawaits⟩

/-- Fetches once for each set of bound columns. -/
def fetches : DataQuery → Connection ν → List (Bindings DataBuffer) → List (Fetched DataQuery ν)
  | _, _, [] => []
  | q, c, columns :: calls =>
    let f := q.fetch c columns
    f :: fetches f.query f.connection calls

/-- Any number of fetches, each with buffers of its own. -/
theorem fetches_of_takes (h : ∀ before, q.Takes id rows count c before)
    (calls : List (Bindings DataBuffer)) {n : Nat} (hn : calls[n]? = some before) :
    ∃ f, (q.fetches c calls)[n]? = some f ∧
      f.Enters (Int32.ofNat (count + n + 1)) rows[n]? before := by
  induction calls generalizing q c rows count n with
  | nil => cases hn
  | cons columns calls ih =>
    cases rows with
    | nil =>
      obtain ⟨hf, hrest⟩ := h columns
      cases n with
      | zero =>
        cases hn
        exact ⟨_, rfl, hf⟩
      | succ n => exact ih hrest.takes hn
    | cons cells rows =>
      obtain ⟨hf, hrest⟩ := h columns
      cases n with
      | zero =>
        cases hn
        exact ⟨_, rfl, hf⟩
      | succ n =>
        obtain ⟨f, hget, henters⟩ := ih hrest.takes hn
        rw [Nat.add_right_comm count 1 n] at henters
        exact ⟨f, hget, henters⟩

theorem Awaits.fetches (h : q.Awaits id rows count c) (calls : List (Bindings DataBuffer))
    {n : Nat} (hn : calls[n]? = some before) :
    ∃ f, (q.fetches c calls)[n]? = some f ∧
      f.Enters (Int32.ofNat (count + n + 1)) rows[n]? before :=
  fetches_of_takes h.takes calls hn

/-- A query that the node answers is run, and its cursor has not asked for anything yet. -/
theorem run_of_opens {parameters : Bindings Parameter} {result : ExecuteResult}
    {c' : Connection ν} (h : q.Opens parameters c result c') :
    q.run parameters c =
      (.ok .success, ⟨q.sql, result.columns, some (Cursor.opened result.id), 0, none⟩, c') := by
  obtain ⟨args, request, answer, hargs, hreq, hans, hdecode⟩ := h
  have hexchange := Connection.exchange_of_answers Decoder.executeResult.decode hans
    (Request.write_eq_ok_iff.mpr hreq)
  rw [hdecode] at hexchange
  simp only [run, hargs, hexchange]

end DataQuery

/-- A query that has been run delivers the rows of its pages in order, one to each fetch, whatever
buffers are bound and however the node has cut the rows into pages. Behind the last there is no
data. -/
theorem fetch_delivers_result_set {q fresh : DataQuery} {parameters : Bindings Parameter}
    {c c₀ c₁ : Connection ν} {closed : Outcome} {columns : List ColumnMeta}
    {pages : List (List (List Cell))} (hclose : q.close c = (.ok closed, fresh, c₀))
    (hopen : fresh.Opens parameters c₀ ⟨id, columns⟩ c₁) (hserve : ServesPages id c₁ pages)
    (hne : pages ≠ []) (hcount : pages.flatten.length < 0x80000000)
    (hwidth : ∀ cells ∈ pages.flatten, cells.length ≤ 0xFFFF) :
    ∃ executed, q.execute parameters c = (.ok .success, executed, c₁) ∧
      ∀ (calls : List (Bindings DataBuffer)) (n : Nat) (before : Bindings DataBuffer),
        calls[n]? = some before → ∃ f, (executed.fetches c₁ calls)[n]? = some f ∧
          f.Enters (Int32.ofNat (n + 1)) pages.flatten[n]? before := by
  refine ⟨⟨fresh.sql, columns, some (Cursor.opened id), 0, none⟩, ?_, ?_⟩
  · simp only [DataQuery.execute, hclose, DataQuery.run_of_opens hopen]
  · intro calls n before hn
    have hcountable : Countable pages := by
      intro rows hmem
      refine ⟨Nat.lt_of_le_of_lt ?_ hcount, ?_⟩
      · exact (List.sublist_flatten_of_mem hmem).length_le
      · exact fun cells hcells => hwidth cells (List.mem_flatten_of_mem hmem hcells)
    have hawaits : DataQuery.Awaits ⟨fresh.sql, columns, some (Cursor.opened id), 0, none⟩ id
        pages.flatten 0 c₁ :=
      ⟨⟨_, rfl, .opened hne hserve hcountable rfl⟩, rfl, rfl⟩
    have hf := hawaits.fetches calls hn
    rwa [Nat.zero_add] at hf

/-- Rows in three pages, one of them empty and one of them with a row of no columns: the third fetch
comes to the row behind both. -/
theorem fetch_delivers_result_set_empty_page :
    let seven : Cell := ⟨.int 7, by decide, _, rfl⟩
    let eight : Cell := ⟨.int 8, by decide, _, rfl⟩
    let pages : List (List (List Cell)) := [[[seven]], [], [[], [eight]]]
    let opened := [0] ++ encodeInt64 5 ++ encodeInt32 0
    let request : Bytes := [1, 0, 9, 0, 0, 0, 0, 0, 4, 0, 0, 0, 0, 0, 0]
    let peer : ScriptedPeer :=
      ⟨none, .message opened :: ScriptedPeer.pageScript 5 pages, [], false, [], []⟩
    let c : Connection ScriptedPeer := { channel := ⟨peer, []⟩, isOpen := true }
    let c₁ : Connection ScriptedPeer := { c with
      channel := ⟨⟨none, ScriptedPeer.pageScript 5 pages, [request], false, [], []⟩, opened⟩
      outbox := request }
    let q : DataQuery := { sql := "" }
    q.close c = (.ok .success, q, c) ∧ q.Opens {} c ⟨5, []⟩ c₁ ∧ ServesPages 5 c₁ pages ∧
      pages ≠ [] ∧ pages.flatten.length < 0x80000000 ∧
      (∀ cells ∈ pages.flatten, cells.length ≤ 0xFFFF) ∧
      ∃ executed, q.execute {} c = (.ok .success, executed, c₁) ∧
        ∀ before, ∃ f, (executed.fetches c₁ [{}, {}, before])[2]? = some f ∧
          f.Enters 3 (some [eight]) before := by
  intro seven eight pages opened request peer c c₁ q
  have hreq : (Request.execute "" ({} : Options).distributedJoins ({} : Options).pageSize
      []).encode = .ok request := rfl
  have hopens : q.Opens {} c ⟨5, []⟩ c₁ :=
    ⟨[], request, opened, rfl, hreq,
      ScriptedPeer.answers rfl rfl (List.cons_ne_nil _ _) (by decide) (by decide), rfl⟩
  have hserve : ServesPages 5 c₁ pages := ScriptedPeer.servesPages rfl rfl (by decide)
  have hne : pages ≠ [] := List.cons_ne_nil _ _
  have hcount : pages.flatten.length < 0x80000000 := by decide
  have hwidth : ∀ cells ∈ pages.flatten, cells.length ≤ 0xFFFF := by
    simp [pages]
  have hclose : q.close c = (.ok .success, q, c) := rfl
  refine ⟨hclose, hopens, hserve, hne, hcount, hwidth, ?_⟩
  obtain ⟨executed, hexecute, hfetches⟩ :=
    fetch_delivers_result_set hclose hopens hserve hne hcount hwidth
  exact ⟨executed, hexecute, fun before => hfetches [{}, {}, before] 2 before rfl⟩

end GridClient
