import GridClient.Proofs.InternalFaults
import GridClient.Proofs.RowAgreement

/-!
A cursor in any hands. Whatever pages it takes or rejects and whatever is done with the row at hand,
what it tells of further rows agrees with what it does. A page is gone through to the last row that
it both announces and carries, and from there every attempt comes to the same.
-/
namespace GridClient

/-- What can be done with a cursor. -/
inductive CursorOp where
  | take (page : ResultPage)
  | increment
  | use (op : RowOp)
  deriving DecidableEq, Repr

/-- What came of it when it succeeded. -/
inductive CursorAnswer where
  | taken
  | entered (more : Bool)
  | used (answer : RowAnswer)
  /-- There is no row at hand. -/
  | noRow
  deriving DecidableEq, Repr

/-- Goes on to the next row through the cursor only. Otherwise columns are read or skipped. -/
inductive CursorOp.Orderly : CursorOp → Prop where
  | increment : Orderly .increment
  | use {op : RowOp} (stays : op ≠ .next) : Orderly (.use op)

/-- A step that was taken, and what came of it. -/
structure CursorRecord where
  op : CursorOp
  answer : Except Error CursorAnswer

namespace CursorRecord

def attempt? : CursorRecord → Option (Except Error CursorAnswer)
  | ⟨.increment, answer⟩ => some answer
  | _ => none

/-- What the attempts to enter a row came to, one after another. -/
def attempts (records : List CursorRecord) : List (Except Error CursorAnswer) :=
  records.filterMap attempt?

end CursorRecord

namespace Cursor

/-- Does one thing with a cursor. -/
def step (cursor : Cursor) : CursorOp → Except Error CursorAnswer × Cursor
  | .take page => match cursor.takePage page with
    | .ok taken => (.ok .taken, taken)
    | .error e => (.error e, cursor)
  | .increment => match cursor.increment with
    | .ok more cursor => (.ok (.entered more), cursor)
    | .error e cursor => (.error e, cursor)
  | .use op => match cursor.currentRow with
    | none => (.ok .noRow, cursor)
    | some row =>
      let (answer, row) := row.step op
      (answer.map .used, { cursor with row := some row })

/-- Does one thing after another, whether they succeed or not. -/
def run : Cursor → List CursorOp → List CursorRecord × Cursor
  | cursor, [] => ([], cursor)
  | cursor, op :: ops =>
    let (answer, cursor) := cursor.step op
    let (records, cursor) := run cursor ops
    (⟨op, answer⟩ :: records, cursor)

/-! ### Every cursor that is reached -/

/-- No more rows are entered than announced, and both counts are ones that a signed word holds. -/
structure Bounded (cursor : Cursor) : Prop where
  entered_le : cursor.entered ≤ cursor.rowCount
  rowCount_lt : cursor.rowCount < 0x80000000

variable {cursor taken : Cursor} {page : ResultPage}

theorem bounded_of_takePage (h : cursor.takePage page = .ok taken) : taken.Bounded := by
  unfold takePage at h
  split at h
  · cases h
  · split at h
    · cases h
      have hlt := page.rowCount.toInt_lt
      exact ⟨Nat.zero_le _, by show page.rowCount.toInt.toNat < _; omega⟩
    · cases h

theorem Bounded.step (h : cursor.Bounded) (op : CursorOp) : (cursor.step op).2.Bounded := by
  obtain ⟨hle, hlt⟩ := h
  cases op with
  | take page =>
    simp only [Cursor.step]
    cases htake : cursor.takePage page with
    | ok taken => exact bounded_of_takePage htake
    | error e => exact ⟨hle, hlt⟩
  | increment =>
    have hattempted := cursor.attempted_increment
    simp only [Cursor.step]
    generalize cursor.increment = result at hattempted
    cases hattempted with
    | ended => exact ⟨hle, hlt⟩
    | first _ hzero further => exact ⟨by show 1 ≤ cursor.rowCount; omega, hlt⟩
    | next _ _ further => exact ⟨further, hlt⟩
    | stuck => exact ⟨hle, hlt⟩
  | use op =>
    simp only [Cursor.step]
    cases cursor.currentRow <;> exact ⟨hle, hlt⟩

theorem Bounded.run (h : cursor.Bounded) (ops : List CursorOp) : (cursor.run ops).2.Bounded := by
  induction ops generalizing cursor with
  | nil => exact h
  | cons op ops ih => exact ih (h.step op)

end Cursor

/-! ### Rows one behind the other -/

/-- Rows one after another, each its column count and then its columns, and the values that they
denote. -/
inductive SpellsRows : Bytes → List (List ColumnValue) → Prop where
  | nil : SpellsRows [] []
  | cons {columns more : Bytes} {values : List ColumnValue} {rows : List (List ColumnValue)}
    (countable : values.length < 0x80000000) (first : SpellsColumns columns values)
    (rest : SpellsRows more rows) :
    SpellsRows (LittleEndian.encode 4 values.length ++ (columns ++ more)) (values :: rows)

/-- The page announces so many rows and carries these. If it carries fewer than it announces, there
is no header of another behind them. -/
structure ResultPage.Carries (page : ResultPage) (announced : Nat)
    (rows : List (List ColumnValue)) : Prop where
  rowCount_eq : page.rowCount.toInt = announced
  data_eq : ∃ bytes behind, SpellsRows bytes rows ∧ page.data = bytes ++ behind ∧
    (announced ≤ rows.length ∨ ¬ BeginsRow behind)

namespace Row

/-- These columns of the row are left, and these rows follow, in front of other bytes. -/
structure Leads (row : Row) (values : List ColumnValue) (rows : List (List ColumnValue))
    (behind : Bytes) : Prop where
  size_eq : row.size = row.position + values.length
  rest_eq : ∃ columns more, SpellsColumns columns values ∧ SpellsRows more rows ∧
    row.reader.rest = columns ++ (more ++ behind)

variable {row : Row} {value : ColumnValue} {values following : List ColumnValue}
  {rows : List (List ColumnValue)} {bytes behind : Bytes}

theorem enter_leads (h : SpellsRows bytes (values :: rows))
    (hrest : row.reader.rest = bytes ++ behind) :
    ∃ entered, row.enter = .ok () entered ∧ entered.Leads values rows behind := by
  cases h with
  | cons countable first rest =>
    rename_i columns more
    rw [List.append_assoc, List.append_assoc] at hrest
    exact ⟨_, enter_of_rest countable hrest, (Nat.zero_add _).symm, columns, more, first, rest, rfl⟩

theorem ofPage_leads (h : SpellsRows bytes (values :: rows)) (behind : Bytes) :
    ∃ first, ofPage (bytes ++ behind) = .ok first ∧ first.Leads values rows behind := by
  obtain ⟨place, hplace⟩ : ∃ place : Row, place = ⟨0, 0, 0, .ofBytes (bytes ++ behind)⟩ := ⟨_, rfl⟩
  have hrest : place.reader.rest = bytes ++ behind := by
    rw [hplace]
    rfl
  obtain ⟨entered, henter, hleads⟩ := enter_leads h hrest
  rw [hplace] at henter
  have hne : (bytes ++ behind).isEmpty = false := by
    cases h
    rfl
  refine ⟨entered, ?_, hleads⟩
  rw [ofPage, hne]
  simp only [henter]
  rfl

/-- To read a column, or to skip it, leaves the others and the rows that follow. -/
theorem Leads.step (h : row.Leads values rows behind) {op : RowOp} (hop : op ≠ .next) :
    ∃ left, (row.step op).2.Leads left rows behind := by
  rcases row.step_of_ne_next hop with ⟨value, answer, stop, hread, hstep⟩ | ⟨e, _, hstep⟩
  · rw [hstep]
    obtain ⟨hsize, columns, more, hcolumns, hmore, hrest⟩ := h
    cases hcolumns with
    | nil =>
      have hnone : row.size ≤ row.position := Nat.le_of_eq hsize
      rw [readColumn, if_pos hnone] at hread
      cases hread
    | cons first rest =>
      rename_i column columns value' values
      rw [List.length_cons] at hsize
      rw [List.append_assoc] at hrest
      have hfirst := (readColumn_eq_ok_iff (by omega)).mpr ⟨column, _, first, hrest, rfl⟩
      cases hread.symm.trans hfirst
      exact ⟨values, by show row.size = row.position + 1 + values.length; omega,
        columns, more, rest, hmore, rfl⟩
  · rw [hstep]
    exact ⟨values, h⟩

/-- Behind the columns that are left comes the next header. -/
theorem Leads.next_eq_enter (h : row.Leads values rows behind) :
    ∃ stop : Row, Row.next row = stop.enter ∧ stop.Leads [] rows behind := by
  obtain ⟨hsize, columns, more, hcolumns, hmore, hrest⟩ := h
  obtain ⟨stop, hpasses, hstop⟩ := hcolumns.passes hrest (Nat.le_of_eq hsize.symm)
  obtain ⟨hsize', hposition⟩ := hpasses.moved
  have hend : stop.size = stop.position := by omega
  exact ⟨stop, hpasses.next_eq_enter (Nat.le_of_eq hend) (Nat.le_of_eq hend.symm), hend, [], more,
    .nil, hmore, hstop⟩

theorem Leads.next_ok (h : row.Leads values (following :: rows) behind) :
    ∃ entered, Row.next row = .ok () entered ∧ entered.Leads following rows behind := by
  obtain ⟨stop, hnext, _, _, more, hnone, hmore, hrest⟩ := h.next_eq_enter
  cases hnone
  rw [hnext]
  exact enter_leads hmore hrest

theorem Leads.next_fails (h : row.Leads values [] behind) (hend : ¬ BeginsRow behind) :
    ∃ stop, Row.next row = .error .invalidPacket stop ∧ stop.Leads [] [] behind := by
  obtain ⟨stop, hnext, hleads⟩ := h.next_eq_enter
  obtain ⟨_, _, more, hnone, hmore, hrest⟩ := id hleads
  cases hnone
  cases hmore
  rw [hnext]
  exact ⟨stop, enter_of_not_beginsRow (by rwa [hrest]), hleads⟩

end Row

/-! ### The way through a page -/

namespace Cursor

/-- The cursor has entered so many rows of a page that announces some and carries some. Before the
first is entered it already stands there. -/
structure Walks (cursor : Cursor) (announced carried : Nat) (behind : Bytes) (entered : Nat) :
    Prop where
  rowCount_eq : cursor.rowCount = announced
  entered_eq : cursor.entered = entered
  entered_le : entered ≤ min announced carried
  row_eq : ∃ row, cursor.row = some row ∧ (0 < announced → ∃ values rows,
    row.Leads values rows behind ∧ max 1 entered + rows.length = carried)

/-- What an attempt to enter a row comes to that has so many attempts before it, on a page that
announces some rows and carries some. -/
def verdict (announced carried earlier : Nat) : Except Error CursorAnswer :=
  if earlier < min announced carried then .ok (.entered true)
  else if announced ≤ carried then .ok (.entered false)
  else .error .invalidPacket

variable {cursor taken : Cursor} {page : ResultPage} {rows : List (List ColumnValue)}
  {announced carried entered : Nat} {behind : Bytes}

/-- Once all rows that are both announced and carried have been entered, every attempt comes to the
same. -/
theorem verdict_min (announced carried attempt : Nat) :
    verdict announced carried (min attempt (min announced carried)) =
      verdict announced carried attempt := by
  unfold verdict
  by_cases h : attempt < min announced carried
  · rw [Nat.min_eq_left (Nat.le_of_lt h)]
  · rw [Nat.min_eq_right (Nat.le_of_not_lt h), if_neg h, if_neg (Nat.lt_irrefl _)]

theorem walks_of_takePage (h : page.Carries announced rows)
    (htake : cursor.takePage page = .ok taken) :
    ∃ behind, (announced ≤ rows.length ∨ ¬ BeginsRow behind) ∧
      taken.Walks announced rows.length behind 0 := by
  obtain ⟨hcount, bytes, behind, hbytes, hdata, hend⟩ := h
  refine ⟨behind, hend, ?_⟩
  have hrejects : ¬ page.Unusable := by
    intro hunusable
    cases htake.symm.trans (takePage_of_unusable hunusable)
  unfold takePage at htake
  split at htake
  · cases htake
  · split at htake
    · rename_i row hrow
      cases htake
      refine ⟨by show page.rowCount.toInt.toNat = announced; omega, rfl, Nat.zero_le _, row, rfl,
        fun hpos => ?_⟩
      cases hbytes with
      | nil =>
        -- Without a row to carry, a page that announces one would have been rejected.
        have hbehind : ¬ BeginsRow behind := hend.resolve_left (Nat.not_le_of_lt hpos)
        exact absurd ⟨by rwa [hdata], .inl (by omega)⟩ hrejects
      | cons countable first rest =>
        rename_i columns more values rows
        obtain ⟨first', hfirst, hleads⟩ :=
          Row.ofPage_leads (.cons countable first rest) behind
        rw [hdata] at hrow
        cases hrow.symm.trans hfirst
        exact ⟨values, rows, hleads, Nat.add_comm _ _⟩
    · cases htake

theorem Walks.increment (h : cursor.Walks announced carried behind entered)
    (hend : announced ≤ carried ∨ ¬ BeginsRow behind) :
    (cursor.step .increment).1 = verdict announced carried entered ∧
      (cursor.step .increment).2.Walks announced carried behind
        (min (entered + 1) (min announced carried)) := by
  obtain ⟨hcount, hentered, hle, row, hrow, hleads⟩ := h
  have hattempted := cursor.attempted_increment
  simp only [step]
  generalize cursor.increment = result at hattempted
  cases hattempted with
  | ended none_left =>
    have hlast : announced ≤ entered := by
      rcases none_left with hnone | hheld
      · cases hrow.symm.trans hnone
      · omega
    have hmin : min (entered + 1) (min announced carried) = entered := by omega
    rw [hmin, verdict, if_neg (by omega), if_pos (by omega)]
    exact ⟨rfl, hcount, hentered, hle, row, hrow, hleads⟩
  | first _ hzero further =>
    obtain ⟨values, rows, hfirst, hcarried⟩ := hleads (by omega)
    have hmin : min (entered + 1) (min announced carried) = 1 := by omega
    rw [hmin, verdict, if_pos (by omega)]
    exact ⟨rfl, hcount, rfl, by omega, row, hrow, fun _ => ⟨values, rows, hfirst, by omega⟩⟩
  | next hrow' hne further hnext =>
    cases hrow.symm.trans hrow'
    obtain ⟨values, rows, hleads, hcarried⟩ := hleads (by omega)
    -- The way on leads to a row just when the page carries one behind those that were entered.
    cases rows with
    | nil =>
      have hlast : ¬ announced ≤ carried := by
        rw [List.length_nil] at hcarried
        omega
      obtain ⟨stop, hfails, _⟩ := hleads.next_fails (hend.resolve_left hlast)
      cases hnext.symm.trans hfails
    | cons following rows =>
      obtain ⟨row', hnext', hleads'⟩ := hleads.next_ok
      cases hnext.symm.trans hnext'
      rw [List.length_cons] at hcarried
      have hmin : min (entered + 1) (min announced carried) = entered + 1 := by omega
      rw [hmin, verdict, if_pos (by omega)]
      exact ⟨rfl, hcount, congrArg (· + 1) hentered, by omega, _, rfl, fun _ =>
        ⟨following, rows, hleads', by omega⟩⟩
  | stuck hrow' hne further hnext =>
    cases hrow.symm.trans hrow'
    obtain ⟨values, rows, hleads, hcarried⟩ := hleads (by omega)
    cases rows with
    | nil =>
      rw [List.length_nil] at hcarried
      obtain ⟨stop, hfails, hleads'⟩ := hleads.next_fails (hend.resolve_left (by omega))
      cases hnext.symm.trans hfails
      have hmin : min (entered + 1) (min announced carried) = entered := by omega
      rw [hmin, verdict, if_neg (by omega), if_neg (by omega)]
      exact ⟨rfl, hcount, hentered, hle, _, rfl, fun _ => ⟨[], [], hleads', hcarried⟩⟩
    | cons following rows =>
      obtain ⟨row', hnext', _⟩ := hleads.next_ok
      cases hnext.symm.trans hnext'

/-- To read or skip columns of the row at hand is no step on the way. -/
theorem Walks.use (h : cursor.Walks announced carried behind entered) {op : RowOp}
    (hop : op ≠ .next) :
    (cursor.step (.use op)).2.Walks announced carried behind entered := by
  obtain ⟨hcount, hentered, hle, row, hrow, hleads⟩ := h
  simp only [step]
  split
  · exact ⟨hcount, hentered, hle, row, hrow, hleads⟩
  · rename_i row' hcurrent
    cases hrow.symm.trans (row_of_currentRow hcurrent)
    refine ⟨hcount, hentered, hle, _, rfl, fun hpos => ?_⟩
    obtain ⟨values, rows, hleads, hcarried⟩ := hleads hpos
    obtain ⟨left, hleft⟩ := hleads.step hop
    exact ⟨left, rows, hleft, hcarried⟩

/-- Each attempt comes to what its number and the two counts tell. -/
theorem Walks.attempts {done : Nat} {ops : List CursorOp}
    (h : cursor.Walks announced carried behind (min done (min announced carried)))
    (hend : announced ≤ carried ∨ ¬ BeginsRow behind) (hops : ∀ op ∈ ops, op.Orderly) {i : Nat}
    {answer : Except Error CursorAnswer}
    (hanswer : (CursorRecord.attempts (cursor.run ops).1)[i]? = some answer) :
    answer = verdict announced carried (done + i) := by
  induction ops generalizing cursor done i with
  | nil => cases hanswer
  | cons op ops ih =>
    have hlater : ∀ op ∈ ops, op.Orderly := fun op hop => hops op (List.mem_cons_of_mem _ hop)
    cases hops op List.mem_cons_self with
    | use stays => exact ih (h.use stays) hlater hanswer
    | increment =>
      obtain ⟨hverdict, hwalks⟩ := h.increment hend
      cases i with
      | zero =>
        exact (Option.some.inj hanswer).symm.trans (hverdict.trans (verdict_min _ _ _))
      | succ i =>
        have hmin : min (min done (min announced carried) + 1) (min announced carried) =
            min (done + 1) (min announced carried) := by omega
        rw [hmin] at hwalks
        have hnumber : done + (i + 1) = done + 1 + i := by omega
        rw [hnumber]
        exact ih hwalks hlater hanswer

end Cursor

/-! ### All together -/

/-- A page that is read from an answer announces no negative number of rows. -/
theorem Decoder.rowCount_of_resultPage {bytes : Bytes} {page : ResultPage}
    (h : resultPage.decode bytes = .ok page) : 0 ≤ page.rowCount.toInt := by
  unfold decode at h
  split at h
  · rename_i accepted
    cases h
    obtain ⟨_, _, _, accepted⟩ := bind_accepts.mp accepted
    obtain ⟨id, _, _, accepted⟩ := bind_accepts.mp accepted
    obtain ⟨last, _, _, accepted⟩ := bind_accepts.mp accepted
    obtain ⟨rowCount, _, _, accepted⟩ := bind_accepts.mp accepted
    split at accepted
    · cases accepted
    · rename_i hcount
      obtain ⟨data, _, _, accepted⟩ := bind_accepts.mp accepted
      obtain ⟨rfl, _⟩ := pure_accepts.mp accepted
      rw [Int32.lt_iff_toInt_lt] at hcount
      exact Int.not_lt.mp hcount
  · cases h

namespace Cursor

/-- What a cursor tells of further rows agrees with what it does. -/
structure Coherent (cursor : Cursor) : Prop where
  bounded : cursor.Bounded
  hasNext_of_needsPage : cursor.needsPage = true → cursor.hasNext = true
  /-- A further row that no page is needed for is entered, or the attempt fails. -/
  enters_or_fails : cursor.hasNext = true → cursor.needsPage = false →
    (∃ entered, cursor.increment = .ok true entered) ∨
      ∃ e stuck, cursor.increment = .error e stuck
  holds_entered : ∀ entered, cursor.increment = .ok true entered →
    ∃ row, entered.currentRow = some row
  same_of_rejected : ∀ page e, (cursor.step (.take page)).1 = .error e →
    (cursor.step (.take page)).2 = cursor

theorem Bounded.coherent {cursor : Cursor} (h : cursor.Bounded) : cursor.Coherent := by
  refine ⟨h, Cursor.hasNext_of_needsPage, ?_, fun entered => currentRow_of_increment, ?_⟩
  · intro hnext hneed
    cases hincrement : cursor.increment with
    | error e stuck => exact .inr ⟨e, stuck, rfl⟩
    | ok more entered =>
      cases more with
      | true => exact .inl ⟨entered, rfl⟩
      | false => exact absurd hincrement (increment_ne_false hnext hneed)
  · intro page e h
    simp only [Cursor.step] at h ⊢
    split at h
    · cases h
    · rfl

/-- Whatever was done with a cursor since it was opened, what it tells agrees with what it does. Of
a page it enters as many rows as are both announced and carried, and no fetch is the library's own
fault. -/
theorem coherent_in_any_hands (ν : Type) [Network ν] (id : QueryId) (ops : List CursorOp) :
    let cursor := ((opened id).run ops).2
    (∀ bytes page, Decoder.resultPage.decode bytes = .ok page → 0 ≤ page.rowCount.toInt) ∧
    cursor.Coherent ∧
    (∀ page announced rows taken later, ResultPage.Carries page announced rows →
      cursor.takePage page = .ok taken → (∀ op ∈ later, CursorOp.Orderly op) → ∀ attempt answer,
        (CursorRecord.attempts (taken.run later).1)[attempt]? = some answer →
          answer = verdict announced rows.length attempt) ∧
    ∀ (q : DataQuery) (c : Connection ν) (columns : Bindings DataBuffer),
      (∀ e, (q.fetch c columns).result = .error e → ¬ e.Internal) ∧
      ∀ start loaded c', q.cursor = some start → start.hasNext = true →
        start.loadPage c = (.ok true, loaded, c') → ∀ left, loaded.increment ≠ .ok false left := by
  intro cursor
  have hopened : (opened id).Bounded := ⟨Nat.le_refl _, Nat.zero_lt_succ _⟩
  refine ⟨fun bytes page => Decoder.rowCount_of_resultPage, (hopened.run ops).coherent, ?_,
    fun q c columns => ⟨fun e => DataQuery.not_internal_of_fetch, ?_⟩⟩
  · intro page announced rows taken later hcarries htake horderly attempt answer hanswer
    obtain ⟨behind, hend, hwalks⟩ := walks_of_takePage hcarries htake
    rw [← Nat.zero_min (min announced rows.length)] at hwalks
    have h := hwalks.attempts hend horderly hanswer
    rwa [Nat.zero_add] at h
  · intro start loaded c' _ hnext hload left
    obtain ⟨hnext', hneed⟩ := hasNext_of_loadPage hnext hload
    exact increment_ne_false hnext' (hneed rfl)

/-- A page that announces a row and has no bytes, and one that announces two rows and carries one,
with attempts before, between and behind them. -/
theorem coherent_in_any_hands_short_page :
    let lost : ResultPage := ⟨5, false, 1, []⟩
    let page : ResultPage := ⟨5, true, 2, [1, 0, 0, 0, 3, 7, 0, 0, 0]⟩
    let cursor := ((opened 5).run [.increment, .take lost, .use .read]).2
    let taken : Cursor := ⟨5, some ⟨4, 1, 0, ⟨4, [3, 7, 0, 0, 0]⟩⟩, 2, 0, true⟩
    let spent : Cursor := ⟨5, some ⟨4, 1, 1, ⟨9, []⟩⟩, 2, 1, true⟩
    let later : List CursorOp :=
      [.use .skip, .increment, .use .read, .increment, .use .read, .increment]
    let attempts := CursorRecord.attempts (taken.run later).1
    let c : Connection ScriptedPeer := { channel := ⟨⟨none, [], [], false, [], []⟩, []⟩ }
    let q : DataQuery := { sql := "", cursor := some spent }
    (Decoder.resultPage.decode page.encode = .ok page ∧ 0 ≤ page.rowCount.toInt) ∧
      ((cursor.step (.take lost)).1 = .error .invalidPacket ∧
        (cursor.step (.take lost)).2 = cursor) ∧
      (cursor.needsPage = true ∧ cursor.hasNext = true) ∧
      (page.Carries 2 [[.int 7]] ∧ cursor.takePage page = .ok taken) ∧
      ((∀ op ∈ later, op.Orderly) ∧ attempts.length = 3 ∧
        ∀ attempt answer, attempts[attempt]? = some answer → answer = verdict 2 1 attempt) ∧
      (spent.hasNext = true ∧ spent.loadPage c = (.ok true, spent, c) ∧
        ∀ left, spent.increment ≠ .ok false left) ∧
      (q.fetch c {}).result = .error .invalidPacket ∧ ¬ Error.Internal .invalidPacket := by
  intro lost page cursor taken spent later attempts c q
  obtain ⟨hcount, hcoherent, hpage, hfetch⟩ :=
    coherent_in_any_hands ScriptedPeer 5 [.increment, .take lost, .use .read]
  have hdecode : Decoder.resultPage.decode page.encode = .ok page :=
    page.decode_encode (by decide)
  have hlost : (cursor.step (.take lost)).1 = .error .invalidPacket := rfl
  have hcarries : page.Carries 2 [[.int 7]] := by
    have hcolumn : SpellsColumn [3, 7, 0, 0, 0] (.int 7) := .primitive .int rfl
    have hrow : SpellsRows page.data [[.int 7]] :=
      @SpellsRows.cons [3, 7, 0, 0, 0] [] [.int 7] [] (by decide) (.cons hcolumn .nil) .nil
    exact ⟨rfl, page.data, [], hrow, rfl, .inr fun h => h.ne_nil rfl⟩
  have htake : cursor.takePage page = .ok taken := rfl
  have horderly : ∀ op ∈ later, op.Orderly := by
    intro op hop
    simp only [later, List.mem_cons, List.not_mem_nil, or_false] at hop
    rcases hop with rfl | rfl | rfl | rfl | rfl | rfl
    all_goals constructor
    all_goals decide
  have hload : spent.loadPage c = (.ok true, spent, c) := loadPage_of_held rfl
  have hfails : (q.fetch c {}).result = .error .invalidPacket := by
    rw [DataQuery.fetch_of_loadPage rfl rfl rfl hload]
    rfl
  obtain ⟨hinternal, hexit⟩ := hfetch q c {}
  exact ⟨⟨hdecode, hcount _ _ hdecode⟩, ⟨hlost, hcoherent.same_of_rejected _ _ hlost⟩,
    ⟨rfl, hcoherent.hasNext_of_needsPage rfl⟩, ⟨hcarries, htake⟩,
    ⟨horderly, rfl, hpage page 2 _ taken later hcarries htake horderly⟩,
    ⟨rfl, hload, hexit spent spent c rfl rfl hload⟩, hfails, hinternal _ hfails⟩

end Cursor

end GridClient
