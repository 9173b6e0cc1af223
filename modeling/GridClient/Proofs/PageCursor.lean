import GridClient.Proofs.Answer
import GridClient.Proofs.Delivery
import GridClient.Query.Data

/-!
Cursors over rows that a node serves in pages. A page without rows is passed over unless it is the
last, so that a cursor always comes to the next row, however the rows are cut into pages.
-/
namespace GridClient

namespace Decoder

variable {α β : Type} {d : Decoder α} {bytes : Bytes} {a : α}

theorem Reads.bind_apply {f : α → Decoder β} (h : Reads d bytes a) (position : Nat)
    (rest : Bytes) :
    (d >>= f) ⟨position, bytes ++ rest⟩ = f a ⟨position + bytes.length, rest⟩ := by
  show EStateM.bind d f _ = _
  rw [EStateM.bind, h position rest]

theorem reads_status : Reads status [0] () :=
  Reads.tagged (reads_pure ())

end Decoder

/-- A page as the node sends it: a status of zero and the fields. -/
def ResultPage.encode (page : ResultPage) : Bytes :=
  [0] ++ (encodeInt64 page.id ++ (encodeBool page.last ++
    (encodeInt32 page.rowCount ++ page.data)))

theorem ResultPage.decode_encode (page : ResultPage) (h : ¬ page.rowCount < 0) :
    Decoder.resultPage.decode page.encode = .ok page := by
  rw [Decoder.decode, Reader.ofBytes, ResultPage.encode, Decoder.resultPage]
  rw [Decoder.reads_status.bind_apply, (Decoder.reads_int64 page.id).bind_apply,
    (Decoder.reads_bool page.last).bind_apply, (Decoder.reads_int32 page.rowCount).bind_apply,
    if_neg h]
  rfl

/-! ### The server's side -/

section Serving

variable {ν : Type} [Network ν]

/-- A page of some rows. -/
def ResultPage.ofRows (id : QueryId) (last : Bool) (rows : List (List Cell)) : ResultPage :=
  ⟨id, last, Int32.ofNat rows.length, pageBytes rows⟩

/-- The requests for pages are answered with these, one after another, and only the last of them
says that no other follows. -/
def ServesPages (id : QueryId) : Connection ν → List (List (List Cell)) → Prop
  | _, [] => True
  | c, rows :: pages =>
    ∃ request c', (Request.fetch id c.options.pageSize).encode = .ok request ∧
      c.Answers request (ResultPage.ofRows id pages.isEmpty rows).encode c' ∧
      ServesPages id c' pages

/-- The query is answered with a cursor. -/
def DataQuery.Opens (q : DataQuery) (parameters : Bindings Parameter) (c : Connection ν)
    (result : ExecuteResult) (c' : Connection ν) : Prop :=
  ∃ args request answer, parameters.arguments = .ok args ∧
    (Request.execute q.sql c.options.distributedJoins c.options.pageSize args).encode =
      .ok request ∧
    c.Answers request answer c' ∧ Decoder.executeResult.decode answer = .ok result

/-- No row is wider and no page longer than what its count can tell. -/
def Countable (pages : List (List (List Cell))) : Prop :=
  ∀ rows ∈ pages, rows.length < 0x80000000 ∧ ∀ cells ∈ rows, cells.length ≤ 0xFFFF

end Serving

namespace ScriptedPeer

/-- The answers that serve some pages. -/
def pageScript (id : QueryId) : List (List (List Cell)) → List PeerAnswer
  | [] => []
  | rows :: pages =>
    .message (ResultPage.ofRows id pages.isEmpty rows).encode :: pageScript id pages

/-- A peer with a page left gives it to the next request for one. -/
theorem answers_page {port : Option UInt16} {script : List PeerAnswer} {messages : List Bytes}
    {c : Connection ScriptedPeer} {page : ResultPage} (hopen : c.isOpen = true)
    (hp : c.network = ⟨port, .message page.encode :: script, messages, false, [], []⟩)
    (hlen : page.data.length < 0x7FFFFF00) (id : QueryId) :
    ∃ request c', (Request.fetch id c.options.pageSize).encode = .ok request ∧
      c.Answers request page.encode c' ∧ c'.isOpen = true ∧
      c'.network = ⟨port, script, request :: messages, false, [], []⟩ := by
  have hreq : (Request.fetch id c.options.pageSize).encode =
      .ok (Command.fetch.code :: (encodeInt64 id ++ encodeInt32 c.options.pageSize)) := rfl
  have hreqlen : (Command.fetch.code ::
      (encodeInt64 id ++ encodeInt32 c.options.pageSize)).length < 0x80000000 := by
    simp only [List.length_cons, List.length_append, length_encodeInt64, length_encodeInt32]
    omega
  have hanslen : page.encode.length < 0x80000000 := by
    simp only [ResultPage.encode, encodeBool, List.length_cons, List.length_append,
      length_encodeInt64, length_encodeInt32, List.length_nil]
    omega
  exact ⟨_, _, hreq, answers hopen hp (List.cons_ne_nil _ _) hreqlen hanslen, hopen, rfl⟩

theorem servesPages {port : Option UInt16} {messages : List Bytes} {id : QueryId}
    {c : Connection ScriptedPeer} {pages : List (List (List Cell))} (hopen : c.isOpen = true)
    (hp : c.network = ⟨port, pageScript id pages, messages, false, [], []⟩)
    (hlen : ∀ rows ∈ pages, (pageBytes rows).length < 0x7FFFFF00) : ServesPages id c pages := by
  induction pages generalizing c messages with
  | nil => trivial
  | cons rows pages ih =>
    obtain ⟨request, c', hreq, hans, hopen', hp'⟩ :=
      answers_page hopen hp (hlen rows List.mem_cons_self) id
    exact ⟨request, c', hreq, hans,
      ih hopen' hp' fun rows h => hlen rows (List.mem_cons_of_mem _ h)⟩

end ScriptedPeer

/-! ### Cursors -/

namespace Cursor

variable {cursor : Cursor} {id : QueryId} {rows : List (List Cell)} {entered : Nat} {last : Bool}

/-- The cursor holds a page of these rows and has entered so many of them. -/
structure Holds (cursor : Cursor) (id : QueryId) (rows : List (List Cell)) (entered : Nat)
    (last : Bool) : Prop where
  id_eq : cursor.id = id
  rowCount_eq : cursor.rowCount = rows.length
  entered_eq : cursor.entered = entered
  last_eq : cursor.lastPage = last
  /-- A page of no rows stands at none. -/
  row_eq : ∃ row, cursor.row = some row ∧
    (rows ≠ [] → ∃ column, Place.InPage rows ⟨entered - 1, column⟩ ∧
      (entered = 0 → column = 0) ∧ row = Place.toRow rows ⟨entered - 1, column⟩)

theorem Holds.hasNext_eq (h : cursor.Holds id rows entered last) :
    cursor.hasNext = (entered < rows.length || !last) := by
  obtain ⟨row, hrow, _⟩ := h.row_eq
  rw [hasNext, hrow, h.entered_eq, h.rowCount_eq, h.last_eq]
  rfl

theorem Holds.needsPage_eq (h : cursor.Holds id rows entered last) :
    cursor.needsPage = (rows.length ≤ entered && !last) := by
  obtain ⟨row, hrow, _⟩ := h.row_eq
  rw [needsPage, hrow, h.entered_eq, h.rowCount_eq, h.last_eq]
  rfl

theorem ofRows_rowCount (id : QueryId) (last : Bool) (h : rows.length < 0x80000000) :
    (ResultPage.ofRows id last rows).rowCount.toInt = rows.length :=
  Int32.toInt_ofNat_of_lt h

theorem pageBytes_ne_nil (h : rows ≠ []) : pageBytes rows ≠ [] := by
  intro hb
  cases rows with
  | nil => exact h rfl
  | cons row rows =>
    have hl := congrArg List.length hb
    simp only [pageBytes, rowBytes, List.flatMap_cons, List.length_append,
      LittleEndian.length_encode, List.length_nil] at hl
    omega

/-- A page of rows is taken as it is. -/
theorem takePage_ofRows (cursor : Cursor) (last : Bool) (hcount : rows.length < 0x80000000)
    (hwidth : ∀ cells ∈ rows, cells.length ≤ 0xFFFF) :
    ∃ cursor', cursor.takePage (.ofRows cursor.id last rows) = .ok cursor' ∧
      cursor'.Holds cursor.id rows 0 last := by
  have hc := ofRows_rowCount cursor.id last hcount
  have htoNat : (ResultPage.ofRows cursor.id last rows).rowCount.toInt.toNat = rows.length := by
    rw [hc, Int.toNat_natCast]
  by_cases hne : rows = []
  · subst hne
    exact ⟨_, rfl, rfl, rfl, rfl, rfl, _, rfl, fun h => absurd rfl h⟩
  · have hpos := List.length_pos_iff.mpr hne
    have hfirst := List.getElem?_eq_getElem hpos
    have hrow := Place.ofPage_pageBytes hfirst (Nat.lt_of_le_of_lt
      (hwidth _ (List.getElem_mem hpos)) (by decide))
    have hdata : ¬ (0 < (ResultPage.ofRows cursor.id last rows).rowCount.toInt ∧
        (ResultPage.ofRows cursor.id last rows).data.isEmpty) := by
      intro h
      exact pageBytes_ne_nil hne (List.isEmpty_iff.mp h.2)
    have hpage : (ResultPage.ofRows cursor.id last rows).data = pageBytes rows := rfl
    refine ⟨⟨cursor.id, some (Place.toRow rows ⟨0, 0⟩), rows.length, 0, last⟩, ?_, rfl, rfl, rfl,
      rfl, _, rfl, ?_⟩
    · rw [takePage, if_neg hdata, hpage, hrow, htoNat]
      rfl
    · intro _
      exact ⟨0, ⟨hpos, Nat.zero_le _⟩, fun _ => rfl, rfl⟩

/-- While the page has a further row, that is the one to be entered, from wherever in the row at
hand. -/
theorem Holds.increment (h : cursor.Holds id rows entered last) (hlt : entered < rows.length)
    (hwidth : ∀ cells ∈ rows, cells.length ≤ 0xFFFF) :
    cursor.increment = .ok true
      ⟨id, some (Place.toRow rows ⟨entered, 0⟩), rows.length, entered + 1, last⟩ := by
  obtain ⟨hid, hrowCount, hentered, hlast, row, hrow, hplace⟩ := h
  obtain ⟨column, hp, hcolumn, rfl⟩ := hplace (List.ne_nil_of_length_pos (by omega))
  have hcursor : cursor =
      ⟨id, some (Place.toRow rows ⟨entered - 1, column⟩), rows.length, entered, last⟩ := by
    rw [← hrow, ← hid, ← hrowCount, ← hentered, ← hlast]
  subst hcursor
  have hnot : ¬ rows.length ≤ entered := by omega
  rw [Cursor.increment]
  simp only [hnot, if_false]
  by_cases hzero : entered = 0
  · cases hcolumn hzero
    subst hzero
    rfl
  · have hsucc : entered - 1 + 1 = entered := by omega
    have hnext : rows[entered - 1 + 1]? = some rows[entered] := by
      rw [hsucc]
      exact List.getElem?_eq_getElem hlt
    have hn := Place.next_toRow (p := ⟨entered - 1, column⟩) hnext (Nat.lt_of_le_of_lt
      (hwidth _ (List.getElem_mem hlt)) (by decide)) hp.2
    simp only [hzero, if_false, hn, hsucc]

/-! ### Loading pages -/

section Loading

variable {ν : Type} [Network ν] {c : Connection ν} {pages : List (List (List Cell))}

theorem loadPage_of_held (h : cursor.needsPage = false) :
    cursor.loadPage c = (.ok true, cursor, c) := by
  rw [loadPage, h]
  rfl

/-- A request for a page that is answered with one. -/
theorem exchange_of_page {page : ResultPage} {request : Bytes} {c' : Connection ν}
    (hreq : (Request.fetch id c.options.pageSize).encode = .ok request)
    (hans : c.Answers request page.encode c') (hcount : ¬ page.rowCount < 0) :
    c.exchange (Request.fetch id c.options.pageSize).write Decoder.resultPage.decode =
      (.ok page, c') := by
  rw [Connection.exchange_of_answers _ hans (Request.write_eq_ok_iff.mpr hreq),
    ResultPage.decode_encode page hcount]

/-- A page asked for and taken. -/
theorem loadPage_of_taken {cursor' : Cursor} {page : ResultPage} {c' : Connection ν}
    (hneed : cursor.needsPage = true)
    (hexchange : c.exchange (Request.fetch cursor.id c.options.pageSize).write
      Decoder.resultPage.decode = (.ok page, c'))
    (hid : page.id = cursor.id) (htake : cursor.takePage page = .ok cursor') :
    cursor.loadPage c =
      if cursor'.hasNext then cursor'.loadPage c' else (.ok false, cursor', c') := by
  rw [loadPage, if_pos hneed]
  split
  · rename_i e c'' h
    cases hexchange.symm.trans h
  · rename_i page c'' h
    cases hexchange.symm.trans h
    simp only [hid, htake, ne_eq, not_true_eq_false, if_false]

/-- A page asked for and taken that has a row. -/
theorem loadPage_of_first {cursor' : Cursor} {page : ResultPage} {c' : Connection ν}
    (hneed : cursor.needsPage = true)
    (hexchange : c.exchange (Request.fetch cursor.id c.options.pageSize).write
      Decoder.resultPage.decode = (.ok page, c'))
    (hid : page.id = cursor.id) (htake : cursor.takePage page = .ok cursor')
    (hnext : cursor'.hasNext = true) (hheld : cursor'.needsPage = false) :
    cursor.loadPage c = (.ok true, cursor', c') := by
  rw [loadPage_of_taken hneed hexchange hid htake, if_pos hnext, loadPage_of_held hheld]

/-- One page of rows asked for and taken. -/
theorem loadPage_of_page {rows : List (List Cell)} {request : Bytes} {c' : Connection ν}
    (hneed : cursor.needsPage = true)
    (hreq : (Request.fetch cursor.id c.options.pageSize).encode = .ok request)
    (hans : c.Answers request (ResultPage.ofRows cursor.id last rows).encode c')
    (hcount : rows.length < 0x80000000) (hwidth : ∀ cells ∈ rows, cells.length ≤ 0xFFFF) :
    ∃ cursor' : Cursor, cursor'.Holds cursor.id rows 0 last ∧
      cursor.loadPage c =
        if cursor'.hasNext then cursor'.loadPage c' else (.ok false, cursor', c') := by
  obtain ⟨cursor', htake, hholds⟩ := takePage_ofRows cursor last hcount hwidth
  have hexchange := exchange_of_page hreq hans (by
    rw [Int32.lt_iff_toInt_lt, ofRows_rowCount cursor.id last hcount]
    simp)
  exact ⟨cursor', hholds, loadPage_of_taken hneed hexchange rfl htake⟩

/-- What loading comes to, with these rows to come: a page with the first of them, or the end. -/
inductive Loaded (id : QueryId) (rows : List (List Cell)) :
    Except Error Bool × Cursor × Connection ν → Prop where
  | entering {cursor : Cursor} {c : Connection ν} {page : List (List Cell)} {entered : Nat}
    {pages : List (List (List Cell))} (holds : cursor.Holds id page entered pages.isEmpty)
    (lt : entered < page.length) (served : ServesPages id c pages)
    (countable : Countable (page :: pages)) (rows_eq : page.drop entered ++ pages.flatten = rows) :
    Loaded id rows (.ok true, cursor, c)
  | ended {cursor : Cursor} {c : Connection ν} (holds : cursor.Holds id [] 0 true)
    (rows_eq : rows = []) : Loaded id rows (.ok false, cursor, c)

/-- The pages to come are gone through up to the first that has a row. -/
theorem loaded_of_served (hid : cursor.id = id) (hne : pages ≠ []) (hcount : Countable pages)
    (hneed : cursor.needsPage = true) (hserve : ServesPages id c pages) :
    Loaded id pages.flatten (cursor.loadPage c) := by
  subst hid
  induction pages generalizing cursor c with
  | nil => exact absurd rfl hne
  | cons rows pages ih =>
    obtain ⟨request, c', hreq, hans, hserve'⟩ := hserve
    obtain ⟨hlen, hwidth⟩ := hcount rows List.mem_cons_self
    obtain ⟨cursor', hholds, hload⟩ := loadPage_of_page hneed hreq hans hlen hwidth
    rw [hload]
    by_cases hrows : rows = []
    · subst hrows
      by_cases hpages : pages = []
      · subst hpages
        have hnext : cursor'.hasNext = false := by
          rw [hholds.hasNext_eq]
          rfl
        rw [hnext]
        exact .ended hholds rfl
      · have hempty : pages.isEmpty = false := by simpa using hpages
        have hnext : cursor'.hasNext = true := by
          rw [hholds.hasNext_eq, hempty]
          rfl
        have hneed' : cursor'.needsPage = true := by
          rw [hholds.needsPage_eq, hempty]
          rfl
        rw [if_pos hnext, ← hholds.id_eq, List.flatten_cons, List.nil_append]
        rw [← hholds.id_eq] at hserve'
        exact ih hpages (fun rows h => hcount rows (List.mem_cons_of_mem _ h)) hneed' hserve'
    · have hpos := List.length_pos_iff.mpr hrows
      have hnext : cursor'.hasNext = true := by
        rw [hholds.hasNext_eq, decide_eq_true hpos, Bool.true_or]
      have hneed' : cursor'.needsPage = false := by
        rw [hholds.needsPage_eq, decide_eq_false (by omega), Bool.false_and]
      rw [if_pos hnext, loadPage_of_held hneed']
      exact .entering hholds hpos hserve' hcount rfl

end Loading

end Cursor

end GridClient
