import GridClient.Proofs.Reading
import GridClient.Row

/-!
Pages as a node writes them: each row is its column count and then its values. A row of such a
page is entered, read and left exactly as it was written.
-/
namespace GridClient

/-- A value that a column can hold: any but a byte string, and short enough to be written. -/
structure Cell where
  value : WireValue
  isColumn : value.tag ≠ .byteArray
  encodable : ∃ bytes, value.encode = .ok bytes

namespace Cell

/-- What the column is read as. A single UTF-16 unit keeps its sixteen bits. -/
def column (cell : Cell) : ColumnValue :=
  match cell.value, cell.isColumn with
  | .null, _ => .null
  | .byte v, _ => .byte v
  | .short v, _ => .short v
  | .char v, _ => .short v.toInt16
  | .int v, _ => .int v
  | .long v, _ => .long v
  | .float v, _ => .float v
  | .double v, _ => .double v
  | .bool v, _ => .bool v
  | .string v, _ => .string v
  | .uuid v, _ => .guid v
  | .byteArray _, h => absurd rfl h

/-- What is written for the value. -/
def bytes (cell : Cell) : Bytes := cell.value.encode.toOption.getD []

theorem encode_eq (cell : Cell) : cell.value.encode = .ok cell.bytes := by
  obtain ⟨bytes, h⟩ := cell.encodable
  rw [Cell.bytes, h]
  rfl

end Cell

namespace Decoder

variable {β : Type} {f : UInt8 → Decoder β} (tag : TypeTag) {bytes : Bytes} {b : β}

/-- The tag of a primitive or of the null marker is taken off. -/
theorem Reads.consumed (h : tag.isConsumedOnPeek = true) (hr : Reads (f tag.code) bytes b) :
    Reads (columnHeader >>= f) (tag.code :: bytes) b := by
  have hh : Reads columnHeader [tag.code] tag.code := by
    intro position rest
    rw [columnHeader, reads_uint8 tag.code position rest]
    simp only [TypeTag.ofCode?_code, Option.any_some, h, if_true]
  exact hh.bind hr

/-- Every other tag is left to the reader of its kind. -/
theorem Reads.peeked (h : tag.isConsumedOnPeek = false)
    (hr : Reads (f tag.code) (tag.code :: bytes) b) :
    Reads (columnHeader >>= f) (tag.code :: bytes) b := by
  intro position rest
  have hh : columnHeader ⟨position, tag.code :: bytes ++ rest⟩ =
      .ok tag.code ⟨position, tag.code :: bytes ++ rest⟩ := by
    have hu := reads_uint8 tag.code position (bytes ++ rest)
    rw [columnHeader, List.cons_append, ← List.singleton_append, hu]
    simp [TypeTag.ofCode?_code, h]
  show EStateM.bind columnHeader f _ = _
  rw [EStateM.bind, hh]
  exact hr position rest

theorem reads_columnValue (cell : Cell) : Reads columnValue cell.bytes cell.column := by
  obtain ⟨v, hc, he⟩ := cell
  cases v with
  | null => exact Reads.consumed .null rfl (reads_pure _)
  | byte v => exact Reads.consumed .byte rfl (reads_int8 v).map
  | short v => exact Reads.consumed .short rfl (reads_int16 v).map
  | char v => exact Reads.consumed .char rfl (reads_int16 v.toInt16).map
  | int v => exact Reads.consumed .int rfl (reads_int32 v).map
  | long v => exact Reads.consumed .long rfl (reads_int64 v).map
  | float v => exact Reads.consumed .float rfl (reads_binary32 v).map
  | double v => exact Reads.consumed .double rfl (reads_binary64 v).map
  | bool v => exact Reads.consumed .bool rfl (reads_bool v).map
  | string v =>
    obtain ⟨hlen, hbytes⟩ := encodeString_eq_ok (Cell.encode_eq ⟨.string v, hc, he⟩)
    rw [hbytes]
    exact Reads.peeked .string rfl (reads_string hlen).map
  | uuid v => exact Reads.peeked .uuid rfl (reads_guid v).map
  | byteArray v => exact absurd rfl hc

end Decoder

/-- A header that is whole and not negative is a row's. -/
theorem Row.enter_of_rest {row : Row} {n : Nat} {rest : Bytes} (h : n < 0x80000000)
    (hr : row.reader.rest = LittleEndian.encode 4 n ++ rest) :
    row.enter = .ok () ⟨row.reader.position + 4, n, 0, ⟨row.reader.position + 4, rest⟩⟩ := by
  have hl := Decoder.reads_length h row.reader.position rest
  rw [← hr, LittleEndian.length_encode] at hl
  rw [Row.enter, show row.reader = ⟨row.reader.position, row.reader.rest⟩ from rfl, hl]

/-! ### Rows and pages -/

/-- Columns, one after another. -/
def cellBytes (cells : List Cell) : Bytes := cells.flatMap Cell.bytes

/-- A row: its column count, then its columns. -/
def rowBytes (cells : List Cell) : Bytes := LittleEndian.encode 4 cells.length ++ cellBytes cells

/-- Rows, one after another. -/
def pageBytes (rows : List (List Cell)) : Bytes := rows.flatMap rowBytes

/-- A place in a page: a row, and the number of its columns that lie behind. -/
structure Place where
  row : Nat
  column : Nat
  deriving DecidableEq, Repr

namespace Place

variable (rows : List (List Cell)) (p : Place)

/-- The columns of the row. -/
def cells : List Cell := rows[p.row]?.getD []

/-- Where the columns of the row begin. -/
def start : Nat := (pageBytes (rows.take p.row)).length + 4

/-- Where the next column begins. -/
def streamPosition : Nat := p.start rows + (cellBytes ((p.cells rows).take p.column)).length

/-- What follows in the page. -/
def rest : Bytes :=
  cellBytes ((p.cells rows).drop p.column) ++ pageBytes (rows.drop (p.row + 1))

/-- A row of the page that stands at the place. -/
def toRow : Row :=
  ⟨p.start rows, (p.cells rows).length, p.column, ⟨p.streamPosition rows, p.rest rows⟩⟩

/-- The row exists, and at most all of its columns lie behind. -/
def InPage : Prop := p.row < rows.length ∧ p.column ≤ (p.cells rows).length

variable {rows p}

theorem readColumn_toRow {cell : Cell} (h : (p.cells rows)[p.column]? = some cell) :
    (p.toRow rows).readColumn =
      .ok cell.column ({ p with column := p.column + 1 }.toRow rows) := by
  obtain ⟨hlt, hcell⟩ := List.getElem?_eq_some_iff.mp h
  have hdrop : (p.cells rows).drop p.column = cell :: (p.cells rows).drop (p.column + 1) := by
    rw [List.drop_eq_getElem_cons hlt, hcell]
  have hrest : p.rest rows = cell.bytes ++ rest rows { p with column := p.column + 1 } := by
    simp only [rest, cells] at hdrop ⊢
    simp only [hdrop, cellBytes, List.flatMap_cons, List.append_assoc]
  have hpos : streamPosition rows { p with column := p.column + 1 } =
      p.streamPosition rows + cell.bytes.length := by
    simp only [streamPosition, start, cells] at hlt hcell ⊢
    simp only [cellBytes, List.take_add_one, List.getElem?_eq_getElem hlt, hcell,
      Option.toList_some, List.flatMap_append, List.flatMap_singleton, List.length_append]
    omega
  have hr := Decoder.reads_columnValue cell (p.streamPosition rows)
    (rest rows { p with column := p.column + 1 })
  have hnot : ¬ (p.cells rows).length ≤ p.column := by omega
  simp only [Row.readColumn, toRow, hnot, if_false, hrest, hr, hpos]
  rfl

theorem readColumn_exhausted (h : (p.cells rows).length ≤ p.column) :
    (p.toRow rows).readColumn = .error .rowExhausted (p.toRow rows) := by
  simp only [Row.readColumn, toRow, h, if_true]

theorem skipColumn_toRow {cell : Cell} (h : (p.cells rows)[p.column]? = some cell) :
    Row.skipColumn (p.toRow rows) = .ok () ({ p with column := p.column + 1 }.toRow rows) := by
  show EStateM.bind Row.readColumn _ _ = _
  rw [EStateM.bind, readColumn_toRow h]
  rfl

theorem skipColumns_toRow (n : Nat) (h : p.column + n ≤ (p.cells rows).length) :
    Row.skipColumns n (p.toRow rows) = .ok () ({ p with column := p.column + n }.toRow rows) := by
  induction n generalizing p with
  | zero => rfl
  | succ n ih =>
    have hlt : p.column < (p.cells rows).length := by omega
    show EStateM.bind Row.skipColumn _ _ = _
    rw [EStateM.bind, skipColumn_toRow (List.getElem?_eq_getElem hlt)]
    have hn := ih (p := { p with column := p.column + 1 }) (by
      show p.column + 1 + n ≤ (p.cells rows).length
      omega)
    simp only [hn, Nat.add_assoc, Nat.add_comm 1 n]

/-- Behind the last column of a row the next row begins. -/
theorem rest_of_exhausted (h : (p.cells rows).length ≤ p.column) :
    p.rest rows = pageBytes (rows.drop (p.row + 1)) := by
  rw [rest, List.drop_eq_nil_of_le h]
  rfl

theorem streamPosition_of_exhausted (hlt : p.row < rows.length)
    (h : p.column = (p.cells rows).length) :
    p.streamPosition rows = (pageBytes (rows.take (p.row + 1))).length := by
  have hcells : p.cells rows = rows[p.row] := by
    rw [cells, List.getElem?_eq_getElem hlt, Option.getD_some]
  have htake : (p.cells rows).take p.column = rows[p.row] := by
    rw [h, List.take_length, hcells]
  rw [streamPosition, start, htake, List.take_add_one, List.getElem?_eq_getElem hlt]
  simp only [pageBytes, rowBytes, Option.toList_some, List.flatMap_append, List.flatMap_singleton,
    List.length_append, LittleEndian.length_encode]
  omega

theorem enter_toRow {cells : List Cell} (hnext : rows[p.row + 1]? = some cells)
    (hlen : cells.length < 0x80000000) (h : p.column = (p.cells rows).length) :
    Row.enter (p.toRow rows) = .ok () (toRow rows ⟨p.row + 1, 0⟩) := by
  obtain ⟨hlt, hcells⟩ := List.getElem?_eq_some_iff.mp hnext
  have hrest : p.rest rows =
      LittleEndian.encode 4 cells.length ++ rest rows ⟨p.row + 1, 0⟩ := by
    rw [rest_of_exhausted (Nat.le_of_eq h.symm), List.drop_eq_getElem_cons hlt, hcells]
    simp only [rest, Place.cells, hnext, pageBytes, rowBytes, List.flatMap_cons, List.drop_zero,
      Option.getD_some, List.append_assoc]
  have hsize : (Place.cells rows ⟨p.row + 1, 0⟩).length = cells.length := by
    rw [Place.cells, hnext, Option.getD_some]
  rw [Row.enter_of_rest hlen hrest]
  simp only [toRow, streamPosition_of_exhausted (Nat.lt_of_succ_lt hlt) h, hsize]
  rfl

theorem enter_last (hnext : rows[p.row + 1]? = none) (h : p.column = (p.cells rows).length) :
    Row.enter (p.toRow rows) = .error .invalidPacket (p.toRow rows) := by
  have hdrop : rows.drop (p.row + 1) = [] :=
    List.drop_eq_nil_of_le (List.getElem?_eq_none_iff.mp hnext)
  have hrest : p.rest rows = [] := by
    rw [rest_of_exhausted (Nat.le_of_eq h.symm), hdrop]
    rfl
  have hr : Decoder.length ⟨p.streamPosition rows, []⟩ =
      .error .unexpectedEnd ⟨p.streamPosition rows, []⟩ := rfl
  simp only [Row.enter, toRow, hrest, hr]

/-- What is left of a row is skipped before the next one is entered. -/
theorem next_eq_enter (h : p.column ≤ (p.cells rows).length) :
    Row.next (p.toRow rows) =
      Row.enter (toRow rows ⟨p.row, (p.cells rows).length⟩) := by
  have hs : Row.skipColumns ((p.cells rows).length - p.column) (p.toRow rows) =
      .ok () (toRow rows ⟨p.row, (p.cells rows).length⟩) := by
    have hn : p.column + ((p.cells rows).length - p.column) = (p.cells rows).length := by omega
    rw [skipColumns_toRow _ (Nat.le_of_eq hn), hn]
  show EStateM.bind (Row.skipColumns ((p.cells rows).length - p.column)) (fun _ => Row.enter)
    (p.toRow rows) = _
  rw [EStateM.bind, hs]

theorem next_toRow {cells : List Cell} (hnext : rows[p.row + 1]? = some cells)
    (hlen : cells.length < 0x80000000) (h : p.column ≤ (p.cells rows).length) :
    Row.next (p.toRow rows) = .ok () (toRow rows ⟨p.row + 1, 0⟩) := by
  rw [next_eq_enter h]
  exact enter_toRow (p := ⟨p.row, (p.cells rows).length⟩) hnext hlen rfl

theorem next_last (hnext : rows[p.row + 1]? = none) (h : p.column ≤ (p.cells rows).length) :
    Row.next (p.toRow rows) =
      .error .invalidPacket (toRow rows ⟨p.row, (p.cells rows).length⟩) := by
  rw [next_eq_enter h]
  exact enter_last (p := ⟨p.row, (p.cells rows).length⟩) hnext rfl

/-- The first row of a page. -/
theorem ofPage_pageBytes {cells : List Cell} (hfirst : rows[0]? = some cells)
    (hlen : cells.length < 0x80000000) :
    Row.ofPage (pageBytes rows) = .ok (toRow rows ⟨0, 0⟩) := by
  have hrest : pageBytes rows = LittleEndian.encode 4 cells.length ++ rest rows ⟨0, 0⟩ := by
    cases rows with
    | nil => cases hfirst
    | cons row rows =>
      cases hfirst
      simp only [rest, Place.cells, List.getElem?_cons_zero, pageBytes, rowBytes,
        List.flatMap_cons, List.drop_succ_cons, List.drop_zero, Option.getD_some,
        List.append_assoc]
  have hne : (pageBytes rows).isEmpty = false := by
    rw [hrest]
    rfl
  have henter : Row.enter ⟨0, 0, 0, .ofBytes (pageBytes rows)⟩ = _ :=
    Row.enter_of_rest hlen hrest
  rw [Row.ofPage, hne]
  simp only [henter]
  simp only [toRow, Place.cells, hfirst, Option.getD_some]
  rfl

end Place

end GridClient
