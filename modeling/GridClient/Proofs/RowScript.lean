import GridClient.Proofs.Page

/-!
A row of a page is a cursor over the list of rows that was written. Whatever is read, skipped and
passed over, and in whatever order, the answers are those of a row number and a column number, and
these two determine everything that a row tells of itself.
-/
namespace GridClient

/-- What can be done with a row. -/
inductive RowOp where
  | read
  | readInto (buffer : DataBuffer)
  | skip
  | next
  deriving DecidableEq, Repr

/-- What an operation gives when it succeeds. -/
inductive RowAnswer where
  | value (value : ColumnValue)
  | converted (conversion : Conversion) (buffer : DataBuffer)
  | moved
  deriving DecidableEq, Repr

/-- Runs operations one after another, whether they succeed or not. -/
def runScript {σ : Type} (step : σ → RowOp → Except Error RowAnswer × σ) :
    σ → List RowOp → List (Except Error RowAnswer) × σ
  | s, [] => ([], s)
  | s, op :: ops =>
    let (answer, s) := step s op
    let (answers, s) := runScript step s ops
    (answer :: answers, s)

namespace Row

/-- A result and the row that it leaves. -/
def outcome {α : Type} : EStateM.Result Error Row α → Except Error α × Row
  | .ok a row => (.ok a, row)
  | .error e row => (.error e, row)

/-- Does one thing with a row. -/
def step (row : Row) (op : RowOp) : Except Error RowAnswer × Row :=
  let operation : EStateM Error Row RowAnswer := match op with
    | .read => .value <$> readColumn
    | .readInto buffer =>
      (fun (conversion, buffer) => .converted conversion buffer) <$> readInto buffer
    | .skip => (fun () => .moved) <$> skipColumn
    | .next => (fun () => .moved) <$> next
  outcome (operation row)

end Row

namespace Place

variable {rows : List (List Cell)} {p : Place}

/-- What becomes of a place when the next column is used for something. -/
def onColumn (rows : List (List Cell)) (p : Place) (use : ColumnValue → RowAnswer) :
    Except Error RowAnswer × Place :=
  match (p.cells rows)[p.column]? with
  | some cell => (.ok (use cell.column), { p with column := p.column + 1 })
  | none => (.error .rowExhausted, p)

/-- What an operation does to a place. -/
def step (rows : List (List Cell)) (p : Place) : RowOp → Except Error RowAnswer × Place
  | .read => p.onColumn rows .value
  | .readInto buffer => p.onColumn rows fun value =>
      .converted (value.putInto buffer).1 (value.putInto buffer).2
  | .skip => p.onColumn rows fun _ => .moved
  | .next =>
    if p.row + 1 < rows.length then (.ok .moved, ⟨p.row + 1, 0⟩)
    else (.error .invalidPacket, { p with column := (p.cells rows).length })

theorem inPage_step (h : p.InPage rows) (op : RowOp) : (p.step rows op).2.InPage rows := by
  have hcolumn (use : ColumnValue → RowAnswer) : (p.onColumn rows use).2.InPage rows := by
    unfold onColumn
    split
    · rename_i cell hcell
      obtain ⟨hlt, _⟩ := List.getElem?_eq_some_iff.mp hcell
      exact ⟨h.1, hlt⟩
    · exact h
  cases op with
  | read => exact hcolumn _
  | readInto buffer => exact hcolumn _
  | skip => exact hcolumn _
  | next =>
    show (if _ then _ else _ : Except Error RowAnswer × Place).2.InPage rows
    split
    · rename_i hlt
      exact ⟨hlt, Nat.zero_le _⟩
    · exact ⟨h.1, Nat.le_refl _⟩

/-- Reading, reading into a buffer and skipping all decode one column and then use it. -/
theorem outcome_onColumn (use : ColumnValue → RowAnswer) :
    Row.outcome ((use <$> Row.readColumn : EStateM Error Row RowAnswer) (p.toRow rows)) =
      ((p.onColumn rows use).1, (p.onColumn rows use).2.toRow rows) := by
  show Row.outcome (EStateM.map use Row.readColumn (p.toRow rows)) = _
  unfold onColumn
  cases hcell : (p.cells rows)[p.column]? with
  | some cell =>
    rw [EStateM.map, readColumn_toRow hcell]
    rfl
  | none =>
    rw [EStateM.map, readColumn_exhausted (List.getElem?_eq_none_iff.mp hcell)]
    rfl

theorem outcome_next (hlen : ∀ cells ∈ rows, cells.length < 0x80000000) (h : p.InPage rows) :
    (Row.step (p.toRow rows) .next) =
      ((p.step rows .next).1, (p.step rows .next).2.toRow rows) := by
  show Row.outcome (EStateM.map (fun () => RowAnswer.moved) Row.next (p.toRow rows)) = _
  by_cases hlt : p.row + 1 < rows.length
  · have hp : p.step rows .next = (.ok .moved, ⟨p.row + 1, 0⟩) := if_pos hlt
    have hnext := List.getElem?_eq_getElem hlt
    rw [EStateM.map, next_toRow hnext (hlen _ (List.getElem_mem hlt)) h.2, hp]
    rfl
  · have hp : p.step rows .next = (.error .invalidPacket, ⟨p.row, (p.cells rows).length⟩) :=
      if_neg hlt
    rw [EStateM.map, next_last (List.getElem?_eq_none_iff.mpr (Nat.le_of_not_lt hlt)) h.2, hp]
    rfl

/-- Reading into a buffer and skipping are readings whose value is used at once. -/
theorem map_bind_readColumn {α : Type} (row : Row) (f : ColumnValue → α) (g : α → RowAnswer) :
    EStateM.map g (EStateM.bind Row.readColumn fun value => pure (f value)) row =
      EStateM.map (fun value => g (f value)) Row.readColumn row := by
  simp only [EStateM.map, EStateM.bind]
  cases row.readColumn <;> rfl

/-- One operation on a row that stands at a place does what it does to the place. -/
theorem step_toRow (hlen : ∀ cells ∈ rows, cells.length < 0x80000000) (h : p.InPage rows)
    (op : RowOp) :
    (p.toRow rows).step op = ((p.step rows op).1, (p.step rows op).2.toRow rows) := by
  cases op with
  | read => exact outcome_onColumn _
  | readInto buffer =>
    rw [step, ← outcome_onColumn]
    exact congrArg Row.outcome (map_bind_readColumn _ (·.putInto buffer) _)
  | skip =>
    rw [step, ← outcome_onColumn]
    exact congrArg Row.outcome (map_bind_readColumn _ (fun _ => ()) _)
  | next => exact outcome_next hlen h

/-- Any number of operations, in any order. -/
theorem runScript_toRow (hlen : ∀ cells ∈ rows, cells.length < 0x80000000) (h : p.InPage rows)
    (script : List RowOp) :
    runScript Row.step (p.toRow rows) script =
      ((runScript (Place.step rows) p script).1,
        (runScript (Place.step rows) p script).2.toRow rows) := by
  induction script generalizing p with
  | nil => rfl
  | cons op ops ih =>
    simp only [runScript, step_toRow hlen h op, ih (inPage_step h op)]

end Place

/-- A page of rows behaves as a row number and a column number. Reading and skipping go one column
on while there is one and are refused without any change behind the last; the next row is entered
from any column, and behind the last row there is none. -/
theorem row_script_refines_place (rows : List (List Cell)) (hne : rows ≠ [])
    (hlen : ∀ cells ∈ rows, cells.length < 0x80000000) :
    ∃ row, Row.ofPage (pageBytes rows) = .ok row ∧ ∀ script,
      let (answers, place) := runScript (Place.step rows) ⟨0, 0⟩ script
      let (answers', row') := runScript Row.step row script
      answers' = answers ∧
        row'.size = (place.cells rows).length ∧
        row'.position = place.column ∧
        row'.start = (pageBytes (rows.take place.row)).length + 4 ∧
        row'.streamPosition = (pageBytes (rows.take place.row)).length + 4 +
          (cellBytes ((place.cells rows).take place.column)).length := by
  cases rows with
  | nil => exact absurd rfl hne
  | cons cells rows =>
    refine ⟨_, Place.ofPage_pageBytes rfl (hlen _ List.mem_cons_self), ?_⟩
    intro script
    have h : Place.InPage (cells :: rows) ⟨0, 0⟩ := ⟨Nat.zero_lt_succ _, Nat.zero_le _⟩
    have hs := Place.runScript_toRow hlen h script
    simp only [hs]
    exact ⟨trivial, rfl, rfl, rfl, rfl⟩

/-- A row of a UTF-16 unit and a text, and one of no columns: the unit is read as sixteen bits, the
text is passed over, and the empty row is refused at once. -/
theorem row_script_refines_place_two_rows :
    let rows : List (List Cell) :=
      [[⟨.char 0xD83D, by decide, _, rfl⟩, ⟨.string "a", by decide, _, rfl⟩], []]
    rows ≠ [] ∧ (∀ cells ∈ rows, cells.length < 0x80000000) ∧
      ∃ row, Row.ofPage (pageBytes rows) = .ok row ∧
        (runScript Row.step row [.read, .next, .skip, .next]).1 =
          [.ok (.value (.short 0xD83D)), .ok .moved, .error .rowExhausted, .error .invalidPacket] ∧
        (runScript Row.step row [.read, .next, .skip, .next]).2.streamPosition = 17 := by
  intro rows
  have hne : rows ≠ [] := List.cons_ne_nil _ _
  have hlen : ∀ cells ∈ rows, cells.length < 0x80000000 := by
    intro cells h
    rcases List.mem_cons.mp h with rfl | h
    · decide
    · rcases List.mem_singleton.mp h with rfl
      decide
  refine ⟨hne, hlen, ?_⟩
  obtain ⟨row, hrow, hscript⟩ := row_script_refines_place rows hne hlen
  obtain ⟨hanswers, _, _, _, hposition⟩ := hscript [.read, .next, .skip, .next]
  refine ⟨row, hrow, hanswers.trans rfl, hposition.trans ?_⟩
  rfl

end GridClient
