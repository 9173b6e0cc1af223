import GridClient.Proofs.ReaderPositions
import GridClient.Proofs.RejectedPage
import GridClient.Proofs.RowScript
import GridClient.Proofs.UndecodableColumn

/-!
Rows of pages that nobody has checked. Whatever the bytes are and whatever is done with a row, it
stays inside the page and only goes forward. What fails leaves it where it was, and to go on to the
next row takes no more columns than there are bytes, however many the row announces.
-/
namespace GridClient

theorem SpellsColumn.length_pos {bytes : Bytes} {value : ColumnValue}
    (h : SpellsColumn bytes value) : 0 < bytes.length := by
  cases h with
  | object => rw [List.length_append, ObjectHeader.length_encode]; omega
  | _ => exact Nat.zero_lt_succ _

namespace Row

/-- A row of this page: at most all of its columns are read, and it stands behind its own start. The
column count is one that a signed word holds. -/
structure Within (row : Row) (page : Bytes) : Prop where
  reader_within : row.reader.Within page
  size_lt : row.size < 0x80000000
  position_le : row.position ≤ row.size
  start_le : row.start ≤ row.streamPosition

/-- Why there is no next column to be had: the row has no more, or it cannot be decoded. -/
inductive Refuses (row : Row) : Error → Prop where
  | exhausted (none_left : row.size ≤ row.position) : Refuses row .rowExhausted
  | undecodable {e : Error} (undecodable : row.Undecodable e) : Refuses row e

/-- The way on from a row: some columns are skipped, and then it ends, either at the end of the row,
where the next one is entered, or at a column that cannot be decoded. -/
inductive WayOn (row : Row) : List ColumnValue → Row → EStateM.Result Error Row Unit → Prop where
  | toEnd {values : List ColumnValue} {stop : Row} (skipped : row.Passes values stop)
    (none_left : stop.size ≤ stop.position) : WayOn row values stop stop.enter
  | toColumn {values : List ColumnValue} {stop : Row} {e : Error} (skipped : row.Passes values stop)
    (undecodable : stop.Undecodable e) : WayOn row values stop (.error e stop)

variable {page : Bytes} {row behind stop : Row} {value : ColumnValue} {values : List ColumnValue}
  {e : Error}

/-! ### One column -/

theorem readColumn_cases (row : Row) :
    (∃ value behind, row.readColumn = .ok value behind) ∨
      ∃ e, row.Refuses e ∧ row.readColumn = .error e row := by
  by_cases h : row.size ≤ row.position
  · exact .inr ⟨_, .exhausted h, by rw [readColumn, if_pos h]⟩
  · rw [readColumn, if_neg h]
    cases hd : Decoder.columnValue row.reader with
    | ok value reader => exact .inl ⟨_, _, rfl⟩
    | error e reader => exact .inr ⟨e, .undecodable ⟨Nat.lt_of_not_le h, reader, hd⟩, rfl⟩

/-- A column that is read takes a byte at least. -/
theorem Within.readColumn (h : row.Within page) (hread : row.readColumn = .ok value behind) :
    behind.Within page ∧ behind.start = row.start ∧
      row.streamPosition < behind.streamPosition := by
  have hlt : row.position < row.size := by
    unfold Row.readColumn at hread
    split at hread
    · cases hread
    · rename_i hnot
      exact Nat.lt_of_not_le hnot
  obtain ⟨column, rest, hspells, hrest, rfl⟩ := (readColumn_eq_ok_iff hlt).mp hread
  have hpos := hspells.length_pos
  refine ⟨⟨h.reader_within.behind hrest rfl, h.size_lt, hlt, ?_⟩, rfl, ?_⟩
  · exact Nat.le_trans h.start_le (Nat.le_add_right _ _)
  · exact Nat.lt_add_of_pos_right hpos

/-! ### The way to the next row -/

theorem Within.passes (h : row.Within page) (hp : row.Passes values stop) :
    stop.Within page ∧ stop.start = row.start ∧
      row.streamPosition + values.length ≤ stop.streamPosition := by
  induction hp with
  | here row => exact ⟨h, rfl, Nat.le_refl _⟩
  | column read rest ih =>
    obtain ⟨hbehind, hstart, hlt⟩ := h.readColumn read
    obtain ⟨hstop, hstart', hle⟩ := ih hbehind
    refine ⟨hstop, hstart'.trans hstart, ?_⟩
    rw [List.length_cons]
    omega

/-- Skipping comes to an end since every column takes a byte, whatever the row announces. -/
theorem Within.exists_passes (h : row.Within page) :
    ∃ values stop, row.Passes values stop ∧
      (stop.size ≤ stop.position ∨ ∃ e, stop.Undecodable e) := by
  -- on the bytes that are left: the columns that are announced may be far more than those
  induction hn : page.length - row.streamPosition using Nat.strongRecOn generalizing row with
  | ind n ih =>
    subst hn
    rcases readColumn_cases row with ⟨value, behind, hread⟩ | ⟨e, hrefuses, _⟩
    · obtain ⟨hbehind, _, hlt⟩ := h.readColumn hread
      have hle : behind.streamPosition ≤ page.length := hbehind.reader_within.position_le
      obtain ⟨values, stop, hpasses, hend⟩ := ih _ (by omega) hbehind rfl
      exact ⟨value :: values, stop, .column hread hpasses, hend⟩
    · cases hrefuses with
      | exhausted none_left => exact ⟨[], row, .here row, .inl none_left⟩
      | undecodable hu => exact ⟨[], row, .here row, .inr ⟨e, hu⟩⟩

theorem Passes.skipColumns_eq (h : row.Passes values stop) :
    Row.skipColumns values.length row = .ok () stop := by
  induction h with
  | here row => rfl
  | column read rest ih =>
    rw [List.length_cons]
    show EStateM.bind (EStateM.bind Row.readColumn _) _ _ = _
    rw [EStateM.bind, EStateM.bind, read]
    exact ih

/-- When all columns are skipped, the next row is entered. -/
theorem Passes.next_eq_enter (h : row.Passes values stop) (hend : stop.size ≤ stop.position)
    (hle : stop.position ≤ stop.size) : Row.next row = stop.enter := by
  obtain ⟨hsize, hposition⟩ := h.moved
  have hcount : row.size - row.position = values.length := by omega
  show EStateM.bind (Row.skipColumns (row.size - row.position)) (fun _ => enter) row = _
  rw [hcount, EStateM.bind, h.skipColumns_eq]

theorem Within.wayOn (h : row.Within page) :
    ∃ values stop, row.WayOn values stop (Row.next row) ∧
      values.length ≤ page.length - row.streamPosition := by
  obtain ⟨values, stop, hpasses, hend⟩ := h.exists_passes
  obtain ⟨hstop, _, hle⟩ := h.passes hpasses
  have hlen : stop.streamPosition ≤ page.length := hstop.reader_within.position_le
  refine ⟨values, stop, ?_, by omega⟩
  rcases hend with hend | ⟨e, hu⟩
  · rw [hpasses.next_eq_enter hend hstop.position_le]
    exact .toEnd hpasses hend
  · rw [hpasses.next hu]
    exact .toColumn hpasses hu

theorem Within.enter (h : row.Within page) (henter : row.enter = .ok () behind) :
    behind.Within page ∧ row.streamPosition + 4 ≤ behind.streamPosition := by
  by_cases hbegins : BeginsRow row.reader.rest
  · obtain ⟨n, rest, hn, hrest⟩ := hbegins
    cases henter.symm.trans (enter_of_rest hn hrest)
    have hlen := LittleEndian.length_encode 4 n
    refine ⟨⟨h.reader_within.behind hrest ?_, hn, Nat.zero_le _, Nat.le_refl _⟩, Nat.le_refl _⟩
    rw [hlen]
  · cases henter.symm.trans (enter_of_not_beginsRow hbegins)

theorem enter_fails (h : row.enter = .error e behind) : e = .invalidPacket ∧ behind = row := by
  by_cases hbegins : BeginsRow row.reader.rest
  · obtain ⟨n, rest, hn, hrest⟩ := hbegins
    cases h.symm.trans (enter_of_rest hn hrest)
  · cases h.symm.trans (enter_of_not_beginsRow hbegins)
    exact ⟨rfl, rfl⟩

theorem Within.next (h : row.Within page) (hnext : Row.next row = .ok () behind) :
    behind.Within page ∧ row.streamPosition + 4 ≤ behind.streamPosition := by
  obtain ⟨values, stop, hway, _⟩ := h.wayOn
  rw [hnext] at hway
  generalize hresult : EStateM.Result.ok () behind = result at hway
  cases hway with
  | toEnd skipped none_left =>
    obtain ⟨hstop, _, hle⟩ := h.passes skipped
    obtain ⟨hbehind, hfour⟩ := hstop.enter hresult.symm
    exact ⟨hbehind, by omega⟩
  | toColumn skipped undecodable => cases hresult

/-- Where a row is left that there is no way on from: behind its last column with no further row, or
in front of a column that cannot be decoded. -/
inductive Stuck (row : Row) : Error → Prop where
  | last (none_left : row.size ≤ row.position) (no_row : row.enter = .error .invalidPacket row) :
    Stuck row .invalidPacket
  | undecodable {e : Error} (undecodable : row.Undecodable e) : Stuck row e

theorem Stuck.next (h : row.Stuck e) : Row.next row = .error e row := by
  cases h with
  | last none_left no_row =>
    show EStateM.bind (skipColumns (row.size - row.position)) (fun _ => enter) row = _
    rw [Nat.sub_eq_zero_of_le none_left]
    exact no_row
  | undecodable hu => exact (Passes.here row).next hu

theorem Within.next_fails (h : row.Within page) (hnext : Row.next row = .error e behind) :
    behind.Within page ∧ behind.Stuck e ∧ behind.size = row.size ∧ behind.start = row.start ∧
      row.streamPosition ≤ behind.streamPosition := by
  obtain ⟨values, stop, hway, _⟩ := h.wayOn
  rw [hnext] at hway
  generalize hresult : EStateM.Result.error e behind = result at hway
  cases hway with
  | toEnd skipped none_left =>
    obtain ⟨hstop, hstart, hle⟩ := h.passes skipped
    obtain ⟨rfl, rfl⟩ := enter_fails hresult.symm
    exact ⟨hstop, .last none_left hresult.symm, skipped.moved.1, hstart, by omega⟩
  | toColumn skipped undecodable =>
    obtain ⟨hstop, hstart, hle⟩ := h.passes skipped
    cases hresult
    exact ⟨hstop, .undecodable undecodable, skipped.moved.1, hstart, by omega⟩

theorem within_ofPage (h : ofPage page = .ok row) : row.Within page := by
  have hfirst : (⟨0, 0, 0, .ofBytes page⟩ : Row).Within page :=
    ⟨Reader.within_startAt page 0, Nat.zero_lt_succ _, Nat.le_refl _, Nat.le_refl _⟩
  unfold ofPage at h
  dsimp only at h
  split at h
  · cases h
    exact hfirst
  · split at h
    · rename_i henter
      cases h
      exact (hfirst.enter henter).1
    · cases h

/-! ### One step -/

/-- All but going on to the next row use the next column, and change nothing when there is none. -/
theorem step_of_ne_next (row : Row) {op : RowOp} (h : op ≠ .next) :
    (∃ value answer behind,
        row.readColumn = .ok value behind ∧ row.step op = (.ok answer, behind)) ∨
      ∃ e, row.Refuses e ∧ row.step op = (.error e, row) := by
  have huse : ∃ use : ColumnValue → RowAnswer,
      row.step op = outcome (EStateM.map use Row.readColumn row) := by
    cases op with
    | read => exact ⟨_, rfl⟩
    | readInto buffer =>
      exact ⟨_, congrArg outcome (Place.map_bind_readColumn _ (·.putInto buffer) _)⟩
    | skip => exact ⟨_, congrArg outcome (Place.map_bind_readColumn _ (fun _ => ()) _)⟩
    | next => exact absurd rfl h
  obtain ⟨use, hstep⟩ := huse
  rw [hstep, EStateM.map]
  rcases readColumn_cases row with ⟨value, behind, hread⟩ | ⟨e, hrefuses, hread⟩
  · exact .inl ⟨value, use value, behind, hread, by rw [hread]; rfl⟩
  · exact .inr ⟨e, hrefuses, by rw [hread]; rfl⟩

theorem step_next_of_ok (h : Row.next row = .ok () behind) :
    row.step .next = (.ok .moved, behind) := by
  show outcome (EStateM.map (fun () => RowAnswer.moved) Row.next row) = _
  rw [EStateM.map, h]
  rfl

theorem step_next_of_error (h : Row.next row = .error e behind) :
    row.step .next = (.error e, behind) := by
  show outcome (EStateM.map (fun () => RowAnswer.moved) Row.next row) = _
  rw [EStateM.map, h]
  rfl

end Row

/-! ### Any number of steps -/

/-- What a caller can do who has a row and some buffers. -/
inductive RowAction where
  | read
  | readInto (buffer : Nat)
  | skip
  | next
  deriving DecidableEq, Repr

/-- A row and the buffers that its columns may be read into. -/
structure RowInUse where
  row : Row
  buffers : Nat → DataBuffer

/-- A step that was taken, and what came of it. -/
structure RowRecord where
  action : RowAction
  answer : Except Error RowAnswer

namespace RowRecord

/-- The next row was entered. -/
def entersRow : RowRecord → Bool
  | ⟨.next, .ok _⟩ => true
  | _ => false

end RowRecord

namespace RowInUse

/-- The operation on the row alone. -/
def operation (s : RowInUse) : RowAction → RowOp
  | .read => .read
  | .readInto buffer => .readInto (s.buffers buffer)
  | .skip => .skip
  | .next => .next

/-- The buffers behind a step: the one that was read into is what the conversion has made of it. -/
def buffersAfter (s : RowInUse) : RowRecord → Nat → DataBuffer
  | ⟨.readInto buffer, .ok (.converted _ written)⟩, index =>
    if index = buffer then written else s.buffers index
  | _, index => s.buffers index

/-- Does one thing. -/
def step (s : RowInUse) (action : RowAction) : Except Error RowAnswer × RowInUse :=
  let (answer, row) := s.row.step (s.operation action)
  (answer, ⟨row, s.buffersAfter ⟨action, answer⟩⟩)

/-- Does one thing after another, whether they succeed or not. -/
def run : RowInUse → List RowAction → List RowRecord × RowInUse
  | s, [] => ([], s)
  | s, action :: actions =>
    let (answer, s) := s.step action
    let (records, s) := run s actions
    (⟨action, answer⟩ :: records, s)

variable {page : Bytes} {s : RowInUse} {action : RowAction} {answer : Except Error RowAnswer}
  {row : Row} {e : Error}

theorem buffersAfter_of_error (s : RowInUse) (action : RowAction) (e : Error) :
    s.buffersAfter ⟨action, .error e⟩ = s.buffers := by
  cases action <;> rfl

theorem step_eq (h : s.row.step (s.operation action) = (answer, row)) :
    s.step action = (answer, ⟨row, s.buffersAfter ⟨action, answer⟩⟩) := by
  rw [step, h]

theorem step_eq_of_error (h : s.row.step (s.operation action) = (.error e, row)) :
    s.step action = (.error e, ⟨row, s.buffers⟩) := by
  rw [step_eq h, buffersAfter_of_error]

theorem step_next_of_ok (h : Row.next s.row = .ok () row) :
    s.step .next = (.ok .moved, ⟨row, s.buffers⟩) :=
  step_eq (Row.step_next_of_ok h)

theorem step_next_of_error (h : Row.next s.row = .error e row) :
    s.step .next = (.error e, ⟨row, s.buffers⟩) :=
  step_eq (Row.step_next_of_error h)

theorem operation_ne_next (s : RowInUse) (h : action ≠ .next) : s.operation action ≠ .next := by
  cases action with
  | next => exact absurd rfl h
  | _ => exact nofun

/-- What fails, other than going on to the next row, changes neither the row nor a buffer. -/
theorem step_fails (h : action ≠ .next) (hfails : (s.step action).1 = .error e) :
    (s.step action).2 = s ∧ s.row.Refuses e := by
  rcases s.row.step_of_ne_next (s.operation_ne_next h) with
    ⟨_, _, _, _, hstep⟩ | ⟨e', hrefuses, hstep⟩
  · rw [step_eq hstep] at hfails
    cases hfails
  · rw [step_eq_of_error hstep] at hfails ⊢
    cases hfails
    exact ⟨rfl, hrefuses⟩

/-- A failure to go on to the next row leaves the row at hand, at its end or in front of the column
that cannot be decoded, and there it is repeated without any change. -/
theorem step_next_fails (h : s.row.Within page) (hfails : (s.step .next).1 = .error e) :
    (s.step .next).2.buffers = s.buffers ∧ (s.step .next).2.row.size = s.row.size ∧
      (s.step .next).2.row.start = s.row.start ∧ (s.step .next).2.row.Stuck e ∧
      (s.step .next).2.step .next = (.error e, (s.step .next).2) := by
  cases hnext : Row.next s.row with
  | ok _ behind =>
    rw [step_next_of_ok hnext] at hfails
    cases hfails
  | error e' behind =>
    obtain ⟨_, hstuck, hsize, hstart, _⟩ := h.next_fails hnext
    rw [step_next_of_error hnext] at hfails ⊢
    cases hfails
    exact ⟨rfl, hsize, hstart, hstuck, step_next_of_error hstuck.next⟩

/-- A step keeps the row inside the page and goes forward, by four bytes when it enters a row. -/
theorem step_within (h : s.row.Within page) (action : RowAction) :
    (s.step action).2.row.Within page ∧
      s.row.streamPosition +
          4 * (if (RowRecord.mk action (s.step action).1).entersRow then 1 else 0)
        ≤ (s.step action).2.row.streamPosition := by
  by_cases haction : action = .next
  · subst haction
    cases hnext : Row.next s.row with
    | ok _ behind =>
      obtain ⟨hbehind, hle⟩ := h.next hnext
      rw [step_next_of_ok hnext]
      exact ⟨hbehind, hle⟩
    | error e behind =>
      obtain ⟨hbehind, _, _, _, hle⟩ := h.next_fails hnext
      rw [step_next_of_error hnext]
      exact ⟨hbehind, hle⟩
  · have henters (answer : Except Error RowAnswer) :
        (RowRecord.mk action answer).entersRow = false := by
      cases action with
      | next => exact absurd rfl haction
      | _ => rfl
    rw [henters]
    rcases s.row.step_of_ne_next (s.operation_ne_next haction) with
      ⟨value, answer, behind, hread, hstep⟩ | ⟨e, _, hstep⟩
    · obtain ⟨hbehind, _, hlt⟩ := h.readColumn hread
      rw [step_eq hstep]
      exact ⟨hbehind, Nat.le_of_lt hlt⟩
    · rw [step_eq_of_error hstep]
      exact ⟨h, Nat.le_refl _⟩

theorem run_within (h : s.row.Within page) (actions : List RowAction) :
    (s.run actions).2.row.Within page ∧
      s.row.streamPosition + 4 * (s.run actions).1.countP RowRecord.entersRow
        ≤ (s.run actions).2.row.streamPosition := by
  induction actions generalizing s with
  | nil => exact ⟨h, Nat.le_refl _⟩
  | cons action actions ih =>
    obtain ⟨hstep, hle⟩ := step_within h action
    obtain ⟨hrun, hle'⟩ := ih hstep
    refine ⟨hrun, ?_⟩
    show s.row.streamPosition + 4 * List.countP RowRecord.entersRow
      (⟨action, (s.step action).1⟩ :: ((s.step action).2.run actions).1) ≤
        ((s.step action).2.run actions).2.row.streamPosition
    rw [List.countP_cons]
    omega

end RowInUse

/-- Whatever bytes a page is made of, a row of it stays in the page and never goes back. Where no
column can be decoded it fails and changes nothing, and it enters at most one row for every four
bytes. -/
theorem unchecked_page_safe {page : Bytes} {row : Row} (h : Row.ofPage page = .ok row)
    (buffers : Nat → DataBuffer) (actions : List RowAction) :
    let (records, reached) := RowInUse.run ⟨row, buffers⟩ actions
    reached.row.Within page ∧
      records.countP RowRecord.entersRow ≤ page.length / 4 ∧
      (∃ values stop, reached.row.WayOn values stop (Row.next reached.row) ∧
        values.length ≤ page.length - reached.row.streamPosition) ∧
      ∀ action,
        let (answer, after) := reached.step action
        reached.row.streamPosition ≤ after.row.streamPosition ∧
          ∀ e, answer = .error e →
            (action ≠ .next → after = reached ∧ reached.row.Refuses e) ∧
            (action = .next → after.buffers = reached.buffers ∧
              after.row.size = reached.row.size ∧ after.row.start = reached.row.start ∧
              after.row.Stuck e ∧ after.step .next = (.error e, after)) := by
  obtain ⟨hreached, hcount⟩ :=
    RowInUse.run_within (s := ⟨row, buffers⟩) (Row.within_ofPage h) actions
  have hlen := hreached.reader_within.position_le
  refine ⟨hreached, ?_, hreached.wayOn, fun action => ⟨?_, fun e hfails => ⟨?_, ?_⟩⟩⟩
  · rw [Nat.le_div_iff_mul_le (by decide)]
    simp only [Row.streamPosition] at hcount
    omega
  · exact Nat.le_trans (Nat.le_add_right _ _) (RowInUse.step_within hreached action).2
  · intro haction
    exact RowInUse.step_fails haction hfails
  · rintro rfl
    exact RowInUse.step_next_fails hreached hfails

/-- A row that announces as many columns as a count can tell, of which there are a number and a
decimal, which has no reader. Behind the number it is neither read any further nor left. -/
theorem unchecked_page_safe_many_columns :
    let page : Bytes := [255, 255, 255, 127, 3, 7, 0, 0, 0, 30]
    let row : Row := ⟨4, 0x7FFFFFFF, 0, ⟨4, [3, 7, 0, 0, 0, 30]⟩⟩
    let buffers : Nat → DataBuffer := fun _ => ⟨.signedLong, some [1, 2, 3, 4], some 77⟩
    let behind : RowInUse := ⟨⟨4, 0x7FFFFFFF, 1, ⟨9, [30]⟩⟩, buffers⟩
    Row.ofPage page = .ok row ∧
      RowInUse.run ⟨row, buffers⟩ [.read] = ([⟨.read, .ok (.value (.int 7))⟩], behind) ∧
      behind.row.Within page ∧
      behind.step (.readInto 5) = (.error (.unsupportedTag 30), behind) ∧
      behind.step .next = (.error (.unsupportedTag 30), behind) ∧
      (behind.step .next).2.row.Stuck (.unsupportedTag 30) := by
  intro page row buffers behind
  have hrow : Row.ofPage page = .ok row := rfl
  obtain ⟨hwithin, _, _, hsteps⟩ := unchecked_page_safe hrow buffers [.read]
  have hundecodable : behind.row.Undecodable (.unsupportedTag 30) := ⟨by decide, _, rfl⟩
  have hnext : behind.step .next = (.error (.unsupportedTag 30), behind) :=
    RowInUse.step_eq_of_error
      (Row.step_next_of_error ((Row.Passes.here behind.row).next hundecodable))
  have hread : (behind.step (.readInto 5)).1 = .error (.unsupportedTag 30) := rfl
  have hsame := (((hsteps (.readInto 5)).2 _ hread).1 nofun).1
  have hstuck := ((hsteps .next).2 _ (congrArg Prod.fst hnext)).2 rfl
  exact ⟨hrow, rfl, hwithin, Prod.ext hread hsame, hnext, hstuck.2.2.2.1⟩

end GridClient
