import GridClient.Proofs.ColumnGrammar
import GridClient.Proofs.UndecodableColumn

/-!
Rows of a page and rows made up locally. The former go through their columns and the latter through
the buffers, and both leave the same.
-/

namespace GridClient

/-! ### What a delivery comes to -/

/-- The values and the buffers determine everything that a delivery leaves. -/
theorem Delivered.unique {row : Int32} {values : List ColumnValue}
    {before after after' : Bindings DataBuffer} {result result' : Except Error Outcome}
    {warnings warnings' : List StatusRecord} (h : Delivered row values before result after warnings)
    (h' : Delivered row values before result' after' warnings') :
    result = result' ∧ after = after' ∧ warnings = warnings' := by
  cases h with
  | whole accepted =>
    obtain ⟨hresult, hafter, hwarnings⟩ := h'.eq_of_accepted accepted
    rw [hresult, hafter, hwarnings]
    exact ⟨rfl, rfl, rfl⟩
  | refused lt accepted refused =>
    rename_i index e
    cases h' with
    | whole accepted' =>
      obtain ⟨_, hok⟩ := accepted' index lt
      cases hok.symm.trans refused
    | refused lt' accepted' refused' =>
      rename_i index' e'
      -- Neither stops before the other, since what the other passes is accepted.
      rcases Nat.lt_trichotomy index index' with hlt | rfl | hlt
      · obtain ⟨_, hok⟩ := accepted' index hlt
        cases hok.symm.trans refused
      · cases refused.symm.trans refused'
        exact ⟨rfl, rfl, rfl⟩
      · obtain ⟨_, hok⟩ := accepted index' hlt
        cases hok.symm.trans refused'

/-- The fetch ended as the delivery of a row made up locally, with the same buffers and the same
warnings in the same order. -/
def Fetched.AgreesWith {κ ν : Type} (f : Fetched κ ν)
    (made : Except Error Outcome × ColumnSink) : Prop :=
  f.result = made.1 ∧ f.columns = made.2.columns ∧ f.warnings = made.2.warnings

theorem Delivered.agreesWith_putRow {κ ν : Type} {f : Fetched κ ν} {number : Int32}
    {values : List ColumnValue} {before : Bindings DataBuffer}
    (h : Delivered number values before f.result f.columns f.warnings)
    (hlen : values.length ≤ 0xFFFF) :
    f.AgreesWith (ColumnSink.putRow number values before) :=
  h.unique (ColumnSink.putRow_delivers number before hlen)

/-! ### Rows of a page -/

/-- Columns one after another, and the values that they denote. -/
inductive SpellsColumns : Bytes → List ColumnValue → Prop where
  | nil : SpellsColumns [] []
  | cons {bytes more : Bytes} {value : ColumnValue} {values : List ColumnValue}
    (first : SpellsColumn bytes value) (rest : SpellsColumns more values) :
    SpellsColumns (bytes ++ more) (value :: values)

/-- None of the columns of the row is read, and they denote these values. -/
structure Row.Spells (row : Row) (values : List ColumnValue) : Prop where
  position_eq : row.position = 0
  size_eq : row.size = values.length
  columns : ∃ bytes behind, SpellsColumns bytes values ∧ row.reader.rest = bytes ++ behind

/-- A row is entered where its column count stands in front of its columns. -/
theorem Row.enter_spells {place : Row} {bytes rest : Bytes} {values : List ColumnValue}
    (hlen : values.length < 0x80000000) (h : SpellsColumns bytes values)
    (hrest : place.reader.rest = LittleEndian.encode 4 values.length ++ (bytes ++ rest)) :
    ∃ row, place.enter = .ok () row ∧ row.Spells values :=
  ⟨_, Row.enter_of_rest hlen hrest, rfl, rfl, bytes, rest, h, rfl⟩

/-- The row that is left behind each column spells the values that are left. -/
theorem SpellsColumns.passes {bytes rest : Bytes} {values : List ColumnValue}
    (h : SpellsColumns bytes values) {row : Row} (hrest : row.reader.rest = bytes ++ rest)
    (hsize : row.position + values.length ≤ row.size) :
    ∃ stop, Row.Passes row values stop ∧ stop.reader.rest = rest := by
  induction h generalizing row with
  | nil => exact ⟨row, .here row, hrest⟩
  | cons first tail ih =>
    rename_i bytes more value values
    rw [List.length_cons] at hsize
    rw [List.append_assoc] at hrest
    have hread := (Row.readColumn_eq_ok_iff (by omega)).mpr ⟨bytes, _, first, hrest, rfl⟩
    obtain ⟨behind, hbehind⟩ : ∃ behind : Row, behind = { row with
      position := row.position + 1
      reader := ⟨row.reader.position + bytes.length, more ++ rest⟩ } := ⟨_, rfl⟩
    rw [← hbehind] at hread
    have hleft : behind.reader.rest = more ++ rest := by rw [hbehind]
    have hsize' : behind.position + values.length ≤ behind.size := by
      rw [hbehind]
      show row.position + 1 + values.length ≤ row.size
      omega
    obtain ⟨stop, hpasses, hstop⟩ := ih hleft hsize'
    exact ⟨stop, .column hread hpasses, hstop⟩

/-- Columns that are all decoded are delivered as the list of their values. -/
theorem Row.Passes.deliver_all {row stop : Row} {values : List ColumnValue}
    (h : Row.Passes row values stop) (number : Int32) (column : UInt16) (sink : ColumnSink) :
    ∃ behind, row.deliver number values.length column sink =
      let (result, sink) := ColumnSink.putAll number column values sink
      (result.mapError .refused, behind, sink) := by
  induction h generalizing column sink with
  | here row => exact ⟨row, rfl⟩
  | column read rest ih =>
    rename_i row behind stop value values
    rw [List.length_cons, Row.deliver, read, ColumnSink.putAll]
    obtain ⟨⟨result, sink'⟩, hput⟩ : ∃ r, sink.put number column value = r := ⟨_, rfl⟩
    simp only [hput]
    cases result with
    | error e => exact ⟨behind, rfl⟩
    | ok _ => exact ih (column + 1) sink'

namespace DataQuery

variable {ν : Type} [Network ν] {q : DataQuery} {c c' : Connection ν} {cursor : Cursor} {row : Row}
  {values : List ColumnValue}

/-- A row that is entered and can be decoded is delivered under its number. -/
theorem Enters.delivers (h : q.Enters c cursor row c') (hspells : row.Spells values)
    (hlen : values.length ≤ 0xFFFF) (before : Bindings DataBuffer) :
    Delivered (q.rowNumber + 1) values before (q.fetch c before).result (q.fetch c before).columns
      (q.fetch c before).warnings := by
  obtain ⟨hposition, hsize, bytes, rest, hcolumns, hrest⟩ := hspells
  obtain ⟨stop, hpasses, _⟩ := hcolumns.passes hrest (by omega)
  obtain ⟨behind, hdeliver⟩ := hpasses.deliver_all (q.rowNumber + 1) 1 { columns := before }
  obtain ⟨result, after, warnings, hdelivered, hf⟩ := deliverRow_of_deliver
    (q := { q with rowNumber := q.rowNumber + 1 }) hsize hlen hdeliver cursor c'
  rw [h.fetch, hf]
  exact hdelivered

/-- A row is written the same whether it comes from a page or is made up locally, in any buffers and
under any number. -/
theorem fetch_agrees_with_putRow (hlen : values.length ≤ 0xFFFF) (before : Bindings DataBuffer) :
    (∀ (place : Row) (bytes rest : Bytes), SpellsColumns bytes values →
      place.reader.rest = LittleEndian.encode 4 values.length ++ (bytes ++ rest) →
        ∃ row, place.enter = .ok () row ∧ row.Spells values) ∧
    (∀ cursor row c', q.Enters c cursor row c' → row.Spells values →
      (q.fetch c before).AgreesWith (ColumnSink.putRow (q.rowNumber + 1) values before)) ∧
    (∀ id cells rows count, q.Awaits id (cells :: rows) count c →
      values = cells.map Cell.column →
      (q.fetch c before).AgreesWith
        (ColumnSink.putRow (Int32.ofNat (count + 1)) values before)) := by
  refine ⟨?_, ?_, ?_⟩
  · intro place bytes rest hspells hrest
    exact Row.enter_spells (Nat.lt_of_le_of_lt hlen (by decide)) hspells hrest
  · intro cursor row c' henters hspells
    exact (henters.delivers hspells hlen before).agreesWith_putRow hlen
  · rintro id cells rows count hawaits rfl
    exact (hawaits.takes before).1.2.agreesWith_putRow hlen

/-- A number that has no buffer, an object and a text that are cut, and two buffers of which one is
bound to column zero and one past the last column. And a row of one number in the same buffers. -/
theorem fetch_agrees_with_putRow_object :
    let c : Connection ScriptedPeer := { channel := ⟨⟨none, [], [], false, [], []⟩, []⟩ }
    let object : Bytes := [103, 1, 0, 0, 0, 0, 0, 0, 0, 0, 0, 0, 18, 0, 0, 0, 7, 8]
    let columns : Bytes := [3, 7, 0, 0, 0] ++ (object ++ ([9, 3, 0, 0, 0, 97, 98, 99] ++ []))
    let place : Row := ⟨0, 0, 0, ⟨0, LittleEndian.encode 4 3 ++ (columns ++ [])⟩⟩
    let row : Row := ⟨4, 3, 0, ⟨4, columns ++ []⟩⟩
    let values : List ColumnValue := [.int 7, .object object, .string "abc"]
    let seven : Cell := ⟨.int 7, by decide, _, rfl⟩
    let before : Bindings DataBuffer := .ofList
      [(0, ⟨.signedBigInt, some [], none⟩), (2, ⟨.binary, some [0, 0], some 0⟩),
        (3, ⟨.char, some [0, 0], none⟩), (9, ⟨.char, none, none⟩)]
    let q : DataQuery := { sql := "", cursor := some ⟨9, some row, 1, 0, true⟩, rowNumber := 5 }
    let written : DataQuery :=
      { sql := "", cursor := some ⟨9, some (Place.toRow [[seven]] ⟨0, 0⟩), 1, 0, true⟩ }
    values.length ≤ 0xFFFF ∧ (∃ row, place.enter = .ok () row ∧ row.Spells values) ∧
      q.Enters c ⟨9, some row, 1, 1, true⟩ row c ∧ row.Spells values ∧
      (q.fetch c before).AgreesWith (ColumnSink.putRow 6 values before) ∧
      (ColumnSink.putRow 6 values before).2.warnings = [.truncation 6 2, .truncation 6 3] ∧
      written.Awaits 9 [[seven]] 0 c ∧
      (written.fetch c before).AgreesWith (ColumnSink.putRow 1 [.int 7] before) := by
  intro c object columns place row values seven before q written
  have henters : q.Enters c ⟨9, some row, 1, 1, true⟩ row c :=
    ⟨rfl, ⟨_, _, rfl, rfl, Cursor.loadPage_of_held rfl, rfl⟩, rfl⟩
  have hobject : SpellsColumn object (.object object) :=
    @SpellsColumn.object ⟨103, 1, 0, 0, 0, 18⟩ [7, 8] rfl rfl rfl
  have htext : SpellsColumn [9, 3, 0, 0, 0, 97, 98, 99] (.string "abc") :=
    @SpellsColumn.string "abc" (by decide)
  have hcolumns : SpellsColumns columns values :=
    .cons (.primitive .int rfl) (.cons hobject (.cons htext .nil))
  have hspells : row.Spells values := ⟨rfl, rfl, columns, [], hcolumns, rfl⟩
  have hawaits : written.Awaits 9 [[seven]] 0 c := by
    refine ⟨⟨_, rfl, ?_⟩, rfl, rfl⟩
    have hholds : Cursor.Holds ⟨9, some (Place.toRow [[seven]] ⟨0, 0⟩), 1, 0, true⟩ 9 [[seven]] 0
        true :=
      ⟨rfl, rfl, rfl, rfl, _, rfl, fun _ => ⟨0, ⟨by decide, Nat.zero_le _⟩, fun _ => rfl, rfl⟩⟩
    exact @Ahead.holding _ _ 9 [[seven]] c _ [[seven]] 0 [] hholds trivial (by simp [Countable]) rfl
  have hlen : values.length ≤ 0xFFFF := by decide
  obtain ⟨hentered, hfetched, -⟩ := fetch_agrees_with_putRow (q := q) (c := c) hlen before
  exact ⟨hlen, hentered place columns [] hcolumns rfl, henters, hspells,
    hfetched _ _ _ henters hspells, rfl, hawaits,
    (fetch_agrees_with_putRow (by decide) before).2.2 _ _ _ _ hawaits rfl⟩

end DataQuery

end GridClient
