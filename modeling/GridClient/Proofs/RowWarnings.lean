import GridClient.Query.Basic

/-!
The warnings of a fetch. They are about columns of one row, in ascending order, and the fetch tells
that there are any exactly when there are. An error leaves those of the columns before it.
-/
namespace GridClient

/-- Warnings about columns of a row that did not fit their buffers, in ascending order. -/
def RowWarnings (row : Int32) (bound : Nat) (warnings : List StatusRecord) : Prop :=
  ∃ columns : List UInt16, columns.Pairwise (· < ·) ∧ (∀ column ∈ columns, column.toNat < bound) ∧
    warnings = columns.map (StatusRecord.truncation row)

/-- The records that an operation adds before it ends fit its result: none for a plain success and
at the end of the rows, at least one for a success with warnings, any number before an error. -/
inductive Judged : Except Error Outcome → List StatusRecord → Prop where
  | success : Judged (.ok .success) []
  | noData : Judged (.ok .noData) []
  | warned {row : Int32} {bound : Nat} {warnings : List StatusRecord} (some : warnings ≠ [])
    (ascending : RowWarnings row bound warnings) : Judged (.ok .successWithInfo) warnings
  | failed {row : Int32} {bound : Nat} {e : Error} {warnings : List StatusRecord}
    (ascending : RowWarnings row bound warnings) : Judged (.error e) warnings

section

variable {row : Int32} {bound : Nat} {warnings : List StatusRecord} {e : Error}

theorem RowWarnings.nil (row : Int32) (bound : Nat) : RowWarnings row bound [] :=
  ⟨[], List.Pairwise.nil, by simp, rfl⟩

theorem RowWarnings.mono {bound' : Nat} (h : RowWarnings row bound warnings)
    (hle : bound ≤ bound') : RowWarnings row bound' warnings := by
  obtain ⟨columns, hascending, hbound, hwarnings⟩ := h
  exact ⟨columns, hascending, fun column hc => Nat.lt_of_lt_of_le (hbound column hc) hle, hwarnings⟩

/-- A warning about a later column goes behind the others. -/
theorem RowWarnings.concat {column : UInt16} (h : RowWarnings row bound warnings)
    (hle : bound ≤ column.toNat) :
    RowWarnings row (column.toNat + 1) (warnings ++ [.truncation row column]) := by
  obtain ⟨columns, hascending, hbound, rfl⟩ := h
  refine ⟨columns ++ [column], ?_, ?_, by rw [List.map_append]; rfl⟩
  · rw [List.pairwise_append]
    refine ⟨hascending, List.pairwise_singleton _ _, fun c hc c' hc' => ?_⟩
    rw [List.mem_singleton.mp hc', UInt16.lt_iff_toNat_lt]
    exact Nat.lt_of_lt_of_le (hbound c hc) hle
  · intro c hc
    rcases List.mem_append.mp hc with hc | hc
    · have := hbound c hc
      omega
    · rw [List.mem_singleton.mp hc]
      omega

theorem Judged.error (e : Error) : Judged (.error e) [] := .failed (.nil 0 0)

/-- A row that was written tells by its warnings whether something was left out. -/
theorem RowWarnings.judged (h : RowWarnings row bound warnings) :
    Judged (.ok (.ofTruncated (!warnings.isEmpty))) warnings := by
  cases warnings with
  | nil => exact .success
  | cons first rest => exact .warned (List.cons_ne_nil _ _) h

end

/-- What a conversion reports is about its own column. -/
theorem Conversion.rowWarnings_of_report {conversion : Conversion} {row : Int32} {column : UInt16}
    {bound : Nat} {warnings records : List StatusRecord}
    (h : conversion.report row column = .ok records) (hw : RowWarnings row bound warnings)
    (hle : bound ≤ column.toNat) : RowWarnings row (column.toNat + 1) (warnings ++ records) := by
  cases conversion with
  | success =>
    cases h
    rw [List.append_nil]
    exact hw.mono (by omega)
  | truncated =>
    cases h
    exact hw.concat hle
  | failure => cases h
  | unsupported => cases h

/-! ### Rows -/

namespace ColumnSink

variable {row : Int32} {s : ColumnSink}

/-- One column adds at most a warning of its own. -/
theorem rowWarnings_put {column : Nat} (h : RowWarnings row column s.warnings)
    (hlt : column < UInt16.size) (value : ColumnValue) :
    RowWarnings row (column + 1) (s.put row (UInt16.ofNat column) value).2.warnings := by
  have hcolumn : (UInt16.ofNat column).toNat = column := UInt16.toNat_ofNat_of_lt' hlt
  unfold put
  cases s.columns.get? (UInt16.ofNat column) with
  | none => exact h.mono (Nat.le_succ _)
  | some buffer =>
    obtain ⟨⟨conversion, buffer'⟩, hput⟩ : ∃ p, value.putInto buffer = p := ⟨_, rfl⟩
    simp only [hput]
    cases hr : conversion.report row (UInt16.ofNat column) with
    | ok records =>
      have hrow := conversion.rowWarnings_of_report hr h (Nat.le_of_eq hcolumn.symm)
      rwa [hcolumn] at hrow
    | error e => exact h.mono (Nat.le_succ _)

theorem rowWarnings_putBound {bound : Nat} {columns : List UInt16} (values : List ColumnValue)
    (h : RowWarnings row bound s.warnings) (ascending : columns.Pairwise (· < ·))
    (hbound : ∀ column ∈ columns, bound ≤ column.toNat) :
    ∃ bound, RowWarnings row bound (putBound row values columns s).2.warnings := by
  induction columns generalizing bound s with
  | nil => exact ⟨bound, h⟩
  | cons column columns ih =>
    obtain ⟨hfirst, hascending⟩ := List.pairwise_cons.mp ascending
    rw [putBound]
    cases valueAt? values column with
    | none => exact ih h hascending fun c hc => hbound c (List.mem_cons_of_mem _ hc)
    | some value =>
      have hput := rowWarnings_put (h.mono (hbound column List.mem_cons_self))
        column.toNat_lt_size value
      rw [UInt16.ofNat_toNat] at hput
      obtain ⟨⟨result, s'⟩, hr⟩ : ∃ r, s.put row column value = r := ⟨_, rfl⟩
      rw [hr] at hput
      simp only [hr]
      cases result with
      | ok _ => exact ih hput hascending fun c hc => UInt16.lt_iff_toNat_lt.mp (hfirst c hc)
      | error e => exact ⟨column.toNat + 1, hput⟩

end ColumnSink

/-- A row that announces no more columns than their numbers can count warns in ascending order, also
when it stops at a column. -/
theorem Row.rowWarnings_deliver {rowNumber : Int32} {n column : Nat} {s : ColumnSink} (row : Row)
    (h : RowWarnings rowNumber column s.warnings) (hn : column + n ≤ UInt16.size) :
    ∃ bound, RowWarnings rowNumber bound
      (row.deliver rowNumber n (UInt16.ofNat column) s).2.2.warnings := by
  induction n generalizing column row s with
  | zero => exact ⟨column, h⟩
  | succ n ih =>
    rw [deliver]
    cases row.readColumn with
    | error e row => exact ⟨column, h⟩
    | ok value row =>
      have hput := ColumnSink.rowWarnings_put h (by omega) value
      obtain ⟨⟨result, s'⟩, hr⟩ :
        ∃ r, s.put rowNumber (UInt16.ofNat column) value = r := ⟨_, rfl⟩
      rw [hr] at hput
      simp only [hr]
      cases result with
      | error e => exact ⟨column + 1, hput⟩
      | ok _ =>
        have hrest := ih row hput (by omega)
        rwa [UInt16.ofNat_add] at hrest

/-! ### Fetches -/

namespace DataQuery

variable {ν : Type} (q : DataQuery) (c : Connection ν) (columns : Bindings DataBuffer)

theorem judged_deliverRow (cursor : Cursor) (row : Row) :
    Judged (q.deliverRow cursor row c columns).result
      (q.deliverRow cursor row c columns).warnings := by
  unfold deliverRow
  split
  · exact .error .invalidPacket
  · rename_i hsize
    have hcount : 1 + row.size ≤ UInt16.size := by omega
    obtain ⟨bound, hwarnings⟩ :=
      row.rowWarnings_deliver (s := { columns }) (.nil q.rowNumber 1) hcount
    obtain ⟨⟨result, row', sink⟩, hr⟩ :
      ∃ r, row.deliver q.rowNumber row.size 1 { columns } = r := ⟨_, rfl⟩
    rw [show UInt16.ofNat 1 = 1 from rfl, hr] at hwarnings
    simp only [hr]
    cases result with
    | ok _ => exact hwarnings.judged
    | error fault => cases fault <;> exact .failed hwarnings

theorem judged_enterRow (cursor : Cursor) :
    Judged (q.enterRow cursor c columns).result (q.enterRow cursor c columns).warnings := by
  unfold enterRow
  cases cursor.increment with
  | error e cursor => exact .error e
  | ok entered cursor =>
    cases entered with
    | false => exact .noData
    | true =>
      dsimp only
      cases cursor.currentRow with
      | none => exact .error _
      | some row => exact judged_deliverRow _ c columns cursor row

theorem judged_fetch [Network ν] :
    Judged (q.fetch c columns).result (q.fetch c columns).warnings := by
  unfold fetch
  cases q.cursor with
  | none => exact .error .queryNotExecuted
  | some cursor =>
    cases q.stalled with
    | some place => exact .error _
    | none =>
      dsimp only
      split
      · split
        · exact .error _
        · exact .noData
        · exact judged_enterRow _ _ columns _
      · exact .noData

end DataQuery

/-- The bound columns come in ascending order, whatever the row. -/
theorem CatalogQuery.judged_fetch {ν ε : Type} [CatalogEntry ε] (q : CatalogQuery ε)
    (c : Connection ν) (columns : Bindings DataBuffer) :
    Judged (q.fetch c columns).result (q.fetch c columns).warnings := by
  unfold fetch
  split
  · split
    · exact .noData
    · rename_i entry _
      obtain ⟨row, hrow⟩ : ∃ row, Int32.ofNat (min (q.fetched + 1) maxRowNumber) = row := ⟨_, rfl⟩
      have hascending : columns.keys.Pairwise (· < ·) := List.pairwise_map.mpr columns.ascending
      obtain ⟨bound, hwarnings⟩ := ColumnSink.rowWarnings_putBound (s := { columns })
        (CatalogEntry.values entry) (.nil row 0) hascending fun _ _ => Nat.zero_le _
      simp only [hrow, ColumnSink.putRow]
      obtain ⟨⟨result, sink⟩, hr⟩ : ∃ r, ColumnSink.putBound row (CatalogEntry.values entry)
          columns.keys { columns } = r := ⟨_, rfl⟩
      rw [hr] at hwarnings
      simp only [hr]
      cases result with
      | ok _ => exact hwarnings.judged
      | error e => exact .failed hwarnings
  · exact .error .queryNotExecuted

/-- A fetch from a query of any kind adds records that fit its result. -/
theorem Query.judged_fetch {ν : Type} [Network ν] (query : Query) (c : Connection ν)
    (bound : Bindings DataBuffer) :
    Judged (query.fetch c bound).result (query.fetch c bound).warnings := by
  cases query with
  | data q => exact q.judged_fetch c bound
  | columns q => exact q.judged_fetch c bound
  | tables q => exact q.judged_fetch c bound
  | foreignKeys q =>
    show Judged q.fetch []
    unfold ForeignKeysQuery.fetch
    split
    · exact .noData
    · exact .error .queryNotExecuted

end GridClient
