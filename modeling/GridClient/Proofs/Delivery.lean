import GridClient.Outcome
import GridClient.Proofs.Page
import GridClient.Query.Sink

/-!
What a row leaves in the buffers bound to its columns. A column that has no buffer changes nothing,
and a buffer that has no column is left alone.
-/
namespace GridClient

namespace Bindings

variable {α : Type} {b : Bindings α} {key : UInt16} {value old : α}

theorem ext_entries {b b' : Bindings α} (h : b.entries = b'.entries) : b = b' := by
  cases b
  cases b'
  cases h
  rfl

/-- Every value replaced, by a function that may look at its number. -/
def mapWithKey (f : UInt16 → α → α) (b : Bindings α) : Bindings α :=
  ⟨b.entries.map fun e => (e.1, f e.1 e.2), by
    rw [List.pairwise_map]
    exact b.ascending⟩

theorem mapWithKey_mapWithKey (f g : UInt16 → α → α) (b : Bindings α) :
    (b.mapWithKey f).mapWithKey g = b.mapWithKey fun key value => g key (f key value) :=
  ext_entries (List.map_map ..)

theorem get?_mapWithKey (f : UInt16 → α → α) (b : Bindings α) (key : UInt16) :
    (b.mapWithKey f).get? key = (b.get? key).map (f key) := by
  unfold get? mapWithKey
  rw [List.find?_map]
  cases h : b.entries.find? ((fun e => e.1 == key) ∘ fun e => (e.1, f e.1 e.2)) with
  | none =>
    have h' : b.entries.find? (fun e => e.1 == key) = none := h
    simp [h']
  | some e =>
    have h' : b.entries.find? (fun e => e.1 == key) = some e := h
    have hk : e.1 = key := by simpa using List.find?_some h'
    simp [h', hk]

theorem find?_of_mem {entries : List (UInt16 × α)} {e : UInt16 × α}
    (hp : entries.Pairwise fun a b => a.1 < b.1) (h : e ∈ entries) :
    entries.find? (·.1 == e.1) = some e := by
  induction entries with
  | nil => cases h
  | cons first rest ih =>
    obtain ⟨hfirst, hrest⟩ := List.pairwise_cons.mp hp
    rcases List.mem_cons.mp h with rfl | h
    · simp
    · have hne : first.1 ≠ e.1 := UInt16.ne_of_lt (hfirst e h)
      rw [List.find?_cons_of_neg (by simpa using hne)]
      exact ih hrest h

theorem mapWithKey_congr {f g : UInt16 → α → α}
    (h : ∀ key value, b.get? key = some value → f key value = g key value) :
    b.mapWithKey f = b.mapWithKey g := by
  apply ext_entries
  apply List.map_congr_left
  intro e he
  have hget : b.get? e.1 = some e.2 := by
    rw [get?, find?_of_mem b.ascending he]
    rfl
  rw [h e.1 e.2 hget]

theorem insertEntry_of_find? {entries : List (UInt16 × α)} {e : UInt16 × α}
    (hp : entries.Pairwise fun a b => a.1 < b.1) (h : entries.find? (·.1 == key) = some e) :
    insertEntry key value entries =
      entries.map fun e => (e.1, if e.1 = key then value else e.2) := by
  induction entries with
  | nil => cases h
  | cons first rest ih =>
    obtain ⟨hfirst, hrest⟩ := List.pairwise_cons.mp hp
    have hkey : e.1 = key := by simpa using List.find?_some h
    rw [insertEntry]
    by_cases heq : key = first.1
    · subst heq
      have hmap : rest.map (fun e => (e.1, if e.1 = first.1 then value else e.2)) = rest := by
        refine (List.map_congr_left (g := id) ?_).trans (List.map_id _)
        intro e he
        rw [if_neg (UInt16.ne_of_lt (hfirst e he)).symm]
        rfl
      rw [if_neg (UInt16.lt_irrefl _), if_pos rfl, List.map_cons, hmap, if_pos rfl]
    · have hne : first.1 ≠ key := fun h => heq h.symm
      rw [List.find?_cons_of_neg (by simpa using hne)] at h
      have hlt : first.1 < key := hkey ▸ hfirst e (List.mem_of_find?_eq_some h)
      rw [if_neg (UInt16.lt_asymm hlt), if_neg heq, ih hrest h, List.map_cons, if_neg hne]

/-- Binding a value to a number in use replaces what was bound to it, and nothing else. -/
theorem insert_of_get? (h : b.get? key = some old) :
    b.insert key value = b.mapWithKey fun k v => if k = key then value else v := by
  obtain ⟨e, he, _⟩ := Option.map_eq_some_iff.mp h
  exact ext_entries (insertEntry_of_find? b.ascending he)

end Bindings

/-! ### The columns of a row -/

/-- The number of the column at an index. -/
def columnNumber (index : Nat) : UInt16 := UInt16.ofNat (index + 1)

/-- A buffer after the first `reached` values have gone into the buffers bound to their columns. -/
def written (values : List ColumnValue) (reached : Nat) (column : UInt16) (buffer : DataBuffer) :
    DataBuffer :=
  if 0 < column.toNat ∧ column.toNat ≤ reached then
    match values[column.toNat - 1]? with
    | some value => (value.putInto buffer).2
    | none => buffer
  else buffer

/-- What the conversion of one value reports: a warning of its row and column if it was cut short,
and an error if it was lost or the buffer's type has no form for it. A column without a buffer is
not converted. -/
def reportAt (row : Int32) (values : List ColumnValue) (bound : Bindings DataBuffer)
    (index : Nat) : Except Error (List StatusRecord) :=
  match values[index]?, bound.get? (columnNumber index) with
  | some value, some buffer =>
    match (value.putInto buffer).1 with
    | .success => .ok []
    | .truncated => .ok [.truncation row (columnNumber index)]
    | .failure => .error (.columnRetrieval row (columnNumber index))
    | .unsupported =>
      .error (.unsupportedConversion ("column " ++ toString (columnNumber index).toNat ++
        " can not be converted to the bound type"))
  | _, _ => .ok []

theorem reportAt_of_bound {row : Int32} {values : List ColumnValue} {bound : Bindings DataBuffer}
    {index : Nat} {value : ColumnValue} {buffer : DataBuffer} (hv : values[index]? = some value)
    (hb : bound.get? (columnNumber index) = some buffer) :
    reportAt row values bound index = (value.putInto buffer).1.report row (columnNumber index) := by
  rw [reportAt, hv, hb]
  cases h : (value.putInto buffer).1 <;> simp only [h, Conversion.report]

/-- The warnings of the first values, in the order of their columns. -/
def warningsBefore (row : Int32) (values : List ColumnValue) (bound : Bindings DataBuffer)
    (index : Nat) : List StatusRecord :=
  (List.range index).flatMap fun i => (reportAt row values bound i).toOption.getD []

/-- A row delivered to the buffers bound to its columns: all of it, or up to and including the
first value that its buffer's type refuses. -/
inductive Delivered (row : Int32) (values : List ColumnValue) (before : Bindings DataBuffer) :
    Except Error Outcome → Bindings DataBuffer → List StatusRecord → Prop where
  | whole
    (accepted : ∀ i < values.length, ∃ warnings, reportAt row values before i = .ok warnings) :
    Delivered row values before
      (.ok (Outcome.ofTruncated (!(warningsBefore row values before values.length).isEmpty)))
      (before.mapWithKey (written values values.length))
      (warningsBefore row values before values.length)
  | refused {index : Nat} {e : Error} (lt : index < values.length)
    (accepted : ∀ i < index, ∃ warnings, reportAt row values before i = .ok warnings)
    (refused : reportAt row values before index = .error e) :
    Delivered row values before (.error e)
      (before.mapWithKey (written values (index + 1))) (warningsBefore row values before index)

namespace ColumnSink

variable {row : Int32} {values : List ColumnValue} {before : Bindings DataBuffer}

/-- The sink when the values before an index have gone into it. -/
def reached (row : Int32) (values : List ColumnValue) (before : Bindings DataBuffer)
    (index : Nat) : ColumnSink :=
  ⟨before.mapWithKey (written values index), warningsBefore row values before index⟩

theorem toNat_columnNumber {index : Nat} (h : index < 0xFFFF) :
    (columnNumber index).toNat = index + 1 := by
  rw [columnNumber, UInt16.toNat_ofNat']
  omega

theorem columnNumber_succ (index : Nat) : columnNumber index + 1 = columnNumber (index + 1) := by
  rw [columnNumber, columnNumber, UInt16.ofNat_add (index + 1) 1]
  rfl

theorem reached_zero : reached row values before 0 = { columns := before } := by
  have hb : before.mapWithKey (written values 0) = before := by
    apply Bindings.ext_entries
    refine (List.map_congr_left (g := id) ?_).trans (List.map_id _)
    intro e _
    simp only [written, id]
    rw [if_neg (by omega)]
  rw [reached, hb]
  rfl

/-- One value further, only the buffer of that column changes, and it still held what it held. -/
theorem written_succ {index : Nat} {value : ColumnValue} (hv : values[index]? = some value)
    (h : index < 0xFFFF) (column : UInt16) (buffer : DataBuffer) :
    written values (index + 1) column buffer =
      if column = columnNumber index then (value.putInto buffer).2
      else written values index column buffer := by
  have hn := toNat_columnNumber h
  unfold written
  by_cases heq : column = columnNumber index
  · rw [if_pos heq, if_pos (by rw [heq, hn]; omega), heq, hn, Nat.add_sub_cancel, hv]
  · have hne : column.toNat ≠ index + 1 := fun h' => heq (UInt16.toNat_inj.mp (h'.trans hn.symm))
    rw [if_neg heq]
    by_cases hle : 0 < column.toNat ∧ column.toNat ≤ index
    · rw [if_pos hle, if_pos (by omega)]
    · rw [if_neg hle, if_neg (by omega)]

theorem written_self {index : Nat} (h : index < 0xFFFF) (buffer : DataBuffer) :
    written values index (columnNumber index) buffer = buffer := by
  have hn := toNat_columnNumber h
  rw [written, if_neg (by omega)]

theorem written_succ_of_unbound {index : Nat} {value : ColumnValue}
    (hv : values[index]? = some value) (h : index < 0xFFFF)
    (hb : before.get? (columnNumber index) = none) :
    before.mapWithKey (written values (index + 1)) = before.mapWithKey (written values index) := by
  apply Bindings.mapWithKey_congr
  intro key buffer hk
  have hne : key ≠ columnNumber index := by
    intro heq
    rw [heq, hb] at hk
    cases hk
  rw [written_succ hv h, if_neg hne]

theorem written_succ_of_bound {index : Nat} {value : ColumnValue} {buffer : DataBuffer}
    (hv : values[index]? = some value) (h : index < 0xFFFF)
    (hb : before.get? (columnNumber index) = some buffer) :
    (before.mapWithKey (written values index)).insert (columnNumber index)
      (value.putInto buffer).2 = before.mapWithKey (written values (index + 1)) := by
  have hget : (before.mapWithKey (written values index)).get? (columnNumber index) =
      some buffer := by
    rw [Bindings.get?_mapWithKey, hb, Option.map_some, written_self h]
  rw [Bindings.insert_of_get? hget, Bindings.mapWithKey_mapWithKey]
  apply Bindings.mapWithKey_congr
  intro key old hk
  rw [written_succ hv h]
  by_cases heq : key = columnNumber index
  · rw [heq, hb] at hk
    cases hk
    rw [if_pos heq]
  · rw [if_neg heq, if_neg heq]

theorem warningsBefore_succ (row : Int32) (values : List ColumnValue)
    (before : Bindings DataBuffer) (index : Nat) :
    warningsBefore row values before (index + 1) = warningsBefore row values before index ++
      (reportAt row values before index).toOption.getD [] := by
  simp [warningsBefore, List.range_succ]

/-- A value goes into its buffer whatever comes of it, and a refused one leaves no warning. -/
theorem put_reached {index : Nat} {value : ColumnValue} (hv : values[index]? = some value)
    (h : index < 0xFFFF) :
    (reached row values before index).put row (columnNumber index) value =
      match reportAt row values before index with
      | .ok _ => (.ok (), reached row values before (index + 1))
      | .error e => (.error e, ⟨before.mapWithKey (written values (index + 1)),
          warningsBefore row values before index⟩) := by
  have hget : (reached row values before index).columns.get? (columnNumber index) =
      (before.get? (columnNumber index)).map fun buffer =>
        written values index (columnNumber index) buffer :=
    Bindings.get?_mapWithKey ..
  have hwarnings := warningsBefore_succ row values before index
  cases hb : before.get? (columnNumber index) with
  | none =>
    have hreport : reportAt row values before index = .ok [] := by rw [reportAt, hv, hb]
    rw [hreport, Except.toOption, Option.getD_some, List.append_nil] at hwarnings
    rw [hb, Option.map_none] at hget
    rw [put, hget, hreport, reached, reached, written_succ_of_unbound hv h hb, hwarnings]
  | some buffer =>
    have hreport : reportAt row values before index =
        (value.putInto buffer).1.report row (columnNumber index) := reportAt_of_bound hv hb
    rw [hb, Option.map_some, written_self h] at hget
    rw [put, hget, hreport]
    have hinsert := written_succ_of_bound hv h hb
    cases hc : (value.putInto buffer).1.report row (columnNumber index) with
    | ok records =>
      rw [hreport, hc, Except.toOption, Option.getD_some] at hwarnings
      simp only [hc, reached, hinsert, hwarnings]
    | error e => simp only [hc, reached, hinsert]

/-- Writes values into consecutive columns, up to the first that cannot be converted. -/
def putAll (row : Int32) : UInt16 → List ColumnValue → ColumnSink → Except Error Unit × ColumnSink
  | _, [], s => (.ok (), s)
  | column, value :: values, s =>
    match s.put row column value with
    | (.ok (), s) => putAll row (column + 1) values s
    | (.error e, s) => (.error e, s)

/-- From any column on, the rest of a row is delivered as the whole of it. -/
theorem putAll_delivers (row : Int32) {values : List ColumnValue} (before : Bindings DataBuffer)
    {index : Nat} (hlen : values.length ≤ 0xFFFF) (hle : index ≤ values.length)
    (accepted : ∀ i < index, ∃ warnings, reportAt row values before i = .ok warnings) :
    let (result, sink) := putAll row (columnNumber index) (values.drop index)
      (reached row values before index)
    Delivered row values before (result.map fun () => .ofTruncated (!sink.warnings.isEmpty))
      sink.columns sink.warnings := by
  by_cases hlt : index < values.length
  · have hv := List.getElem?_eq_getElem hlt
    rw [List.drop_eq_getElem_cons hlt, putAll, put_reached hv (by omega)]
    cases hreport : reportAt row values before index with
    | error e => exact .refused hlt accepted hreport
    | ok warnings =>
      simp only [columnNumber_succ]
      apply putAll_delivers row before hlen hlt
      intro i hi
      rcases Nat.lt_succ_iff_lt_or_eq.mp hi with hi | rfl
      · exact accepted i hi
      · exact ⟨warnings, hreport⟩
  · have heq : index = values.length := by omega
    subst heq
    rw [List.drop_length, putAll]
    exact .whole accepted

/-- A row is delivered from its first column on. -/
theorem putAll_delivers_row (row : Int32) (before : Bindings DataBuffer)
    (hlen : values.length ≤ 0xFFFF) :
    let (result, sink) := putAll row (columnNumber 0) values { columns := before }
    Delivered row values before (result.map fun () => .ofTruncated (!sink.warnings.isEmpty))
      sink.columns sink.warnings := by
  have hput := putAll_delivers row before hlen (Nat.zero_le _)
    (fun i hi => absurd hi (Nat.not_lt_zero i))
  rwa [reached_zero] at hput

/-! ### Rows made up locally -/

section

variable {s : ColumnSink} {columns : List UInt16}

/-- A value that is put changes what a column is bound to, not whether it is bound. -/
theorem isSome_get?_put (s : ColumnSink) (row : Int32) (column : UInt16) (value : ColumnValue)
    (key : UInt16) :
    ((s.put row column value).2.columns.get? key).isSome = (s.columns.get? key).isSome := by
  unfold put
  cases h : s.columns.get? column with
  | none => rfl
  | some buffer =>
    have hinsert (buffer' : DataBuffer) :
        ((s.columns.insert column buffer').get? key).isSome = (s.columns.get? key).isSome := by
      rw [Bindings.insert_of_get? h, Bindings.get?_mapWithKey, Option.isSome_map]
    obtain ⟨⟨conversion, buffer'⟩, hput⟩ : ∃ p, value.putInto buffer = p := ⟨_, rfl⟩
    simp only [hput]
    cases conversion.report row column <;> exact hinsert buffer'

theorem valueAt?_columnNumber {index : Nat} (h : index < 0xFFFF) :
    valueAt? values (columnNumber index) = values[index]? := by
  have hn := toNat_columnNumber h
  have hne : columnNumber index ≠ 0 := by
    intro heq
    rw [heq] at hn
    cases hn
  rw [valueAt?, if_neg hne, hn, Nat.add_sub_cancel]

theorem valueAt?_of_past {column : UInt16} (h : values.length < column.toNat) :
    valueAt? values column = none := by
  unfold valueAt?
  split
  · rfl
  · exact List.getElem?_eq_none (by omega)

theorem putBound_of_past (h : ∀ column ∈ columns, valueAt? values column = none) :
    putBound row values columns s = (.ok (), s) := by
  induction columns with
  | nil => rfl
  | cons column columns ih =>
    rw [putBound, h column List.mem_cons_self]
    exact ih fun c hc => h c (List.mem_cons_of_mem _ hc)

/-- The first of some ascending columns past an index is the next one, if that is among them. -/
theorem eq_cons_of_mem {index : Nat} (h : index < 0xFFFF) (ascending : columns.Pairwise (· < ·))
    (past : ∀ column ∈ columns, index < column.toNat) (hmem : columnNumber index ∈ columns) :
    ∃ rest, columns = columnNumber index :: rest := by
  cases columns with
  | nil => cases hmem
  | cons first rest =>
    rcases List.mem_cons.mp hmem with rfl | hrest
    · exact ⟨rest, rfl⟩
    · have hlt := UInt16.lt_iff_toNat_lt.mp ((List.pairwise_cons.mp ascending).1 _ hrest)
      have hpast := past first List.mem_cons_self
      rw [toNat_columnNumber h] at hlt
      omega

/-- To go through the bound columns is to go through the values: from any column on, the columns
that are passed over are those without a buffer and those without a value. -/
theorem putBound_eq_putAll {index : Nat} (hlen : values.length ≤ 0xFFFF)
    (ascending : columns.Pairwise (· < ·)) (past : ∀ column ∈ columns, index < column.toNat)
    (bound : ∀ column : UInt16, index < column.toNat → (s.columns.get? column).isSome →
      column ∈ columns) :
    putBound row values columns s = putAll row (columnNumber index) (values.drop index) s := by
  generalize hn : values.length - index = n
  induction n generalizing index columns s with
  | zero =>
    rw [List.drop_eq_nil_of_le (by omega), putAll]
    apply putBound_of_past
    intro column hmem
    have hpast := past column hmem
    exact valueAt?_of_past (by omega)
  | succ n ih =>
    have hlt : index < values.length := by omega
    have hnumber : (columnNumber index).toNat = index + 1 := toNat_columnNumber (by omega)
    rw [List.drop_eq_getElem_cons hlt, putAll]
    by_cases hmem : columnNumber index ∈ columns
    · obtain ⟨rest, rfl⟩ := eq_cons_of_mem (by omega) ascending past hmem
      obtain ⟨hfirst, hrest⟩ := List.pairwise_cons.mp ascending
      rw [putBound, valueAt?_columnNumber (by omega), List.getElem?_eq_getElem hlt]
      have hkept := isSome_get?_put s row (columnNumber index) values[index]
      obtain ⟨⟨result, s'⟩, hput⟩ : ∃ r, s.put row (columnNumber index) values[index] = r :=
        ⟨_, rfl⟩
      simp only [hput] at hkept ⊢
      cases result with
      | error e => rfl
      | ok _ =>
        rw [columnNumber_succ]
        refine ih hrest ?_ ?_ (by omega)
        · intro column hc
          have hlt' := UInt16.lt_iff_toNat_lt.mp (hfirst column hc)
          omega
        · intro column hc hsome
          rw [hkept] at hsome
          rcases List.mem_cons.mp (bound column (by omega) hsome) with rfl | hc'
          · omega
          · exact hc'
    · -- Without a buffer the value goes nowhere, and the same columns are left.
      have hnone : s.columns.get? (columnNumber index) = none := by
        rw [← Option.not_isSome_iff_eq_none]
        exact fun hsome => hmem (bound _ (by omega) hsome)
      have hput : s.put row (columnNumber index) values[index] = (.ok (), s) := by
        simp only [put, hnone]
      simp only [hput, columnNumber_succ]
      refine ih ascending ?_ ?_ (by omega)
      · intro column hc
        have hpast := past column hc
        have hne : column.toNat ≠ index + 1 := by
          intro heq
          rw [← hnumber] at heq
          exact hmem (UInt16.toNat_inj.mp heq ▸ hc)
        omega
      · exact fun column hc => bound column (by omega)

/-- A buffer may be bound to column zero, which no row has. -/
theorem putBound_keys (row : Int32) (before : Bindings DataBuffer) (hlen : values.length ≤ 0xFFFF) :
    putBound row values before.keys { columns := before } =
      putAll row (columnNumber 0) values { columns := before } := by
  have hascending : before.keys.Pairwise (· < ·) := List.pairwise_map.mpr before.ascending
  have hbound (column : UInt16) (h : (before.get? column).isSome) : column ∈ before.keys := by
    rw [Bindings.get?, Option.isSome_map] at h
    obtain ⟨e, he⟩ := Option.isSome_iff_exists.mp h
    have hkey : e.1 = column := by simpa using List.find?_some he
    exact hkey ▸ List.mem_map_of_mem (List.mem_of_find?_eq_some he)
  cases hkeys : before.keys with
  | nil =>
    rw [hkeys] at hbound
    exact putBound_eq_putAll hlen .nil (fun _ h => nomatch h) fun c _ hc => hbound c hc
  | cons first rest =>
    rw [hkeys] at hascending hbound
    obtain ⟨hfirst, hrest⟩ := List.pairwise_cons.mp hascending
    have hpast (column : UInt16) (h : column ∈ rest) : 0 < column.toNat := by
      have hlt := UInt16.lt_iff_toNat_lt.mp (hfirst column h)
      omega
    by_cases hzero : first = 0
    · subst hzero
      rw [putBound, valueAt?, if_pos rfl]
      refine putBound_eq_putAll hlen hrest hpast fun column hpos hc => ?_
      rcases List.mem_cons.mp (hbound column hc) with rfl | hc'
      · cases hpos
      · exact hc'
    · have hpos : 0 < first.toNat := Nat.pos_of_ne_zero fun h => hzero (UInt16.toNat_inj.mp h)
      refine putBound_eq_putAll hlen hascending ?_ fun c _ hc => hbound c hc
      intro column hc
      rcases List.mem_cons.mp hc with rfl | hc
      · exact hpos
      · exact hpast column hc

/-- A row made up locally is delivered to the bound columns, whichever they are. -/
theorem putRow_delivers (row : Int32) (before : Bindings DataBuffer)
    (hlen : values.length ≤ 0xFFFF) :
    let (result, sink) := putRow row values before
    Delivered row values before result sink.columns sink.warnings := by
  have hput := putAll_delivers_row row before hlen
  rwa [← putBound_keys row before hlen] at hput

end

end ColumnSink

/-- The columns of a row that was written are all decoded, so a row of a page is delivered as the
list of its values. It stays in the same row. -/
theorem Row.deliver_toRow (rows : List (List Cell)) (p : Place) (row : Int32) (column : UInt16)
    (sink : ColumnSink) :
    ∃ reached ≤ max p.column (p.cells rows).length,
      Row.deliver row ((p.cells rows).length - p.column) column (p.toRow rows) sink =
        let (result, sink) :=
          ColumnSink.putAll row column (((p.cells rows).drop p.column).map Cell.column) sink
        (result.mapError .refused, Place.toRow rows ⟨p.row, reached⟩, sink) := by
  generalize hn : (p.cells rows).length - p.column = n
  induction n generalizing p column sink with
  | zero =>
    refine ⟨p.column, Nat.le_max_left _ _, ?_⟩
    rw [List.drop_eq_nil_of_le (by omega)]
    rfl
  | succ n ih =>
    have hlt : p.column < (p.cells rows).length := by omega
    rw [Row.deliver, Place.readColumn_toRow (List.getElem?_eq_getElem hlt),
      List.drop_eq_getElem_cons hlt, List.map_cons, ColumnSink.putAll]
    obtain ⟨⟨result, sink'⟩, hput⟩ :
        ∃ r, sink.put row column (p.cells rows)[p.column].column = r := ⟨_, rfl⟩
    simp only [hput]
    cases result with
    | error e => exact ⟨p.column + 1, by omega, rfl⟩
    | ok _ =>
      obtain ⟨reached, hle, hd⟩ := ih ⟨p.row, p.column + 1⟩ (column + 1) sink' (by
        show (p.cells rows).length - (p.column + 1) = n
        omega)
      refine ⟨reached, Nat.le_trans hle ?_, hd⟩
      show max (p.column + 1) (p.cells rows).length ≤ _
      omega

end GridClient
