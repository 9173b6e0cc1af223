import GridClient.Proofs.BufferRoundTrip
import GridClient.Proofs.Page

/-!
A fetched value bound again as a parameter. A column that went whole into a buffer of a type that
suits it is sent from there as the value that the node had written.
-/
namespace GridClient

/-! ### Which buffers suit a value -/

namespace WireValue

/-- The types of buffers that a value can be fetched into and sent from again. -/
def bindingTypes : WireValue → List BindingType
  | null => BindingType.all
  | byte _ => [.signedTinyInt, .char, .wideChar]
  | short _ => [.signedShort, .char, .wideChar]
  | int _ => [.signedLong, .char, .wideChar]
  | long _ => [.signedBigInt, .char, .wideChar]
  | bool _ => [.bit, .char, .wideChar]
  | uuid _ => [.guid, .binary, .native, .char, .wideChar]
  | string _ => [.char, .wideChar]
  | char _ | float _ | double _ | byteArray _ => []

/-- The types that such a value is sent as. -/
def sqlTypes : WireValue → List SqlType
  | null => SqlType.all.filter SqlType.isSupported
  | byte _ => [.tinyInt]
  | short _ => [.smallInt]
  | int _ => [.integer]
  | long _ => [.bigInt]
  | bool _ => [.bit]
  | uuid _ => [.guid]
  | string _ => [.varchar]
  | char _ | float _ | double _ | byteArray _ => []

/-- The bytes that such a value takes in a buffer of some type. -/
def room (type : BindingType) : WireValue → Nat
  | byte v => type.room (Number.int8 v).text 1
  | short v => type.room (Number.int16 v).text 2
  | int v => type.room (Number.int32 v).text 4
  | long v => type.room (Number.int64 v).text 8
  | bool v => type.room (if v then "1" else "0") 1
  | uuid v => type.room v.text 16
  | string v => type.room v 0
  | null | char _ | float _ | double _ | byteArray _ => 0

/-- A buffer that a value can be fetched into and sent from again: one of a type that suits it, with
a length cell and with enough room. A text with a zero character in it would be cut short there. -/
structure Suits (v : WireValue) (b : DataBuffer) : Prop where
  type_mem : b.type ∈ v.bindingTypes
  hasLength : b.length.isSome
  hasRoom : v.room b.type ≤ b.capacity
  noZero : ∀ text, v = string text → Char.ofNat 0 ∉ text.toList

end WireValue

/-! ### From the column to the parameter -/

namespace DataBuffer

variable {b : DataBuffer} {v : WireValue} {sqlType : SqlType}

/-- A null is sent from any buffer that can tell it. -/
theorem putNull_rebinds (hlength : b.length.isSome) :
    ∃ b', b.putNull = (.success, b') ∧ Parameter.wireValue ⟨b', sqlType⟩ = .ok .null := by
  obtain ⟨length, hlength⟩ := Option.isSome_iff_exists.mp hlength
  refine ⟨_, rfl, ?_⟩
  rw [Parameter.wireValue, isNull, hlength]
  rfl

/-- A whole number is sent as what its low bits are for the type. -/
theorem putNumber_rebinds {n : Number} {own : BindingType} (hown : n.ownType? = some own)
    (htype : b.type ∈ [own, .char, .wideChar]) (hlength : b.length.isSome)
    (hroom : b.type.room n.text n.toBytes.length ≤ b.capacity)
    (hsent : ∀ b' : DataBuffer, b'.isNull = false → b'.getInt64 = n.toInt64 →
      Parameter.wireValue ⟨b', sqlType⟩ = .ok v) :
    ∃ b', b.putNumber n = (.success, b') ∧ Parameter.wireValue ⟨b', sqlType⟩ = .ok v := by
  obtain ⟨b', hput, hnull, hread⟩ := putNumber_whole hown htype hlength hroom
  exact ⟨b', hput, hsent b' hnull hread⟩

theorem text_of_bool (value : Bool) :
    (Number.int8 (if value then 1 else 0)).text = if value then "1" else "0" := by
  cases value with
  | false =>
    show String.ofList (Numeral.digits 0) = "0"
    rw [Numeral.digits]
    rfl
  | true =>
    show String.ofList (Numeral.digits 1) = "1"
    rw [Numeral.digits]
    rfl

/-- A buffer for bits is read back as the truth value that was written. -/
theorem putNumber_bit (value : Bool) (htype : b.type = .bit) (hlength : b.length.isSome)
    (hroom : 1 ≤ b.capacity) :
    ∃ b', b.putNumber (.int8 (if value then 1 else 0)) = (.success, b') ∧ b'.isNull = false ∧
      (b'.getInt8 != 0) = value := by
  obtain ⟨b', hput, hholds⟩ : ∃ b', b.putFixed [if value then 1 else 0] = (.success, b') ∧
      b'.Holds b.type [if value then 1 else 0] := putFixed_holds hlength Nat.one_pos hroom
  have hfixed : b'.fixed? 1 = some [if value then 1 else 0] := hholds.fixed?_eq
  refine ⟨b', ?_, hholds.isNull_eq, ?_⟩
  · unfold putNumber
    rw [← hput, htype]
    cases value <;> rfl
  · rw [getInt8, getInt64, getNumber, hholds.type_eq, htype]
    simp only [hfixed]
    cases value <;> rfl

/-- A truth value, which is written as a one or a zero, is sent as itself. -/
theorem putBool_rebinds (value : Bool) (htype : b.type ∈ [.bit, .char, .wideChar])
    (hlength : b.length.isSome) (hroom : b.type.room (if value then "1" else "0") 1 ≤ b.capacity) :
    ∃ b', b.putNumber (.int8 (if value then 1 else 0)) = (.success, b') ∧
      Parameter.wireValue ⟨b', .bit⟩ = .ok (.bool value) := by
  obtain ⟨b', hput, hnull, hread⟩ :
      ∃ b', b.putNumber (.int8 (if value then 1 else 0)) = (.success, b') ∧ b'.isNull = false ∧
        (b'.getInt8 != 0) = value := by
    rcases List.mem_cons.mp htype with htype | htype
    · rw [htype] at hroom
      exact putNumber_bit value htype hlength hroom
    · rw [← text_of_bool] at hroom
      obtain ⟨b', hput, hnull, hread⟩ := putNumber_text rfl (by simpa using htype) hroom
      refine ⟨b', hput, hnull, ?_⟩
      rw [getInt8, hread]
      cases value <;> rfl
  refine ⟨b', hput, ?_⟩
  simp only [Parameter.wireValue, hnull, hread]
  rfl

end DataBuffer

/-- A column whose value went into a buffer that suits it is sent from there as that value. -/
theorem Cell.rebinds (cell : Cell) {b : DataBuffer} {sqlType : SqlType} (h : cell.value.Suits b)
    (hsql : sqlType ∈ cell.value.sqlTypes) :
    ∃ b', cell.column.putInto b = (.success, b') ∧
      Parameter.wireValue ⟨b', sqlType⟩ = .ok cell.value := by
  obtain ⟨htype, hlength, hroom, hzero⟩ := h
  obtain ⟨v, hcolumn, hencodable⟩ := cell
  cases v with
  | null => exact DataBuffer.putNull_rebinds hlength
  | byte v =>
    cases List.mem_singleton.mp hsql
    refine DataBuffer.putNumber_rebinds rfl htype hlength hroom fun b' hnull hread => ?_
    simp only [Parameter.wireValue, hnull, DataBuffer.getInt8, hread, Number.toInt64,
      Int8.toInt8_toInt64]
    rfl
  | short v =>
    cases List.mem_singleton.mp hsql
    refine DataBuffer.putNumber_rebinds rfl htype hlength hroom fun b' hnull hread => ?_
    simp only [Parameter.wireValue, hnull, DataBuffer.getInt16, hread, Number.toInt64,
      Int16.toInt16_toInt64]
    rfl
  | int v =>
    cases List.mem_singleton.mp hsql
    refine DataBuffer.putNumber_rebinds rfl htype hlength hroom fun b' hnull hread => ?_
    simp only [Parameter.wireValue, hnull, DataBuffer.getInt32, hread, Number.toInt64,
      Int32.toInt32_toInt64]
    rfl
  | long v =>
    cases List.mem_singleton.mp hsql
    refine DataBuffer.putNumber_rebinds rfl htype hlength hroom fun b' hnull hread => ?_
    simp only [Parameter.wireValue, hnull, hread, Number.toInt64]
    rfl
  | bool v =>
    cases List.mem_singleton.mp hsql
    exact DataBuffer.putBool_rebinds v htype hlength hroom
  | uuid v =>
    cases List.mem_singleton.mp hsql
    obtain ⟨b', hput, hnull, hread⟩ := DataBuffer.putGuid_suited htype hlength hroom
    refine ⟨b', hput, ?_⟩
    simp only [Parameter.wireValue, hnull, hread]
    rfl
  | string v =>
    cases List.mem_singleton.mp hsql
    obtain ⟨b', hput, hnull, hread⟩ :=
      DataBuffer.putString_suited htype hroom (hzero v rfl)
    refine ⟨b', hput, ?_⟩
    rw [DataBuffer.wireValue_varchar hnull, hread]
  | char | float | double | byteArray => cases htype

/-- A value that was fetched and is bound again is sent as the value that it was. Its column is read
in front of anything else, goes whole into a buffer that suits it, and a parameter that is bound to
that buffer under the SQL type of the value has exactly that value. -/
theorem fetched_value_rebinds {v : WireValue} {bytes : Bytes} {b : DataBuffer} {sqlType : SqlType}
    (hencode : v.encode = .ok bytes) (h : v.Suits b) (hsql : sqlType ∈ v.sqlTypes) :
    ∃ column b', Decoder.Reads Decoder.columnValue bytes column ∧
      column.putInto b = (.success, b') ∧ Parameter.wireValue ⟨b', sqlType⟩ = .ok v := by
  have hcolumn : v.tag ≠ .byteArray := by
    intro htag
    cases v with
    | byteArray value => cases h.type_mem
    | _ => cases htag
  let cell : Cell := ⟨v, hcolumn, bytes, hencode⟩
  have hbytes : cell.bytes = bytes := Except.ok.inj (cell.encode_eq.symm.trans hencode)
  obtain ⟨b', hput, hsent⟩ := cell.rebinds h hsql
  exact ⟨cell.column, b', hbytes ▸ Decoder.reads_columnValue cell, hput, hsent⟩

/-- A text of three bytes fills a buffer of four. -/
theorem fetched_value_rebinds_text :
    ∃ column b', Decoder.Reads Decoder.columnValue [9, 3, 0, 0, 0, 0x61, 0xC3, 0xA9] column ∧
      column.putInto ⟨.char, some [0, 0, 0, 0], some 0⟩ = (.success, b') ∧
      Parameter.wireValue ⟨b', .varchar⟩ = .ok (.string "aé") := by
  have hencode : (WireValue.string "aé").encode = .ok [9, 3, 0, 0, 0, 0x61, 0xC3, 0xA9] := by rfl
  have hsuits : (WireValue.string "aé").Suits ⟨.char, some [0, 0, 0, 0], some 0⟩ := by
    refine ⟨by decide, rfl, by decide, ?_⟩
    rintro text ⟨⟩
    decide
  exact fetched_value_rebinds hencode hsuits (by decide)

end GridClient
