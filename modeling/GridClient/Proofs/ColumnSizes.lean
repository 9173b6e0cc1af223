import GridClient.Metadata.Column
import GridClient.Proofs.NumeralPlaces
import GridClient.Proofs.Page
import GridClient.Proofs.Truncation

/-!
Buffers made as large as the metadata of a column tells. For each kind of value that takes a fixed
width, the reported sizes are enough for every value of the kind, as raw bytes and as a text. Single
UTF-16 units are the exception: they are reported as integers of one byte and delivered as integers
of two.
-/
namespace GridClient

/-! ### The room that texts take -/

theorem Utf8.length_encode_of_ascii {cs : List Char} (h : ∀ c ∈ cs, c.utf8Size = 1) :
    (encode (String.ofList cs)).length = cs.length := by
  have hsize : (encode (String.ofList cs)).length = String.utf8Len cs :=
    String.utf8ByteSize_ofList cs
  rw [hsize]
  clear hsize
  induction cs with
  | nil => rfl
  | cons c cs ih =>
    rw [String.utf8Len_cons, h c (.head _), ih fun c hc => h c (.tail _ hc), List.length_cons]

namespace Numeral

theorem length_digits_le_iff {n : ℕ} (hpos : n ≠ 0) (k : ℕ) :
    (digits n).length ≤ k ↔ n < 10 ^ k := by
  rw [length_digits, Nat.succ_le_iff, Nat.log_lt_iff_lt_pow (by decide) hpos]

/-- How long a numeral can be tells how far its integer can lie from zero. A sign takes a place. -/
theorem length_ofInt_le_iff (i : ℤ) (k : ℕ) :
    (ofInt i).length ≤ k + 1 ↔ -10 ^ k < i ∧ i < 10 ^ (k + 1) := by
  have hcast (j : ℕ) : (10 : ℤ) ^ j = ((10 ^ j : ℕ) : ℤ) := by push_cast; rfl
  have hone (j : ℕ) : 0 < 10 ^ j := Nat.pow_pos (by decide)
  have hlow := hone k
  have hhigh := hone (k + 1)
  rw [hcast, hcast, ofInt]
  by_cases hnegative : i < 0
  · rw [if_pos hnegative, List.length_cons, Nat.add_le_add_iff_right,
      length_digits_le_iff (by omega)]
    omega
  · rw [if_neg hnegative]
    by_cases hzero : i = 0
    · subst hzero
      have hlength : (digits (0 : ℤ).natAbs).length = 1 := by
        rw [length_digits]
        rfl
      omega
    · rw [length_digits_le_iff (by omega)]
      omega

end Numeral

/-- How far a whole number lies from zero decides how much room its text takes. -/
theorem Number.length_text_le_iff {n : Number} (h : n.ownType?.isSome) (k : ℕ) :
    (Utf8.encode n.text).length ≤ k + 1 ↔
      -10 ^ k < n.toInt64.toInt ∧ n.toInt64.toInt < 10 ^ (k + 1) := by
  have hascii : ∀ c ∈ Numeral.ofInt n.toInt64.toInt, c.utf8Size = 1 :=
    Numeral.forall_mem_ofInt (by decide) (by decide) _
  rw [text_of_whole h, Utf8.length_encode_of_ascii hascii, Numeral.length_ofInt_le_iff]

/-- The ends of its type bound the room that the text of a whole number takes. -/
theorem Number.length_text_le_of_own {n : Number} {type : BindingType} {f : IntegerFormat} {k : ℕ}
    (hown : n.ownType? = some type) (hf : type.integer? = some f) (hlow : -10 ^ k < f.asRead.least)
    (hhigh : f.asRead.least + f.asRead.count ≤ 10 ^ (k + 1)) :
    (Utf8.encode n.text).length ≤ k + 1 := by
  have hwhole : n.ownType?.isSome := by
    rw [hown]
    rfl
  obtain ⟨f', hf', -, hleast, hgreatest⟩ := exists_integer?_of_own hown
  obtain rfl := Option.some.inj (hf.symm.trans hf')
  rw [length_text_le_iff hwhole]
  exact ⟨Int.lt_of_lt_of_le hlow hleast, Int.lt_of_lt_of_le hgreatest hhigh⟩

theorem Guid.length_text (g : Guid) : (Utf8.encode g.text).length = 36 := by
  have hascii : ∀ c ∈ g.chars, c.utf8Size = 1 := g.forall_mem_chars (by decide) (by decide)
  rw [text, Utf8.length_encode_of_ascii hascii, chars]
  simp only [List.length_append, List.length_cons, Hex.length_numeral]

/-! ### Values and the sizes that are reported of their kinds -/

namespace TypeTag

/-- Whether all values of the kind are numbers of one width, truth values or identifiers. -/
def isMeasured : TypeTag → Bool
  | byte | short | char | int | long | bool | uuid => true
  | _ => false

variable (tag : TypeTag)

/-- The bytes that a fixed binding of the kind is said to transfer. -/
def transferSize : ℕ := (SqlType.ofTag tag.code).transferLength.toInt.toNat

/-- The characters that the widest value of the kind is said to take. -/
def displaySize : ℕ := (SqlType.ofTag tag.code).displaySize.toInt.toNat

end TypeTag

/-- What the metadata of a column tells is what is said of the kind of its values. -/
theorem ColumnMeta.attribute?_of_tag {c : ColumnMeta} {tag : TypeTag} (h : c.tag = tag.code) :
    c.attribute? .length = some (.number (.ofNat tag.transferSize)) ∧
    c.attribute? .octetLength = some (.number (.ofNat tag.transferSize)) ∧
    c.attribute? .displaySize = some (.number (.ofNat tag.displaySize)) := by
  have htransfer (type : SqlType) :
      type.transferLength.toInt64 = .ofNat type.transferLength.toInt.toNat := by
    cases type <;> rfl
  have hdisplay (type : SqlType) :
      type.displaySize.toInt64 = .ofNat type.displaySize.toInt.toNat := by
    cases type <;> rfl
  unfold attribute? sqlType TypeTag.transferSize TypeTag.displaySize
  rw [h]
  simp only [htransfer, hdisplay, and_self]

namespace WireValue

/-- What the buffer of a column is given of a value. -/
def delivered? : WireValue → Option PutValue
  | byte v => some (.number (.int8 v))
  | short v => some (.number (.int16 v))
  | char v => some (.number (.int16 v.toInt16))
  | int v => some (.number (.int32 v))
  | long v => some (.number (.int64 v))
  | bool v => some (.number (.int8 (if v then 1 else 0)))
  | uuid v => some (.guid v)
  | null | float _ | double _ | string _ | byteArray _ => none

variable {v : WireValue} {put : PutValue}

theorem exists_delivered (h : v.tag.isMeasured = true) : ∃ put, v.delivered? = some put := by
  cases v with
  | byte | short | char | int | long | bool | uuid => exact ⟨_, rfl⟩
  | null | float | double | string | byteArray => cases h

/-- The raw bytes of a value are as many as is said of its kind, but a single UTF-16 unit has two
where one is said. -/
theorem exists_raw (h : v.delivered? = some put) :
    ∃ raw, put.raw? = some raw ∧
      raw.length = if v.tag = .char then v.tag.transferSize + 1 else v.tag.transferSize := by
  cases v <;> cases h
  case uuid g => exact ⟨_, rfl, g.length_toBytes⟩
  all_goals exact ⟨_, rfl, LittleEndian.length_encode _ _⟩

/-- The text of a value takes at most the characters that are said of its kind. -/
theorem length_text_le (h : v.delivered? = some put) (hchar : v.tag ≠ .char) :
    (Utf8.encode put.text).length ≤ v.tag.displaySize := by
  cases v <;> cases h
  case char unit => exact absurd rfl hchar
  case byte | short | int | long =>
    exact Number.length_text_le_of_own rfl rfl (by decide) (by decide)
  case bool x =>
    apply (Number.length_text_le_iff rfl 0).mpr
    cases x <;> decide
  case uuid g => exact Nat.le_of_eq g.length_text

/-- The numeral of a single UTF-16 unit may take two characters more. -/
theorem length_text_le_iff (h : v.delivered? = some put) :
    (Utf8.encode put.text).length ≤ v.tag.displaySize ↔
      ∀ unit, v = char unit → -1000 < unit.toInt16.toInt ∧ unit.toInt16.toInt < 10000 := by
  by_cases hchar : v.tag = .char
  · obtain ⟨unit, rfl⟩ : ∃ unit, v = char unit := by
      cases v with
      | char unit => exact ⟨unit, rfl⟩
      | _ => cases hchar
    cases h
    refine (Number.length_text_le_iff rfl 3).trans ?_
    rw [Number.toInt64, Int16.toInt_toInt64]
    constructor
    · rintro hfits _ ⟨⟩
      exact hfits
    · intro hfits
      exact hfits unit rfl
  · refine iff_of_true (length_text_le h hchar) ?_
    rintro unit rfl
    exact absurd rfl hchar

end WireValue

namespace PutValue

variable {v : PutValue} {b : DataBuffer} {content slot : Bytes}

/-- A value that has some content in the bound type goes whole into a slot that it does not
overflow. -/
theorem put_result (h : v.content? b.type = some content) (hslot : b.slot = some slot) :
    (v.put b).1 = if b.type.overflows content.length slot.length then .truncated else .success := by
  obtain ⟨w, hsuits, hput⟩ := v.exists_rendering b.type
  rw [h] at hsuits
  rw [hput b rfl]
  exact (hsuits.write_slot hslot).1

theorem put_raw_result {raw : Bytes} (hraw : v.raw? = some raw)
    (htype : b.type = .binary ∨ b.type = .native) (hslot : b.slot = some slot) :
    (v.put b).1 = if slot.length < raw.length then .truncated else .success := by
  have hcontent : v.content? b.type = some raw := by
    rcases htype with htype | htype <;> rw [htype] <;> exact hraw
  rw [put_result hcontent hslot]
  rcases htype with htype | htype <;>
    simp only [htype, BindingType.overflows, decide_eq_true_eq]

/-- A text has to leave room for its zero. -/
theorem put_text_success_iff (htype : b.type = .char) (hslot : b.slot = some slot) :
    (v.put b).1 = .success ↔ (Utf8.encode v.text).length < slot.length := by
  have hcontent : v.content? b.type = some (Utf8.encode v.text) := by
    rw [htype]
    rfl
  rw [put_result hcontent hslot, htype]
  simp only [BindingType.overflows, decide_eq_true_eq]
  split
  · rename_i hshort
    simp only [reduceCtorEq, false_iff, Nat.not_lt]
    exact hshort
  · rename_i hroom
    exact iff_of_true rfl (Nat.lt_of_not_le hroom)

end PutValue

namespace WireValue

variable {v : WireValue} {put : PutValue}

/-- A value is encoded, its column is read again, and that puts the value into any buffer. -/
theorem exists_column (h : v.delivered? = some put) :
    ∃ (bytes : Bytes) (column : ColumnValue), v.encode = .ok bytes ∧
      Decoder.Reads Decoder.columnValue bytes column ∧ ∀ b, column.putInto b = put.put b := by
  have hencodable : ∃ bytes, v.encode = .ok bytes := by
    cases v with
    | byte | short | char | int | long | bool | uuid => exact ⟨_, rfl⟩
    | null | float | double | string | byteArray => cases h
  have hcolumn : v.tag ≠ .byteArray := by
    intro htag
    cases v with
    | byteArray => cases h
    | _ => cases htag
  let cell : Cell := ⟨v, hcolumn, hencodable⟩
  refine ⟨cell.bytes, cell.column, cell.encode_eq, Decoder.reads_columnValue cell, ?_⟩
  intro b
  cases v <;> cases h <;> rfl

/-- A value of the kind that a column reports goes whole into a buffer of the reported length,
unless it is a UTF-16 unit, and into a text of the reported display size, unless it is a unit with a
longer numeral than that. -/
theorem reported_sizes_suffice (hkind : v.tag.isMeasured = true) :
    (∀ c : ColumnMeta, c.tag = v.tag.code →
      c.attribute? .length = some (.number (.ofNat v.tag.transferSize)) ∧
      c.attribute? .octetLength = some (.number (.ofNat v.tag.transferSize)) ∧
      c.attribute? .displaySize = some (.number (.ofNat v.tag.displaySize))) ∧
    ∃ (bytes : Bytes) (column : ColumnValue), v.encode = .ok bytes ∧
      Decoder.Reads Decoder.columnValue bytes column ∧
      (∀ (b : DataBuffer) (slot : Bytes), b.type = .binary ∨ b.type = .native →
        b.slot = some slot → slot.length = v.tag.transferSize →
          (column.putInto b).1 = if v.tag = .char then .truncated else .success) ∧
      (∀ (b : DataBuffer) (slot : Bytes), b.type = .char → b.slot = some slot →
        slot.length = v.tag.displaySize + 1 →
          ((column.putInto b).1 = .success ↔ ∀ unit, v = char unit →
            -1000 < unit.toInt16.toInt ∧ unit.toInt16.toInt < 10000)) := by
  obtain ⟨put, hput⟩ := exists_delivered hkind
  obtain ⟨bytes, column, hencode, hreads, hcolumn⟩ := exists_column hput
  refine ⟨fun c hc => ColumnMeta.attribute?_of_tag hc, bytes, column, hencode, hreads, ?_, ?_⟩
  · intro b slot htype hslot hsize
    obtain ⟨raw, hraw, hlength⟩ := exists_raw hput
    rw [hcolumn, PutValue.put_raw_result hraw htype hslot, hsize, hlength]
    by_cases hchar : v.tag = .char
    · rw [if_pos hchar, if_pos hchar, if_pos (Nat.lt_add_one _)]
    · rw [if_neg hchar, if_neg hchar, if_neg (Nat.lt_irrefl _)]
  · intro b slot htype hslot hsize
    rw [hcolumn, PutValue.put_text_success_iff htype hslot, hsize, Nat.lt_add_one_iff,
      length_text_le_iff hput]

/-- The least integer of eight bytes, in a slot of eight bytes and in one of twenty-one. -/
theorem reported_sizes_suffice_least : ∃ (bytes : Bytes) (column : ColumnValue),
    (long Int64.minValue).encode = .ok bytes ∧
      Decoder.Reads Decoder.columnValue bytes column ∧
      (column.putInto ⟨.binary, some (List.replicate 8 9), none⟩).1 = .success ∧
      (column.putInto ⟨.char, some (List.replicate 21 9), none⟩).1 = .success := by
  obtain ⟨-, bytes, column, hencode, hreads, hraw, htext⟩ :=
    reported_sizes_suffice (v := long Int64.minValue) rfl
  refine ⟨bytes, column, hencode, hreads, hraw _ _ (.inl rfl) rfl rfl, ?_⟩
  apply (htext _ _ rfl rfl rfl).mpr
  rintro unit ⟨⟩

/-- The letter A does not go into the one byte that is reported, nor the ten thousandth unit into
the five. -/
theorem reported_sizes_of_units_too_small :
    ¬ (∀ (v : WireValue) (bytes : Bytes) (column : ColumnValue) (b : DataBuffer) (slot : Bytes),
      v.tag.isMeasured = true → v.encode = .ok bytes →
        Decoder.Reads Decoder.columnValue bytes column → b.type = .binary ∨ b.type = .native →
          b.slot = some slot → slot.length = v.tag.transferSize →
            (column.putInto b).1 = .success) ∧
    ¬ (∀ (v : WireValue) (bytes : Bytes) (column : ColumnValue) (b : DataBuffer) (slot : Bytes),
      v.tag.isMeasured = true → v.encode = .ok bytes →
        Decoder.Reads Decoder.columnValue bytes column → b.type = .char →
          b.slot = some slot → slot.length = v.tag.displaySize + 1 →
            (column.putInto b).1 = .success) := by
  constructor
  · intro hall
    have hreads := Decoder.reads_columnValue ⟨char 65, by decide, _, rfl⟩
    have hput := hall (char 65) _ _ ⟨.binary, some [9], none⟩ [9] rfl rfl hreads (.inl rfl) rfl rfl
    revert hput
    decide
  · intro hall
    have hreads := Decoder.reads_columnValue ⟨char 10000, by decide, _, rfl⟩
    have hput := hall (char 10000) _ _ ⟨.char, some [9, 9, 9, 9, 9], none⟩ _ rfl rfl hreads rfl rfl
      rfl
    have hfits := (PutValue.put_text_success_iff (v := .number (.int16 10000))
      (b := ⟨.char, some [9, 9, 9, 9, 9], none⟩) rfl rfl).mp hput
    have hshort := (Number.length_text_le_iff rfl 3).mp (Nat.le_of_lt_succ hfits)
    revert hshort
    decide

end WireValue

end GridClient
