import GridClient.Proofs.BufferRoundTrip

/-!
What becomes of a value in a buffer. However it is converted on its way, it ends in one of a few
ways of writing, and each of these goes by the size of the slot alone.
-/
namespace GridClient

namespace Bytes

/-- What lies past the end of the slot is dropped. -/
theorem overwrite_take (bytes slot : Bytes) :
    overwrite (bytes.take slot.length) slot = overwrite bytes slot := by
  induction bytes generalizing slot with
  | nil => rw [List.take_nil]
  | cons byte bytes ih =>
    cases slot with
    | nil => rfl
    | cons old slot => rw [List.length_cons, List.take_succ_cons, overwrite, overwrite, ih]

end Bytes

namespace BindingType

/-- How many bytes a value of the type takes, when that is the same for all of them. -/
def width? : BindingType → Option Nat
  | signedTinyInt | unsignedTinyInt | bit => some 1
  | signedShort | unsignedShort => some 2
  | signedLong | unsignedLong | float => some 4
  | signedBigInt | unsignedBigInt | double => some 8
  | guid => some 16
  | numeric => some 19
  | char | wideChar | binary | native | date | time | timestamp | unsupported => none

end BindingType

/-- A value as it is put into a buffer. -/
inductive PutValue where
  | number (n : Number)
  | string (text : String)
  | guid (g : Guid)
  | binary (bytes : Bytes)
  | decimal (d : Decimal)
  deriving DecidableEq, Repr

namespace PutValue

def put : PutValue → DataBuffer → Conversion × DataBuffer
  | number n, b => b.putNumber n
  | string text, b => b.putString text
  | guid g, b => b.putGuid g
  | binary bytes, b => b.putBinary bytes
  | decimal d, b => b.putDecimal d

/-- The value as a text. -/
def text : PutValue → String
  | number n => n.text
  | string text => text
  | guid g => g.text
  | binary bytes => String.ofList (Hex.ofBytes bytes)
  | decimal d => d.text

/-- The value as raw bytes, which a decimal has none of. -/
def raw? : PutValue → Option Bytes
  | number n => some n.toBytes
  | string text => some (Utf8.encode text)
  | guid g => some g.toBytes
  | binary bytes => some bytes
  | decimal _ => none

/-- The bytes of the value in a type that holds texts or raw bytes, with nothing behind them. -/
def content? (v : PutValue) : BindingType → Option Bytes
  | .char => some (Utf8.encode v.text)
  | .wideChar => some (Utf16.toBytes (Utf16.encode v.text))
  | .binary | .native => v.raw?
  | _ => none

end PutValue

/-- A way of writing into a buffer. -/
inductive Rendering where
  | fixed (bytes : Bytes)
  | raw (bytes : Bytes)
  | terminated (width : Nat) (units : List Bytes)
  | unsupported
  | refused
  deriving DecidableEq, Repr

namespace Rendering

def write : Rendering → DataBuffer → Conversion × DataBuffer
  | fixed bytes, b => b.putFixed bytes
  | raw bytes, b => b.putRaw bytes
  | terminated width units, b => b.putTerminated width units
  | unsupported, b => b.putUnsupported
  | refused, b => (.failure, b)

/-- The result, by the size of the slot. -/
def result : Rendering → Option Nat → Conversion
  | fixed _, none | raw _, none | terminated _ _, none => .success
  | fixed bytes, some n => if bytes.length ≤ n then .success else .failure
  | raw bytes, some n => if n < bytes.length then .truncated else .success
  | terminated width units, some n => if units.length < n / width then .success else .truncated
  | unsupported, _ => .unsupported
  | refused, _ => .failure

/-- What the length cell is set to, if it is set. -/
def reported? : Rendering → Option Int
  | fixed bytes | raw bytes => some bytes.length
  | terminated width units => some (width * units.length : Nat)
  | unsupported => some DataBuffer.unknownLength
  | refused => none

/-- The bytes that go to the beginning of a slot of this size. -/
def written : Rendering → Nat → Bytes
  | fixed bytes, n => if bytes.length ≤ n then bytes else []
  | raw bytes, n => bytes.take n
  | terminated width units, n =>
    if n / width = 0 then []
    else (units.take (n / width - 1) ++ [List.replicate width 0]).flatten
  | unsupported, _ | refused, _ => []

/-- All that a writing does. -/
theorem write_eq (w : Rendering) (b : DataBuffer) :
    w.write b = (w.result (b.slot.map List.length),
      { b with
        slot := b.slot.map fun slot => Bytes.overwrite (w.written slot.length) slot
        length := b.length.map fun old => w.reported?.getD old }) := by
  obtain ⟨type, slot?, length?⟩ := b
  cases slot? with
  | none => cases w <;> cases length? <;> rfl
  | some slot =>
    cases w with
    | fixed bytes =>
      by_cases hle : bytes.length ≤ slot.length
      · simp only [write, DataBuffer.putFixed, Option.map_some, result, written, if_pos hle]
        rfl
      · simp only [write, DataBuffer.putFixed, Option.map_some, result, written, if_neg hle]
        rfl
    | raw bytes =>
      -- the bytes past the end are cut off beforehand here, and dropped by the slot there
      simp only [Option.map_some, written, Bytes.overwrite_take]
      rfl
    | terminated width units =>
      by_cases hroom : slot.length / width = 0
      · simp only [write, DataBuffer.putTerminated, Option.map_some, written, if_pos hroom]
        rfl
      · simp only [write, DataBuffer.putTerminated, Option.map_some, written, if_neg hroom]
        rfl
    | unsupported => rfl
    | refused => cases length? <;> rfl

/-- What a value can become in a buffer of a type in which it has this content. -/
inductive Suits (type : BindingType) : Option Bytes → Rendering → Prop where
  | fixed {bytes : Bytes} (width : type.width? = some bytes.length) : Suits type none (.fixed bytes)
  | raw {bytes : Bytes} (isRaw : type = .binary ∨ type = .native) :
    Suits type (some bytes) (.raw bytes)
  | terminated {content : Bytes} {units : List Bytes} (isText : type = .char ∨ type = .wideChar)
    (uniform : ∀ u ∈ units, u.length = type.unit) (whole : units.flatten = content) :
    Suits type (some content) (.terminated type.unit units)
  | unsupported : Suits type none .unsupported
  | refused : Suits type none .refused

end Rendering

/-- What is put into a buffer of the type goes one way, whatever the buffer holds. -/
def Renders (put : DataBuffer → Conversion × DataBuffer) (type : BindingType)
    (content? : Option Bytes) : Prop :=
  ∃ w : Rendering, w.Suits type content? ∧
    ∀ (slot : Option Bytes) (length : Option Int),
      put ⟨type, slot, length⟩ = w.write ⟨type, slot, length⟩

section

variable {put put' : DataBuffer → Conversion × DataBuffer} {type : BindingType}
  {content? : Option Bytes}

theorem Renders.congr (h : Renders put' type content?)
    (same : ∀ slot length, put ⟨type, slot, length⟩ = put' ⟨type, slot, length⟩) :
    Renders put type content? := by
  obtain ⟨w, hsuits, hwrite⟩ := h
  exact ⟨w, hsuits, fun slot length => (same slot length).trans (hwrite slot length)⟩

theorem renders_fixed {bytes : Bytes}
    (same : ∀ slot length,
      put ⟨type, slot, length⟩ = DataBuffer.putFixed ⟨type, slot, length⟩ bytes)
    (width : type.width? = some bytes.length) : Renders put type none :=
  ⟨.fixed bytes, .fixed width, same⟩

theorem renders_raw {bytes : Bytes}
    (same : ∀ slot length,
      put ⟨type, slot, length⟩ = DataBuffer.putRaw ⟨type, slot, length⟩ bytes)
    (isRaw : type = .binary ∨ type = .native) : Renders put type (some bytes) :=
  ⟨.raw bytes, .raw isRaw, same⟩

theorem renders_text {text : String}
    (same : ∀ slot length,
      put ⟨.char, slot, length⟩ = DataBuffer.putText ⟨.char, slot, length⟩ text) :
    Renders put .char (some (Utf8.encode text)) := by
  obtain ⟨whole, uniform⟩ := DataBuffer.byteUnits (Utf8.encode text)
  exact ⟨_, .terminated (.inl rfl) uniform whole, same⟩

theorem renders_wideText {text : String}
    (same : ∀ slot length,
      put ⟨.wideChar, slot, length⟩ = DataBuffer.putWideText ⟨.wideChar, slot, length⟩ text) :
    Renders put .wideChar (some (Utf16.toBytes (Utf16.encode text))) := by
  obtain ⟨whole, uniform⟩ := DataBuffer.wideUnits (Utf16.encode text)
  exact ⟨_, .terminated (.inr rfl) uniform whole, same⟩

theorem renders_unsupported
    (same : ∀ slot length,
      put ⟨type, slot, length⟩ = DataBuffer.putUnsupported ⟨type, slot, length⟩) :
    Renders put type none :=
  ⟨.unsupported, .unsupported, same⟩

theorem renders_refused
    (same : ∀ slot length, put ⟨type, slot, length⟩ = (.failure, ⟨type, slot, length⟩)) :
    Renders put type none :=
  ⟨.refused, .refused, same⟩

end

/-! ### Each kind of value -/

namespace PutValue

theorem length_numericBytes {d : Decimal} {bytes : Bytes} (h : numericBytes? d = some bytes) :
    bytes.length = 19 := by
  simp only [numericBytes?, Option.ite_none_left_eq_some, Option.some.injEq] at h
  obtain ⟨-, hroom, -, rfl⟩ := h
  simp only [List.length_cons, List.length_append, List.length_reverse, List.length_replicate]
  omega

theorem renders_numeric (d : Decimal) : Renders (·.putNumeric d) .numeric none := by
  cases h : numericBytes? d with
  | none => exact renders_refused fun slot length => by simp only [DataBuffer.putNumeric, h]
  | some bytes =>
    have hwidth : BindingType.numeric.width? = some bytes.length := by
      rw [length_numericBytes h]
      rfl
    exact renders_fixed (fun slot length => by simp only [DataBuffer.putNumeric, h]) hwidth

theorem renders_number (n : Number) (type : BindingType) :
    Renders (·.putNumber n) type ((number n).content? type) := by
  cases type with
  | char => exact renders_text fun _ _ => rfl
  | wideChar => exact renders_wideText fun _ _ => rfl
  | binary => exact renders_raw (fun _ _ => rfl) (.inl rfl)
  | native => exact renders_raw (fun _ _ => rfl) (.inr rfl)
  | numeric =>
    cases n with
    | single v | double v => exact renders_unsupported fun _ _ => rfl
    | int8 v | int16 v | int32 v | int64 v => exact (renders_numeric _).congr fun _ _ => rfl
  | date | time | timestamp | guid | unsupported => exact renders_unsupported fun _ _ => rfl
  | signedTinyInt | unsignedTinyInt | bit | signedShort | unsignedShort | signedLong
  | unsignedLong | signedBigInt | unsignedBigInt | float | double =>
    exact renders_fixed (fun _ _ => rfl) rfl

theorem renders_guid (g : Guid) (type : BindingType) :
    Renders (·.putGuid g) type ((guid g).content? type) := by
  cases type with
  | char => exact renders_text fun _ _ => rfl
  | wideChar => exact renders_wideText fun _ _ => rfl
  | binary => exact renders_raw (fun _ _ => rfl) (.inl rfl)
  | native => exact renders_raw (fun _ _ => rfl) (.inr rfl)
  | guid => exact renders_fixed (fun _ _ => rfl) (congrArg some g.length_toStructBytes.symm)
  | _ => exact renders_unsupported fun _ _ => rfl

/-- A text goes into a buffer of numbers as the number that it spells. -/
theorem renders_string (text : String) (type : BindingType) :
    Renders (·.putString text) type ((string text).content? type) := by
  cases type with
  | char => exact renders_text fun _ _ => rfl
  | wideChar => exact renders_wideText fun _ _ => rfl
  | binary => exact renders_raw (fun _ _ => rfl) (.inl rfl)
  | native => exact renders_raw (fun _ _ => rfl) (.inr rfl)
  | guid =>
    cases h : Guid.parse? text with
    | none => exact renders_refused fun slot length => by simp only [DataBuffer.putString, h]
    | some g =>
      exact (renders_guid g .guid).congr fun slot length => by simp only [DataBuffer.putString, h]
  | date | time | timestamp | unsupported => exact renders_unsupported fun _ _ => rfl
  | _ => exact (renders_number _ _).congr fun _ _ => rfl

theorem renders_binary (bytes : Bytes) (type : BindingType) :
    Renders (·.putBinary bytes) type ((binary bytes).content? type) := by
  cases type with
  | char => exact renders_text fun _ _ => rfl
  | wideChar => exact renders_wideText fun _ _ => rfl
  | binary => exact renders_raw (fun _ _ => rfl) (.inl rfl)
  | native => exact renders_raw (fun _ _ => rfl) (.inr rfl)
  | _ => exact renders_unsupported fun _ _ => rfl

/-- A decimal goes into a buffer of numbers as the floating-point number next to it. -/
theorem renders_decimal (d : Decimal) (type : BindingType) :
    Renders (·.putDecimal d) type ((decimal d).content? type) := by
  cases type with
  | char => exact renders_text fun _ _ => rfl
  | wideChar => exact renders_wideText fun _ _ => rfl
  | numeric => exact renders_numeric d
  | binary | native | date | time | timestamp | guid | unsupported =>
    exact renders_unsupported fun _ _ => rfl
  | _ => exact (renders_number (.double d.toBinary64) _).congr fun _ _ => rfl

/-- However a value goes into buffers of one type, it goes into all of them the same way. -/
theorem exists_rendering (v : PutValue) (type : BindingType) :
    ∃ w : Rendering, w.Suits type (v.content? type) ∧
      ∀ b : DataBuffer, b.type = type → v.put b = w.write b := by
  have hrenders : Renders v.put type (v.content? type) := by
    cases v with
    | number n => exact renders_number n type
    | string text => exact renders_string text type
    | guid g => exact renders_guid g type
    | binary bytes => exact renders_binary bytes type
    | decimal d => exact renders_decimal d type
  obtain ⟨w, hsuits, hwrite⟩ := hrenders
  refine ⟨w, hsuits, ?_⟩
  rintro ⟨_, slot, length⟩ rfl
  exact hwrite slot length

end PutValue

end GridClient
