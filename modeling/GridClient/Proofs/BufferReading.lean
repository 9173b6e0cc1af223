import GridClient.Buffer.Get
import GridClient.Proofs.TextReading

/-!
What was written into a buffer is read back from it. A buffer with a length cell and enough room
holds exactly the bytes that went into it, whatever it held before.
-/
namespace GridClient

theorem Bytes.overwrite_of_le {bytes slot : Bytes} (h : bytes.length ≤ slot.length) :
    overwrite bytes slot = bytes ++ slot.drop bytes.length := by
  induction bytes generalizing slot with
  | nil => rfl
  | cons b bytes ih =>
    cases slot with
    | nil => cases h
    | cons old slot =>
      rw [overwrite, ih (Nat.le_of_succ_le_succ h), List.cons_append, List.length_cons,
        List.drop_succ_cons]

namespace BindingType

/-- How many bytes a unit of text has, in a type of texts. -/
def unit : BindingType → Nat
  | char => 1
  | wideChar => 2
  | _ => 0

/-- What stands behind a text, and nothing behind raw bytes. -/
def terminator (type : BindingType) : Bytes := List.replicate type.unit 0

/-- The bytes of a text in a type of texts. -/
def spelling (type : BindingType) (text : String) : Bytes :=
  match type with
  | wideChar => Utf16.toBytes (Utf16.encode text)
  | _ => Utf8.encode text

/-- The bytes before the first zero unit of a type of texts. -/
def beforeZero (type : BindingType) (bytes : Bytes) : Bytes :=
  match type with
  | wideChar => DataBuffer.untilZeroUnit bytes
  | _ => DataBuffer.untilZero bytes

end BindingType

namespace DataBuffer

/-- A buffer of a type that holds these bytes as its value. -/
structure Holds (b : DataBuffer) (type : BindingType) (bytes : Bytes) : Prop where
  type_eq : b.type = type
  length_eq : b.length = some (bytes.length : Int)
  slot_eq : ∃ rest, b.slot = some (bytes ++ rest)

variable {b : DataBuffer} {type : BindingType} {bytes : Bytes}

/-! ### Writing -/

/-- A slot that has room for something is there. -/
theorem exists_slot (h : 0 < b.capacity) :
    ∃ slot, b.slot = some slot ∧ b.capacity = slot.length := by
  unfold capacity at h ⊢
  cases hs : b.slot with
  | none =>
    rw [hs] at h
    cases h
  | some slot => exact ⟨slot, rfl, rfl⟩

/-- A value of fixed width is written when there is room for it. -/
theorem putFixed_of_room {slot : Bytes} (hslot : b.slot = some slot)
    (hroom : bytes.length ≤ slot.length) :
    b.putFixed bytes = (.success, { b with
      slot := some (bytes ++ slot.drop bytes.length)
      length := b.length.map fun _ => (bytes.length : Int) }) := by
  unfold putFixed
  rw [hslot]
  simp only [if_pos hroom, withBytes, withLength, hslot, Option.map_some,
    Bytes.overwrite_of_le hroom]

theorem putFixed_holds (hcell : b.length.isSome) (hpos : 0 < bytes.length)
    (hroom : bytes.length ≤ b.capacity) :
    ∃ b', b.putFixed bytes = (.success, b') ∧ b'.Holds b.type bytes := by
  obtain ⟨length, hlength⟩ := Option.isSome_iff_exists.mp hcell
  obtain ⟨slot, hslot, hcapacity⟩ := exists_slot (Nat.lt_of_lt_of_le hpos hroom)
  refine ⟨_, putFixed_of_room hslot (hcapacity ▸ hroom), rfl, ?_, slot.drop bytes.length, rfl⟩
  rw [hlength, Option.map_some]

/-- With room for all of them, bytes are written as a value of fixed width is. -/
theorem putRaw_eq (hroom : bytes.length ≤ b.capacity) : b.putRaw bytes = b.putFixed bytes := by
  unfold putRaw putFixed
  unfold capacity at hroom
  cases hslot : b.slot with
  | none => rfl
  | some slot =>
    rw [hslot, Option.getD_some] at hroom
    simp only [if_pos hroom, if_neg (Nat.not_lt.mpr hroom)]

theorem length_flatten_of_width {width : Nat} {units : List Bytes}
    (h : ∀ u ∈ units, u.length = width) : units.flatten.length = width * units.length := by
  induction units with
  | nil => rfl
  | cons u units ih =>
    rw [List.flatten_cons, List.length_append, h u (.head _), ih (fun u hu => h u (.tail _ hu)),
      List.length_cons, Nat.mul_succ, Nat.add_comm]

theorem take_flatten_of_width {width : Nat} {units : List Bytes}
    (h : ∀ u ∈ units, u.length = width) (count : Nat) :
    (units.take count).flatten = units.flatten.take (width * count) := by
  induction units generalizing count with
  | nil => rw [List.take_nil, List.flatten_nil, List.take_nil]
  | cons u units ih =>
    cases count with
    | zero => rfl
    | succ count =>
      have hu := h u (.head _)
      rw [List.take_succ_cons, List.flatten_cons, ih (fun u hu => h u (.tail _ hu)),
        List.flatten_cons, Nat.mul_succ, Nat.add_comm, ← hu, List.take_length_add_append]

/-- Units are written whole when there is room for them and for the zero unit. -/
theorem putTerminated_of_room {width : Nat} {units : List Bytes} {slot : Bytes}
    (hslot : b.slot = some slot) (hwidth : 0 < width) (hunits : ∀ u ∈ units, u.length = width)
    (hroom : width * (units.length + 1) ≤ slot.length) :
    ∃ rest, b.putTerminated width units = (.success, { b with
      slot := some (units.flatten ++ (List.replicate width 0 ++ rest))
      length := b.length.map fun _ => (units.flatten.length : Int) }) := by
  have hlength := length_flatten_of_width hunits
  have hwritten : (units.flatten ++ List.replicate width (0 : UInt8)).length ≤ slot.length := by
    rwa [List.length_append, hlength, List.length_replicate, ← Nat.mul_succ]
  have hunit : units.length + 1 ≤ slot.length / width := by
    rwa [Nat.le_div_iff_mul_le hwidth, Nat.mul_comm]
  have htake : units.take (slot.length / width - 1) = units := List.take_of_length_le (by omega)
  refine ⟨slot.drop (units.flatten ++ List.replicate width (0 : UInt8)).length, ?_⟩
  unfold putTerminated
  rw [hslot]
  simp only [htake, List.flatten_append, List.flatten_singleton, ← hlength]
  rw [if_pos (by omega), if_neg (by omega)]
  simp only [withBytes, withLength, hslot, Option.map_some, Bytes.overwrite_of_le hwritten,
    List.append_assoc]

/-! ### Reading -/

theorem fixed?_of_slot {rest : Bytes} (hslot : b.slot = some (bytes ++ rest)) :
    b.fixed? bytes.length = some bytes := by
  rw [fixed?, hslot, Option.getD_some, Bytes.splitFirst?_append]
  rfl

namespace Holds

theorem isNull_eq (h : b.Holds type bytes) : b.isNull = false := by
  have hne : (bytes.length : Int) ≠ nullLength := by
    unfold nullLength
    omega
  rw [isNull, h.length_eq]
  simpa using hne

theorem boundedBytes_eq (h : b.Holds type bytes) : b.boundedBytes = bytes := by
  obtain ⟨rest, hslot⟩ := h.slot_eq
  rw [boundedBytes, hslot, h.length_eq]
  simp

theorem fixed?_eq (h : b.Holds type bytes) : b.fixed? bytes.length = some bytes := by
  obtain ⟨rest, hslot⟩ := h.slot_eq
  exact fixed?_of_slot hslot

end Holds

theorem untilZero_append (h : 0 ∉ bytes) (rest : Bytes) :
    untilZero (bytes ++ rest) = bytes ++ untilZero rest := by
  apply List.takeWhile_append_of_pos
  intro byte hbyte
  simpa using fun hzero : byte = 0 => h (hzero ▸ hbyte)

theorem untilZeroUnit_append {units : List UInt16} (h : 0 ∉ units) (rest : Bytes) :
    untilZeroUnit (Utf16.toBytes units ++ rest) = Utf16.toBytes units ++ untilZeroUnit rest := by
  induction units with
  | nil => rfl
  | cons u units ih =>
    obtain ⟨hne, hrest⟩ := List.ne_and_not_mem_of_not_mem_cons h
    have hu := u.toNat_lt
    have hunit : ¬(UInt8.ofNat u.toNat = 0 ∧ UInt8.ofNat (u.toNat / 256) = 0) := by
      intro ⟨hlow, hhigh⟩
      apply hne
      rw [← UInt8.toNat_inj, UInt8.toNat_ofNat'] at hlow hhigh
      rw [← UInt16.toNat_inj]
      simp only [UInt8.reduceToNat, UInt16.reduceToNat] at *
      omega
    show untilZeroUnit (UInt8.ofNat u.toNat :: UInt8.ofNat (u.toNat / 256) ::
        (Utf16.toBytes units ++ rest)) =
      UInt8.ofNat u.toNat :: UInt8.ofNat (u.toNat / 256) ::
        (Utf16.toBytes units ++ untilZeroUnit rest)
    rw [untilZeroUnit, if_neg hunit, ih hrest]

/-! ### Texts -/

/-- A buffer of a text type that shows a text. -/
structure Shows (b : DataBuffer) (text : String) : Prop where
  isText : b.type = .char ∨ b.type = .wideChar
  isNull_eq : b.isNull = false
  textChars_eq : b.textChars = text.toList

/-- A text in bytes is written in units of one byte. -/
theorem byteUnits (bytes : Bytes) :
    (bytes.map ([·])).flatten = bytes ∧ ∀ u ∈ bytes.map ([·]), u.length = 1 := by
  refine ⟨List.flatMap_singleton' bytes, fun u hu => ?_⟩
  obtain ⟨byte, _, rfl⟩ := List.mem_map.mp hu
  rfl

/-- A text in UTF-16 is written in units of two bytes. -/
theorem wideUnits (units : List UInt16) :
    (units.map fun unit => LittleEndian.encode 2 unit.toNat).flatten = Utf16.toBytes units ∧
      ∀ u ∈ units.map fun unit => LittleEndian.encode 2 unit.toNat, u.length = 2 := by
  refine ⟨rfl, fun u hu => ?_⟩
  obtain ⟨unit, _, rfl⟩ := List.mem_map.mp hu
  exact LittleEndian.length_encode 2 _

theorem valueBytes_of_text (htext : b.type = .char ∨ b.type = .wideChar) :
    b.valueBytes = b.type.beforeZero b.boundedBytes := by
  unfold valueBytes
  rcases htext with htype | htype <;> rw [htype] <;> rfl

/-- A text without a zero character stands in front of the first zero unit. -/
theorem beforeZero_spelling (type : BindingType) {text : String} (h : Char.ofNat 0 ∉ text.toList)
    (rest : Bytes) :
    type.beforeZero (type.spelling text ++ rest) = type.spelling text ++ type.beforeZero rest := by
  cases type with
  | wideChar => exact untilZeroUnit_append (Utf16.zero_not_mem_encode h) rest
  | _ => exact untilZero_append (Utf8.zero_not_mem_encode h) rest

theorem beforeZero_terminator {type : BindingType} (htext : type = .char ∨ type = .wideChar)
    (rest : Bytes) : type.beforeZero (type.terminator ++ rest) = [] := by
  rcases htext with rfl | rfl <;> rfl

theorem textChars_of_spelling {text : String} (h : b.valueBytes = b.type.spelling text) :
    b.textChars = text.toList := by
  unfold textChars
  rw [h]
  cases b.type with
  | wideChar =>
    show Utf16.decodeLossy (Utf16.ofBytes (Utf16.toBytes (Utf16.encode text))) = text.toList
    rw [Utf16.ofBytes_toBytes, Utf16.decodeLossy_encode]
  | _ => exact Utf8.decodeLossy_encode text

/-- A text with a zero unit behind it is shown, whether or not a length bounds it. -/
theorem shows_of_slot {text : String} (rest : Bytes) (htext : b.type = .char ∨ b.type = .wideChar)
    (hzero : Char.ofNat 0 ∉ text.toList)
    (hslot : b.slot = some (b.type.spelling text ++ (b.type.terminator ++ rest)))
    (hlength : ∀ length, b.length = some length → length = (b.type.spelling text).length) :
    b.Shows text := by
  have hvalue : b.valueBytes = b.type.spelling text := by
    rw [valueBytes_of_text htext, boundedBytes, hslot, Option.getD_some]
    cases hcell : b.length with
    | none =>
      show b.type.beforeZero _ = _
      rw [beforeZero_spelling _ hzero, beforeZero_terminator htext, List.append_nil]
    | some length =>
      rw [hlength length hcell]
      simp only [Int.natCast_nonneg, if_true, Int.toNat_natCast, List.take_left]
      rw [← List.append_nil (b.type.spelling text), beforeZero_spelling _ hzero]
      rcases htext with htype | htype <;> rw [htype] <;> rfl
  refine ⟨htext, ?_, textChars_of_spelling hvalue⟩
  unfold isNull nullLength
  cases hcell : b.length with
  | none => rfl
  | some length =>
    have hne := hlength length hcell
    simp only [Option.some_beq_some, beq_eq_false_iff_ne]
    omega

/-- A text that goes in whole units into a buffer of its type is shown. -/
theorem putTerminated_shows {text : String} {units : List Bytes}
    (htext : b.type = .char ∨ b.type = .wideChar)
    (hspelled : units.flatten = b.type.spelling text ∧ ∀ u ∈ units, u.length = b.type.unit)
    (hroom : b.type.unit * (units.length + 1) ≤ b.capacity) (hzero : Char.ofNat 0 ∉ text.toList) :
    ∃ b', b.putTerminated b.type.unit units = (.success, b') ∧ b'.Shows text := by
  obtain ⟨hflatten, hunits⟩ := hspelled
  have hunit : 0 < b.type.unit := by rcases htext with htype | htype <;> rw [htype] <;> decide
  obtain ⟨slot, hslot, hcapacity⟩ :=
    exists_slot (Nat.lt_of_lt_of_le (Nat.mul_pos hunit (Nat.succ_pos _)) hroom)
  obtain ⟨rest, hput⟩ := putTerminated_of_room hslot hunit hunits (hcapacity ▸ hroom)
  rw [hflatten] at hput
  refine ⟨_, hput, shows_of_slot rest htext hzero rfl ?_⟩
  intro length hlength
  obtain ⟨_, _, rfl⟩ := Option.map_eq_some_iff.mp hlength
  rfl

theorem putText_shows {text : String} (htype : b.type = .char)
    (hroom : (Utf8.encode text).length + 1 ≤ b.capacity) (hzero : Char.ofNat 0 ∉ text.toList) :
    ∃ b', b.putText text = (.success, b') ∧ b'.Shows text := by
  have hspelled := byteUnits (Utf8.encode text)
  have hshows : ∃ b', b.putTerminated b.type.unit ((Utf8.encode text).map ([·])) = (.success, b') ∧
      b'.Shows text := by
    apply putTerminated_shows (.inl htype) _ _ hzero
    · rwa [htype]
    · rwa [htype, List.length_map, BindingType.unit, Nat.one_mul]
  rwa [htype] at hshows

theorem putWideText_shows {text : String} (htype : b.type = .wideChar)
    (hroom : 2 * (Utf16.encode text).length + 2 ≤ b.capacity) (hzero : Char.ofNat 0 ∉ text.toList) :
    ∃ b', b.putWideText text = (.success, b') ∧ b'.Shows text := by
  have hspelled := wideUnits (Utf16.encode text)
  have hshows : ∃ b', b.putTerminated b.type.unit
      ((Utf16.encode text).map fun unit => LittleEndian.encode 2 unit.toNat) = (.success, b') ∧
      b'.Shows text := by
    apply putTerminated_shows (.inr htype) _ _ hzero
    · rwa [htype]
    · rwa [htype, List.length_map, BindingType.unit, Nat.mul_succ]
  rwa [htype] at hshows

end DataBuffer

end GridClient
