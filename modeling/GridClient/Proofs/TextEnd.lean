import Mathlib.Data.List.Induction
import Mathlib.Data.List.TakeWhile
import GridClient.Proofs.BufferRoundTrip

/-!
Where the text in a caller's buffer ends. A length in the cell bounds it, and so does its first zero
unit, whichever comes first: a length is no leave to hold zero characters.
-/
namespace GridClient

/-- The characters before the first zero character. -/
def Text.untilZero (text : String) : String :=
  String.ofList (text.toList.takeWhile (· != Char.ofNat 0))

theorem Text.zero_not_mem_untilZero (text : String) :
    Char.ofNat 0 ∉ (untilZero text).toList := by
  rw [untilZero, String.toList_ofList]
  intro hmem
  have hne := List.mem_takeWhile_imp hmem
  simp only [bne_self_eq_false, Bool.false_eq_true] at hne

theorem Text.untilZero_of_not_mem {text : String} (h : Char.ofNat 0 ∉ text.toList) :
    untilZero text = text := by
  have hall : ∀ c ∈ text.toList, (c != Char.ofNat 0) = true := by
    intro c hc
    rw [bne_iff_ne]
    rintro rfl
    exact h hc
  rw [untilZero, List.takeWhile_eq_self_iff.mpr hall, String.ofList_toList]

/-- A text with a zero character goes on behind its first one. -/
theorem Text.exists_eq_untilZero_append {text : String} (h : Char.ofNat 0 ∈ text.toList) :
    ∃ tail, text = untilZero text ++ String.ofList (Char.ofNat 0 :: tail) := by
  let p : Char → Bool := fun c => c != Char.ofNat 0
  have hsplit : text.toList.takeWhile p ++ text.toList.dropWhile p = text.toList :=
    List.takeWhile_append_dropWhile
  cases hrest : text.toList.dropWhile p with
  | nil =>
    rw [List.dropWhile_eq_nil_iff] at hrest
    exact absurd (hrest _ h) (by simp [p])
  | cons c tail =>
    have hhead : p c = false := by
      have hnot := List.head_dropWhile_not p (l := text.toList) (by simp [hrest])
      simpa only [hrest, List.head_cons] using hnot
    obtain rfl : c = Char.ofNat 0 := by simpa [p] using hhead
    refine ⟨tail, ?_⟩
    rw [← String.toList_inj, String.toList_append, untilZero, String.toList_ofList,
      String.toList_ofList, ← hrest]
    exact hsplit.symm

namespace BindingType

variable {type : BindingType}

/-- The bytes two by two. An odd byte at the end is left out. -/
def bytePairs : Bytes → List Bytes
  | low :: high :: rest => [low, high] :: bytePairs rest
  | _ => []

/-- The whole units of text in a run of bytes, in a type of texts. -/
def wholeUnits (type : BindingType) (bytes : Bytes) : List Bytes :=
  match type with
  | wideChar => bytePairs bytes
  | _ => bytes.map ([·])

/-! ### Units and characters -/

theorem untilZeroUnit_eq (bytes : Bytes) :
    DataBuffer.untilZeroUnit bytes =
      ((bytePairs bytes).takeWhile (· != [0, 0])).flatten := by
  induction bytes using List.twoStepInduction with
  | nil => rfl
  | singleton byte => rfl
  | cons_cons low high rest ih _ =>
    by_cases hzero : low = 0 ∧ high = 0
    · obtain ⟨rfl, rfl⟩ := hzero
      rfl
    · have hunit : ([low, high] != [0, 0]) = true := by
        rw [bne_iff_ne]
        rintro ⟨⟩
        exact hzero ⟨rfl, rfl⟩
      rw [DataBuffer.untilZeroUnit, if_neg hzero, ih, bytePairs,
        List.takeWhile_cons_of_pos (p := (· != [0, 0])) hunit]
      rfl

/-- What stands before the first zero unit is the whole units before it, or all of them. -/
theorem beforeZero_eq (htext : type = char ∨ type = wideChar) (bytes : Bytes) :
    type.beforeZero bytes =
      ((type.wholeUnits bytes).takeWhile (· != type.terminator)).flatten := by
  rcases htext with rfl | rfl
  · show bytes.takeWhile (· != 0) = ((bytes.map ([·])).takeWhile (· != [0])).flatten
    rw [List.takeWhile_map, (DataBuffer.byteUnits _).1]
    congr 1
    funext byte
    simp [bne, Function.comp]
  · exact untilZeroUnit_eq bytes

theorem spelling_append (type : BindingType) (text text' : String) :
    type.spelling (text ++ text') = type.spelling text ++ type.spelling text' := by
  cases type with
  | wideChar =>
    show Utf16.toBytes (Utf16.encode (text ++ text')) =
      Utf16.toBytes (Utf16.encode text) ++ Utf16.toBytes (Utf16.encode text')
    simp only [Utf16.encode, Utf16.toBytes, String.toList_append, List.flatMap_append]
  | _ =>
    show Utf8.encode (text ++ text') = Utf8.encode text ++ Utf8.encode text'
    simp only [Utf8.encode_eq, String.toList_append, List.flatMap_append]

/-- The zero character is spelled as the unit that ends a text. -/
theorem spelling_zero (htext : type = char ∨ type = wideChar) (tail : List Char) :
    ∃ rest, type.spelling (String.ofList (Char.ofNat 0 :: tail)) = type.terminator ++ rest := by
  rcases htext with rfl | rfl
  · refine ⟨tail.flatMap String.utf8EncodeChar, ?_⟩
    show Utf8.encode _ = _
    rw [Utf8.encode_eq, String.toList_ofList, List.flatMap_cons]
    rfl
  · refine ⟨Utf16.toBytes (tail.flatMap Utf16.encodeChar), ?_⟩
    show Utf16.toBytes (Utf16.encode _) = _
    rw [Utf16.encode, String.toList_ofList, List.flatMap_cons]
    rfl

/-- Of a text in a buffer, the characters before its first zero character are left. -/
theorem beforeZero_spelled (htext : type = char ∨ type = wideChar) (text : String) :
    type.beforeZero (type.spelling text) = type.spelling (Text.untilZero text) := by
  by_cases hmem : Char.ofNat 0 ∈ text.toList
  · obtain ⟨tail, heq⟩ := Text.exists_eq_untilZero_append hmem
    obtain ⟨rest, hzero⟩ := spelling_zero htext tail
    have hhead := DataBuffer.beforeZero_spelling type (Text.zero_not_mem_untilZero text)
      (type.terminator ++ rest)
    rw [← hzero, ← spelling_append, ← heq, hzero, DataBuffer.beforeZero_terminator htext,
      List.append_nil] at hhead
    exact hhead
  · have hwhole := DataBuffer.beforeZero_spelling type hmem []
    have hnil : type.beforeZero [] = [] := by rcases htext with rfl | rfl <;> rfl
    rw [hnil, List.append_nil] at hwhole
    rw [hwhole, Text.untilZero_of_not_mem hmem]

end BindingType

namespace DataBuffer

variable {b : DataBuffer} {slot : Bytes} {text : String}

/-- A buffer whose text is this one, however it is read. -/
structure ReadsAs (b : DataBuffer) (text : String) : Prop where
  string : b.getString = text
  bytes : b.getBytes = Utf8.encode text
  parameter : b.isNull = false → Parameter.wireValue ⟨b, .varchar⟩ = .ok (.string text)

theorem readsAs_of_spelling (htext : b.type = .char ∨ b.type = .wideChar)
    (h : b.valueBytes = b.type.spelling text) : b.ReadsAs text := by
  have hstring : b.getString = text := by
    rw [getString, getChars_of_text htext, textChars_of_spelling h, String.ofList_toList]
  refine ⟨hstring, ?_, ?_⟩
  · unfold getBytes
    rcases htext with htype | htype <;> rw [htype, hstring]
  · intro hnull
    rw [wireValue_varchar hnull, hstring]

/-- A text that a length bounds ends at that length, or at a zero character before it. -/
theorem valueBytes_of_length (htext : b.type = .char ∨ b.type = .wideChar)
    (hslot : b.slot = some slot) {n : Nat} (hlength : b.length = some (n : Int))
    (hspelled : slot.take n = b.type.spelling text) :
    b.valueBytes = b.type.spelling (Text.untilZero text) := by
  rw [valueBytes_of_text htext, boundedBytes, hslot, hlength]
  simp only [Option.getD_some, Int.natCast_nonneg, if_true, Int.toNat_natCast, hspelled]
  exact BindingType.beforeZero_spelled htext text

/-- Without a length, what the slot holds ends at its first zero unit. -/
theorem valueBytes_of_no_length (htext : b.type = .char ∨ b.type = .wideChar)
    (hslot : b.slot = some slot) (hlength : ∀ length, b.length = some length → length < 0) :
    b.valueBytes = b.type.beforeZero slot := by
  rw [valueBytes_of_text htext, boundedBytes, hslot]
  cases hcell : b.length with
  | none => rfl
  | some length =>
    have hneg := hlength length hcell
    simp only [Option.getD_some]
    rw [if_neg (by omega)]

/-- Where the length cell holds a length, the text is that of the bytes before it, up to the first
zero character. Where it holds none, it is that of the whole units before the first zero unit. -/
theorem text_ends_at_length_or_zero (htext : b.type = .char ∨ b.type = .wideChar)
    (hslot : b.slot = some slot) :
    (∀ (n : Nat) (text : String), b.length = some (n : Int) →
      slot.take n = b.type.spelling text →
        b.isNull = false ∧ b.ReadsAs (Text.untilZero text) ∧
        (b.ReadsAs text ↔ Char.ofNat 0 ∉ text.toList)) ∧
    ((∀ length, b.length = some length → length < 0) →
      b.valueBytes = ((b.type.wholeUnits slot).takeWhile (· != b.type.terminator)).flatten ∧
      ∀ text, b.valueBytes = b.type.spelling text → b.ReadsAs text) := by
  refine ⟨?_, ?_⟩
  · intro n text hlength hspelled
    have hvalue := valueBytes_of_length htext hslot hlength hspelled
    have hreads := readsAs_of_spelling htext hvalue
    refine ⟨?_, hreads, ?_, ?_⟩
    · rw [isNull, hlength]
      rfl
    · intro hwhole
      rw [← hwhole.string, hreads.string]
      exact Text.zero_not_mem_untilZero text
    · intro hmem
      rwa [Text.untilZero_of_not_mem hmem] at hreads
  · intro hlength
    rw [valueBytes_of_no_length htext hslot hlength, BindingType.beforeZero_eq htext]
    refine ⟨rfl, fun text hspelled => readsAs_of_spelling htext ?_⟩
    rw [valueBytes_of_no_length htext hslot hlength, BindingType.beforeZero_eq htext, hspelled]

/-- A length in front of the zero unit, and no length in front of an odd byte. -/
theorem text_ends_at_length_or_zero_wide :
    DataBuffer.ReadsAs ⟨.wideChar, some [0x61, 0, 0x62, 0, 0, 0, 9], some 4⟩ "ab" ∧
    DataBuffer.ReadsAs ⟨.wideChar, some [0x61, 0, 0x62, 0, 9], none⟩ "ab" := by
  obtain ⟨hbounded, -⟩ := text_ends_at_length_or_zero
    (b := ⟨.wideChar, some [0x61, 0, 0x62, 0, 0, 0, 9], some 4⟩) (.inr rfl) rfl
  obtain ⟨-, hopen⟩ := text_ends_at_length_or_zero
    (b := ⟨.wideChar, some [0x61, 0, 0x62, 0, 9], none⟩) (.inr rfl) rfl
  obtain ⟨-, -, hwhole⟩ := hbounded 4 "ab" rfl (by decide)
  obtain ⟨-, hspelled⟩ := hopen (fun _ h => by cases h)
  exact ⟨hwhole.mpr (by decide), hspelled "ab" (by decide)⟩

/-- A length does not keep the zero among the three bytes that it bounds. -/
theorem bounded_text_loses_zero :
    ¬ ∀ (b : DataBuffer) (slot : Bytes) (n : Nat) (text : String), b.type = .char →
      b.slot = some slot → b.length = some (n : Int) → n < slot.length →
        slot.take n = Utf8.encode text → b.ReadsAs text := by
  intro hall
  have hwhole : DataBuffer.ReadsAs ⟨.char, some [0x61, 0, 0x62, 0], some 3⟩ "a\x00b" :=
    hall _ _ 3 "a\x00b" rfl rfl rfl (by decide) (by decide)
  have hcut : DataBuffer.ReadsAs ⟨.char, some [0x61, 0, 0x62, 0], some 3⟩ "a" :=
    readsAs_of_spelling (.inl rfl) (by decide)
  exact absurd (hcut.string.symm.trans hwhole.string) (by decide)

end DataBuffer

end GridClient
