import GridClient.Text.Utf16

/-!
Texts read back from their own bytes and units. The readers that take anything at all give back
exactly the characters that were written.
-/
namespace GridClient

namespace Utf8

/-! ### Leads -/

theorem continuation_cons {more code : Nat} {b : UInt8} {bytes : Bytes} (hlow : 0x80 ≤ b.toNat)
    (hhigh : b.toNat < 0xC0) :
    continuation (more + 1) code (b :: bytes) =
      continuation more (64 * code + (b.toNat - 0x80)) bytes := by
  have hrange : 0x80 ≤ b ∧ b ≤ 0xBF := by
    simp only [UInt8.le_iff_toNat_le, UInt8.reduceToNat]
    omega
  rw [continuation, if_pos hrange]

theorem lead?_of_two {b : UInt8} (hlow : 0xC2 ≤ b.toNat) (hhigh : b.toNat < 0xE0) :
    lead? b = some ⟨b.toNat - 0xC0, 0x80, 0xBF, 0⟩ := by
  have hrange : 0xC2 ≤ b ∧ b ≤ 0xDF := by
    simp only [UInt8.le_iff_toNat_le, UInt8.reduceToNat]
    omega
  rw [lead?, if_pos hrange]

/-- The byte after the first of three is bounded by what begins in neither two bytes nor a half of
a pair. -/
theorem lead?_of_three {b : UInt8} (hlow : 0xE0 ≤ b.toNat) (hhigh : b.toNat < 0xF0) :
    lead? b = some ⟨b.toNat - 0xE0, if b.toNat = 0xE0 then 0xA0 else 0x80,
      if b.toNat = 0xED then 0x9F else 0xBF, 1⟩ := by
  simp only [lead?, UInt8.le_iff_toNat_le, ← UInt8.toNat_inj, UInt8.reduceToNat]
  grind

theorem lead?_of_four {b : UInt8} (hlow : 0xF0 ≤ b.toNat) (hhigh : b.toNat < 0xF5) :
    lead? b = some ⟨b.toNat - 0xF0, if b.toNat = 0xF0 then 0x90 else 0x80,
      if b.toNat = 0xF4 then 0x8F else 0xBF, 2⟩ := by
  simp only [lead?, UInt8.le_iff_toNat_le, ← UInt8.toNat_inj, UInt8.reduceToNat]
  grind

theorem decodeLossy_of_lead {b : UInt8} {bytes rest : Bytes} {lead : Lead} {n : Nat}
    (hb : 0x80 ≤ b.toNat) (hlead : lead? b = some lead)
    (hs : sequence lead bytes = (some n, rest)) :
    decodeLossy (b :: bytes) = Char.ofNat n :: decodeLossy rest := by
  have hmulti : ¬ b < 0x80 := by
    simp only [UInt8.lt_iff_toNat_lt, UInt8.reduceToNat]
    omega
  rw [decodeLossy, if_neg hmulti]
  simp only [hlead, hs]
  rfl

theorem sequence_cons {lead : Lead} {b : UInt8} {bytes : Bytes}
    (hlow : lead.low.toNat ≤ b.toNat) (hhigh : b.toNat ≤ lead.high.toNat) :
    sequence lead (b :: bytes) =
      continuation lead.more (64 * lead.bits + (b.toNat - 0x80)) bytes := by
  have hrange : lead.low ≤ b ∧ b ≤ lead.high := ⟨hlow, hhigh⟩
  rw [sequence, if_pos hrange]

/-! ### Characters of several bytes -/

section

variable {n : Nat} {b b₁ b₂ b₃ : UInt8} (rest : Bytes)

theorem decodeLossy_two (hlow : 0x80 ≤ n) (hhigh : n < 0x800) (hb : b.toNat = n / 64 + 0xC0)
    (hb₁ : b₁.toNat = n % 64 + 0x80) :
    decodeLossy (b :: b₁ :: rest) = Char.ofNat n :: decodeLossy rest := by
  have hlead := lead?_of_two (b := b) (by omega) (by omega)
  refine decodeLossy_of_lead (by omega) hlead ?_
  rw [sequence_cons, continuation]
  · have hcode : 64 * (b.toNat - 0xC0) + (b₁.toNat - 0x80) = n := by omega
    rw [hcode]
  · show 0x80 ≤ b₁.toNat
    omega
  · show b₁.toNat ≤ 0xBF
    omega

theorem decodeLossy_three (hlow : 0x800 ≤ n) (hhigh : n < 0x10000)
    (hhalf : n < 0xD800 ∨ 0xDFFF < n) (hb : b.toNat = n / 4096 + 0xE0)
    (hb₁ : b₁.toNat = n / 64 % 64 + 0x80) (hb₂ : b₂.toNat = n % 64 + 0x80) :
    decodeLossy (b :: b₁ :: b₂ :: rest) = Char.ofNat n :: decodeLossy rest := by
  have hlead := lead?_of_three (b := b) (by omega) (by omega)
  refine decodeLossy_of_lead (by omega) hlead ?_
  rw [sequence_cons, continuation_cons (by omega) (by omega), continuation]
  · have hcode : 64 * (64 * (b.toNat - 0xE0) + (b₁.toNat - 0x80)) + (b₂.toNat - 0x80) = n := by
      omega
    rw [hcode]
  · show (if b.toNat = 0xE0 then (0xA0 : UInt8) else 0x80).toNat ≤ _
    split <;> (simp only [UInt8.reduceToNat]; omega)
  · show _ ≤ (if b.toNat = 0xED then (0x9F : UInt8) else 0xBF).toNat
    split <;> (simp only [UInt8.reduceToNat]; omega)

theorem decodeLossy_four (hlow : 0x10000 ≤ n) (hhigh : n < 0x110000)
    (hb : b.toNat = n / 262144 + 0xF0) (hb₁ : b₁.toNat = n / 4096 % 64 + 0x80)
    (hb₂ : b₂.toNat = n / 64 % 64 + 0x80) (hb₃ : b₃.toNat = n % 64 + 0x80) :
    decodeLossy (b :: b₁ :: b₂ :: b₃ :: rest) = Char.ofNat n :: decodeLossy rest := by
  have hlead := lead?_of_four (b := b) (by omega) (by omega)
  refine decodeLossy_of_lead (by omega) hlead ?_
  rw [sequence_cons, continuation_cons (by omega) (by omega),
    continuation_cons (by omega) (by omega), continuation]
  · have hcode : 64 * (64 * (64 * (b.toNat - 0xF0) + (b₁.toNat - 0x80)) + (b₂.toNat - 0x80)) +
        (b₃.toNat - 0x80) = n := by
      omega
    rw [hcode]
  · show (if b.toNat = 0xF0 then (0x90 : UInt8) else 0x80).toNat ≤ _
    split <;> (simp only [UInt8.reduceToNat]; omega)
  · show _ ≤ (if b.toNat = 0xF4 then (0x8F : UInt8) else 0xBF).toNat
    split <;> (simp only [UInt8.reduceToNat]; omega)

end

/-! ### Texts -/

theorem encode_eq (text : String) : encode text = text.toList.flatMap String.utf8EncodeChar := by
  show text.toByteArray.data.toList = _
  rw [← String.utf8Encode_toList, List.utf8Encode, List.toList_data_toByteArray]

theorem toNat_byte {n : Nat} (h : n < 256) : (UInt8.ofNat n).toNat = n :=
  UInt8.toNat_ofNat_of_lt' h

theorem decodeLossy_encodeChar (c : Char) (rest : Bytes) :
    decodeLossy (String.utf8EncodeChar c ++ rest) = c :: decodeLossy rest := by
  obtain ⟨n, hn⟩ : ∃ n, c.val.toNat = n := ⟨_, rfl⟩
  have hc : Char.ofNat n = c := by rw [← hn]; exact Char.ofNat_toNat c
  have hvalid : n < 0xD800 ∨ 0xDFFF < n ∧ n < 0x110000 := hn ▸ c.valid
  simp only [String.utf8EncodeChar, hn]
  -- the code point decides on one, two, three or four bytes
  by_cases h1 : n ≤ 0x7F
  · have hb := toNat_byte (show n < 256 by omega)
    have hone : UInt8.ofNat n < 0x80 := by
      simp only [UInt8.lt_iff_toNat_lt, UInt8.reduceToNat]
      omega
    rw [if_pos h1, List.singleton_append, decodeLossy, if_pos hone, hb, hc]
  rw [if_neg h1]
  by_cases h2 : n ≤ 0x7FF
  · rw [if_pos h2, ← hc]
    apply decodeLossy_two rest (by omega) (by omega)
    · rw [toNat_byte (by omega)]
      omega
    · exact toNat_byte (by omega)
  rw [if_neg h2]
  by_cases h3 : n ≤ 0xFFFF
  · rw [if_pos h3, ← hc]
    apply decodeLossy_three rest (by omega) (by omega) (by omega)
    · rw [toNat_byte (by omega)]
      omega
    · exact toNat_byte (by omega)
    · exact toNat_byte (by omega)
  · rw [if_neg h3, ← hc]
    apply decodeLossy_four rest (by omega) (by omega)
    · rw [toNat_byte (by omega)]
      omega
    · exact toNat_byte (by omega)
    · exact toNat_byte (by omega)
    · exact toNat_byte (by omega)

theorem decodeLossy_encode (text : String) : decodeLossy (encode text) = text.toList := by
  rw [encode_eq]
  induction text.toList with
  | nil => rw [List.flatMap_nil, decodeLossy]
  | cons c cs ih => rw [List.flatMap_cons, decodeLossy_encodeChar, ih]

/-- Only the zero character has a byte that is zero. -/
theorem zero_not_mem_encodeChar {c : Char} (h : c ≠ Char.ofNat 0) :
    0 ∉ String.utf8EncodeChar c := by
  obtain ⟨n, hn⟩ : ∃ n, c.val.toNat = n := ⟨_, rfl⟩
  have hpos : n ≠ 0 := by
    intro hzero
    apply h
    rw [← Char.ofNat_toNat c]
    exact congrArg Char.ofNat (hn.trans hzero)
  have hbyte {m : Nat} (hm : m ≠ 0) (hlt : m < 256) : (0 : UInt8) ≠ UInt8.ofNat m := by
    rw [ne_eq, ← UInt8.toNat_inj, toNat_byte hlt]
    exact Ne.symm hm
  simp only [String.utf8EncodeChar, hn]
  split
  · simpa using hbyte hpos (by omega)
  · split
    · simp only [List.mem_cons, List.not_mem_nil, or_false, not_or]
      exact ⟨hbyte (by omega) (by omega), hbyte (by omega) (by omega)⟩
    · split
      · simp only [List.mem_cons, List.not_mem_nil, or_false, not_or]
        exact ⟨hbyte (by omega) (by omega), hbyte (by omega) (by omega),
          hbyte (by omega) (by omega)⟩
      · simp only [List.mem_cons, List.not_mem_nil, or_false, not_or]
        exact ⟨hbyte (by omega) (by omega), hbyte (by omega) (by omega),
          hbyte (by omega) (by omega), hbyte (by omega) (by omega)⟩

theorem zero_not_mem_encode {text : String} (h : Char.ofNat 0 ∉ text.toList) :
    0 ∉ encode text := by
  rw [encode_eq]
  intro hmem
  obtain ⟨c, hc, hzero⟩ := List.mem_flatMap.mp hmem
  exact zero_not_mem_encodeChar (fun heq => h (heq ▸ hc)) hzero

end Utf8

namespace Utf16

theorem decodeLossy_unit {u : UInt16} (hhigh : isHigh u = false) (hlow : isLow u = false)
    (rest : List UInt16) : decodeLossy (u :: rest) = Char.ofNat u.toNat :: decodeLossy rest := by
  cases rest with
  | nil => simp [decodeLossy, hhigh, hlow]
  | cons v rest => simp [decodeLossy, hhigh, hlow]

theorem decodeLossy_pair {u v : UInt16} (hhigh : isHigh u = true) (hlow : isLow v = true)
    (rest : List UInt16) : decodeLossy (u :: v :: rest) = pair u v :: decodeLossy rest := by
  simp [decodeLossy, hhigh, hlow]

theorem toNat_unit {n : Nat} (h : n < 0x10000) : (UInt16.ofNat n).toNat = n :=
  UInt16.toNat_ofNat_of_lt' h

theorem isHigh_iff {u : UInt16} : isHigh u = true ↔ 0xD800 ≤ u.toNat ∧ u.toNat ≤ 0xDBFF := by
  simp [isHigh, UInt16.le_iff_toNat_le]

theorem isLow_iff {u : UInt16} : isLow u = true ↔ 0xDC00 ≤ u.toNat ∧ u.toNat ≤ 0xDFFF := by
  simp [isLow, UInt16.le_iff_toNat_le]

theorem decodeLossy_encodeChar (c : Char) (rest : List UInt16) :
    decodeLossy (encodeChar c ++ rest) = c :: decodeLossy rest := by
  obtain ⟨n, hn⟩ : ∃ n, c.toNat = n := ⟨_, rfl⟩
  have hc : Char.ofNat n = c := by rw [← hn]; exact Char.ofNat_toNat c
  have hvalid : n < 0xD800 ∨ 0xDFFF < n ∧ n < 0x110000 := hn ▸ c.valid
  simp only [encodeChar, hn]
  by_cases hone : n < 0x10000
  · have hunit := toNat_unit hone
    rw [if_pos hone, List.singleton_append, decodeLossy_unit, hunit, hc]
    · rw [← Bool.not_eq_true, isHigh_iff, hunit]
      omega
    · rw [← Bool.not_eq_true, isLow_iff, hunit]
      omega
  · have hhigh := toNat_unit (show 0xD800 + (n - 0x10000) / 0x400 < 0x10000 by omega)
    have hlow := toNat_unit (show 0xDC00 + (n - 0x10000) % 0x400 < 0x10000 by omega)
    rw [if_neg hone, List.cons_append, List.singleton_append, decodeLossy_pair, pair, hhigh, hlow]
    · have hcode : 0x10000 + (0xD800 + (n - 0x10000) / 0x400 - 0xD800) * 0x400 +
          (0xDC00 + (n - 0x10000) % 0x400 - 0xDC00) = n := by
        omega
      rw [hcode, hc]
    · rw [isHigh_iff, hhigh]
      omega
    · rw [isLow_iff, hlow]
      omega

theorem decodeLossy_encode (text : String) : decodeLossy (encode text) = text.toList := by
  rw [encode]
  induction text.toList with
  | nil => rfl
  | cons c cs ih => rw [List.flatMap_cons, decodeLossy_encodeChar, ih]

/-- Only the zero character has a unit that is zero. -/
theorem zero_not_mem_encode {text : String} (h : Char.ofNat 0 ∉ text.toList) :
    0 ∉ encode text := by
  intro hmem
  obtain ⟨c, hc, hzero⟩ := List.mem_flatMap.mp hmem
  have hpos : c.toNat ≠ 0 := by
    intro hnat
    apply h
    rwa [← hnat, Char.ofNat_toNat c]
  have hunit {m : Nat} (hm : m ≠ 0) (hlt : m < 0x10000) : (0 : UInt16) ≠ UInt16.ofNat m := by
    rw [ne_eq, ← UInt16.toNat_inj, toNat_unit hlt]
    exact Ne.symm hm
  have hvalid : c.toNat < 0x110000 := by
    have hc' : c.toNat < 0xD800 ∨ 0xDFFF < c.toNat ∧ c.toNat < 0x110000 := c.valid
    omega
  simp only [encodeChar] at hzero
  split at hzero
  · simp only [List.mem_singleton] at hzero
    exact hunit hpos (by assumption) hzero
  · simp only [List.mem_cons, List.not_mem_nil, or_false] at hzero
    rcases hzero with hzero | hzero
    · exact hunit (by omega) (by omega) hzero
    · exact hunit (by omega) (by omega) hzero

end Utf16

end GridClient
