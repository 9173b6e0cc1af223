import GridClient.Proofs.BufferRoundTrip

/-!
Whole numbers between types of different widths. An integer type keeps the low bytes and reads them
in its own range, a text keeps the number as it is, and a bit keeps whether it is zero. A parameter
that is sent as a bit is narrowed to one byte first, so it tells less.
-/
namespace GridClient

namespace DataBuffer

variable {b : DataBuffer} {n : Number} {f : IntegerFormat} {slot : Bytes}

/-- A number that goes into a buffer of an integer type is reduced to its range. -/
theorem putNumber_reduces (n : Number) (hf : b.type.integer? = some f) (hslot : b.slot = some slot)
    (hroom : f.bytes ≤ slot.length) :
    ∃ b', b.putNumber n = (.success, b') ∧
      b'.slot = some (LittleEndian.encode f.bytes (n.toInt64.toInt % f.count).toNat ++
        slot.drop f.bytes) ∧
      b'.getInt64.toInt = f.asRead.reduce n.toInt64.toInt := by
  have hlength := LittleEndian.length_encode f.bytes n.toInt64.toUInt64.toNat
  have hfits : (LittleEndian.encode f.bytes n.toInt64.toUInt64.toNat).length ≤ slot.length := by
    rwa [hlength]
  refine ⟨_, (putNumber_integer hf n).trans (putFixed_of_room hslot hfits), ?_, ?_⟩
  · rw [← low_emod n.toInt64 (BindingType.bytes_of_integer? hf), Int.toNat_natCast,
      LittleEndian.encode_mod, hlength]
  · apply getInt64_of_low
    · exact hf
    · rfl

/-- What is read is congruent to the number modulo the count of every type that is no wider. -/
theorem putNumber_congruent {g : IntegerFormat} (n : Number) (hg : b.type.integer? = some g)
    (hroom : g.bytes ≤ b.capacity) (hwider : f.bytes ≤ g.bytes) :
    ∃ b', b.putNumber n = (.success, b') ∧
      b'.getInt64.toInt % f.count = n.toInt64.toInt % f.count := by
  have hpos : 0 < g.bytes := by
    rcases BindingType.bytes_of_integer? hg with h | h | h | h <;> omega
  obtain ⟨slot, hslot, hcapacity⟩ := exists_slot (Nat.lt_of_lt_of_le hpos hroom)
  obtain ⟨b', hput, -, hread⟩ := putNumber_reduces n hg hslot (hcapacity ▸ hroom)
  have hcongr : b'.getInt64.toInt % g.count = n.toInt64.toInt % g.count := by
    rw [hread]
    exact g.asRead.reduce_emod n.toInt64.toInt
  have hdvd := IntegerFormat.count_dvd hwider
  refine ⟨b', hput, ?_⟩
  rw [← Int.emod_emod_of_dvd _ hdvd, hcongr, Int.emod_emod_of_dvd _ hdvd]

/-- A number that goes into a buffer for bits is one unless it is zero. -/
theorem putNumber_truth (n : Number) (htype : b.type = .bit) (hslot : b.slot = some slot)
    (hroom : 1 ≤ slot.length) :
    ∃ b', b.putNumber n = (.success, b') ∧
      b'.slot = some ((if n.toInt64 = 0 then 0 else 1) :: slot.drop 1) ∧
      b'.getInt64 = if n.toInt64 = 0 then 0 else 1 := by
  have hput : b.putNumber n = b.putFixed [if n.toInt64 = 0 then 0 else 1] := by
    unfold putNumber
    rw [htype]
  refine ⟨_, hput.trans (putFixed_of_room hslot hroom), rfl, ?_⟩
  rw [getInt64, getNumber]
  simp only [htype]
  by_cases hzero : n.toInt64 = 0
  · simp only [if_pos hzero]
    rfl
  · simp only [if_neg hzero]
    rfl

theorem contains_int64 (v : Int64) {g : IntegerFormat} (hbytes : g.bytes = 8)
    (hsigned : g.signed = true) : g.Contains v.toInt := by
  have hlow := v.le_toInt
  have hhigh := v.toInt_lt
  rw [IntegerFormat.Contains, IntegerFormat.least, if_pos hsigned, IntegerFormat.count, hbytes]
  simp only [wordCount]
  omega

/-- An integer type keeps a whole number modulo the count of its values, and so gives back every
number of its range. A bit is one unless the number is zero, and a text with room for the numeral
gives the number back. -/
theorem whole_number_converts (hwhole : n.ownType?.isSome) (hslot : b.slot = some slot) :
    (∀ f, b.type.integer? = some f → f.bytes ≤ slot.length →
      ∃ b', b.putNumber n = (.success, b') ∧
        b'.slot = some (LittleEndian.encode f.bytes (n.toInt64.toInt % f.count).toNat ++
          slot.drop f.bytes) ∧
        f.asRead.Contains b'.getInt64.toInt ∧
        b'.getInt64.toInt % f.count = n.toInt64.toInt % f.count ∧
        (f.asRead.Contains n.toInt64.toInt → b'.getInt64 = n.toInt64) ∧
        (f.bytes = 8 → b'.getInt64 = n.toInt64) ∧
        ∀ (c : DataBuffer) (g : IntegerFormat), c.type.integer? = some g → g.bytes ≤ c.capacity →
          f.bytes ≤ g.bytes → ∃ c', c.putNumber (.int64 b'.getInt64) = (.success, c') ∧
            c'.getInt64.toInt % f.count = n.toInt64.toInt % f.count) ∧
    (b.type = .bit → 1 ≤ slot.length →
      ∃ b', b.putNumber n = (.success, b') ∧
        b'.slot = some ((if n.toInt64 = 0 then 0 else 1) :: slot.drop 1) ∧
        b'.getInt64 = if n.toInt64 = 0 then 0 else 1) ∧
    (b.type = .char ∨ b.type = .wideChar → b.type.room n.text 0 ≤ slot.length →
      ∃ b', b.putNumber n = (.success, b') ∧ b'.getInt64 = n.toInt64) := by
  refine ⟨?_, fun htype hroom => putNumber_truth n htype hslot hroom, ?_⟩
  · intro f hf hroom
    obtain ⟨b', hput, hbytes, hread⟩ := putNumber_reduces n hf hslot hroom
    have hcongr : b'.getInt64.toInt % f.count = n.toInt64.toInt % f.count := by
      rw [hread]
      exact f.asRead.reduce_emod n.toInt64.toInt
    have hkept (hcontains : f.asRead.Contains n.toInt64.toInt) : b'.getInt64 = n.toInt64 := by
      rw [← Int64.toInt_inj, hread, IntegerFormat.reduce_of_contains hcontains]
    refine ⟨b', hput, hbytes, ?_, hcongr, hkept, ?_, ?_⟩
    · rw [hread]
      exact f.asRead.contains_reduce n.toInt64.toInt
    · intro hlong
      apply hkept (contains_int64 n.toInt64 hlong _)
      simp only [IntegerFormat.asRead, hlong, BEq.rfl, Bool.or_true]
    · intro c g hg hfits hwider
      obtain ⟨c', hput', hwide⟩ := putNumber_congruent (.int64 b'.getInt64) hg hfits hwider
      exact ⟨c', hput', hwide.trans hcongr⟩
  · intro htext hroom
    have hcapacity : b.capacity = slot.length := by
      rw [capacity, hslot, Option.getD_some]
    obtain ⟨b', hput, -, hread⟩ := putNumber_text hwhole htext (hcapacity ▸ hroom)
    exact ⟨b', hput, hread⟩

/-- Three hundred in a byte with a sign, and that byte in an unsigned word. -/
theorem whole_number_converts_narrowed :
    ∃ b', putNumber ⟨.signedTinyInt, some [9, 9], none⟩ (.int16 300) = (.success, b') ∧
      b'.slot = some [44, 9] ∧
      ∃ c', putNumber ⟨.unsignedLong, some [9, 9, 9, 9], none⟩ (.int64 b'.getInt64) =
        (.success, c') ∧ c'.getInt64.toInt % 256 = 44 := by
  obtain ⟨hinteger, -, -⟩ := whole_number_converts (n := .int16 300)
    (b := ⟨.signedTinyInt, some [9, 9], none⟩) rfl rfl
  obtain ⟨b', hput, hslot, -, -, -, -, hwider⟩ := hinteger ⟨1, true⟩ rfl (by decide)
  obtain ⟨c', hput', hread⟩ := hwider ⟨.unsignedLong, some [9, 9, 9, 9], none⟩ ⟨4, false⟩ rfl
    (by decide) (by decide)
  exact ⟨b', hput, hslot, c', hput', hread⟩

/-! ### Parameters sent as a bit -/

theorem getInt8_ne_zero_iff : b.getInt8 ≠ 0 ↔ b.getInt64.toInt % 256 ≠ 0 := by
  rw [ne_eq, ← Int8.toInt_inj, getInt8, Int64.toInt_toInt8]
  show ¬ b.getInt64.toInt.bmod 256 = 0 ↔ _
  rw [Int.bmod_def]
  split <;> omega

/-- A parameter that is sent as a bit tells whether the low byte of its number is zero. -/
theorem wireValue_bit (hnull : b.isNull = false) :
    Parameter.wireValue ⟨b, .bit⟩ = .ok (.bool (decide (b.getInt64.toInt % 256 ≠ 0))) := by
  have hsent : (b.getInt8 != 0) = decide (b.getInt64.toInt % 256 ≠ 0) := by
    rw [Bool.eq_iff_iff, bne_iff_ne, decide_eq_true_eq]
    exact getInt8_ne_zero_iff
  rw [← hsent]
  simp only [Parameter.wireValue, hnull]
  rfl

/-- A parameter sent as a bit, against a bit that is put into a buffer. The parameter tells whether
the low byte of the buffer's number is zero, where a buffer for bits keeps whether the number is
zero. The two agree on zero and on every number that is no multiple of 256. -/
theorem bit_parameter_tells_low_byte (hnull : b.isNull = false) :
    Parameter.wireValue ⟨b, .bit⟩ = .ok (.bool (decide (b.getInt64.toInt % 256 ≠ 0))) ∧
    (∀ (n : Number) (c : DataBuffer) (slot : Bytes), n.toInt64 = b.getInt64 → c.type = .bit →
      c.slot = some slot → 1 ≤ slot.length →
        ∃ c', c.putNumber n = (.success, c') ∧
          c'.slot = some ((if b.getInt64 = 0 then 0 else 1) :: slot.drop 1)) ∧
    (Parameter.wireValue ⟨b, .bit⟩ = .ok (.bool (decide (b.getInt64 ≠ 0))) ↔
      b.getInt64 = 0 ∨ b.getInt64.toInt % 256 ≠ 0) := by
  refine ⟨wireValue_bit hnull, ?_, ?_⟩
  · intro n c slot hnumber htype hslot hroom
    obtain ⟨c', hput, hbytes, -⟩ := putNumber_truth n htype hslot hroom
    rw [hnumber] at hbytes
    exact ⟨c', hput, hbytes⟩
  · rw [wireValue_bit hnull]
    simp only [Except.ok.injEq, WireValue.bool.injEq, decide_eq_decide]
    constructor
    · intro hsame
      by_cases hzero : b.getInt64 = 0
      · exact .inl hzero
      · exact .inr (hsame.mpr hzero)
    · rintro (hzero | hlow)
      · rw [hzero]
        decide
      · refine iff_of_true hlow fun hzero => ?_
        rw [hzero] at hlow
        exact hlow rfl

/-- Of two hundred and sixty-three the low byte is seven, and the parameter agrees with the bit. -/
theorem bit_parameter_tells_low_byte_seven :
    Parameter.wireValue ⟨⟨.signedShort, some [7, 1], some 2⟩, .bit⟩ = .ok (.bool true) ∧
    ∃ c', putNumber ⟨.bit, some [9], none⟩ (.int16 263) = (.success, c') ∧
      c'.slot = some [1] := by
  obtain ⟨hsent, hstored, -⟩ := bit_parameter_tells_low_byte
    (b := ⟨.signedShort, some [7, 1], some 2⟩) rfl
  exact ⟨hsent, hstored (.int16 263) ⟨.bit, some [9], none⟩ [9] rfl rfl rfl (by decide)⟩

/-- Of two hundred and fifty-six the low byte is zero. -/
theorem bit_parameter_loses_high_byte :
    ¬ ∀ b : DataBuffer, b.type.integer?.isSome ∨ b.type = .char ∨ b.type = .wideChar →
      b.isNull = false →
        Parameter.wireValue ⟨b, .bit⟩ = .ok (.bool (decide (b.getInt64 ≠ 0))) := by
  intro hall
  have hnonzero :
      Parameter.wireValue ⟨⟨.signedShort, some [0, 1], none⟩, .bit⟩ = .ok (.bool true) :=
    hall ⟨.signedShort, some [0, 1], none⟩ (.inl rfl) rfl
  have hsent : Parameter.wireValue ⟨⟨.signedShort, some [0, 1], none⟩, .bit⟩ = .ok (.bool false) :=
    rfl
  rw [hsent] at hnonzero
  cases hnonzero

end DataBuffer

end GridClient
