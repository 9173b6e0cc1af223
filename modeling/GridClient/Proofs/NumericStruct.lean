import GridClient.Proofs.BufferReading
import GridClient.Proofs.DecimalText
import GridClient.Proofs.SignedBytes

/-!
Decimals in numeric buffers. The nineteen bytes depend on the number and the scale alone and not on
the magnitude that denotes the number, and each part of the decimal can be read back from them.
-/
namespace GridClient

/-! ### Leading zeros -/

theorem LittleEndian.decode_replicate_zero (count : ℕ) : decode (List.replicate count 0) = 0 := by
  induction count with
  | zero => rfl
  | succ count ih => rw [List.replicate_succ, decode, ih, UInt8.toNat_zero]

namespace BigEndian

variable (bytes : Bytes)

theorem decode_dropWhile_zero : decode (bytes.dropWhile (· == 0)) = decode bytes := by
  induction bytes with
  | nil => rfl
  | cons b bytes ih =>
    rw [List.dropWhile_cons]
    split
    case isTrue hzero =>
      rw [ih, decode_cons, eq_of_beq hzero, UInt8.toNat_zero, Nat.zero_mul, Nat.zero_add]
    case isFalse => rfl

/-- Without its leading zeros a magnitude takes as many bytes as its number needs. -/
theorem length_dropWhile_zero_le_iff (width : ℕ) :
    (bytes.dropWhile (· == 0)).length ≤ width ↔ decode bytes < wordCount width := by
  induction bytes with
  | nil => exact iff_of_true (Nat.zero_le _) (wordCount_pos width)
  | cons b bytes ih =>
    rw [List.dropWhile_cons]
    split
    case isTrue hzero =>
      rw [ih, decode_cons, eq_of_beq hzero, UInt8.toNat_zero, Nat.zero_mul, Nat.zero_add]
    case isFalse hzero =>
      have hb : 0 < b.toNat := by
        rw [beq_iff_eq, ← UInt8.toNat_inj, UInt8.toNat_zero] at hzero
        omega
      constructor
      · exact fun hle => Nat.lt_of_lt_of_le (decode_lt (b :: bytes)) (wordCount_mono hle)
      · intro hlt
        by_contra hlong
        have hcount : wordCount width ≤ wordCount bytes.length :=
          wordCount_mono (by rw [List.length_cons] at hlong; omega)
        have hfirst := Nat.le_mul_of_pos_left (wordCount bytes.length) hb
        rw [decode_cons] at hlt
        omega

end BigEndian

/-! ### The parts of the layout -/

/-- A whole number and a scale that a numeric buffer has room for. -/
def FitsNumeric (u scale : ℤ) : Prop := -128 ≤ scale ∧ scale ≤ 127 ∧ u.natAbs < 2 ^ 128

instance (u scale : ℤ) : Decidable (FitsNumeric u scale) := inferInstanceAs (Decidable (_ ∧ _ ∧ _))

/-- The bytes of a numeric buffer hold a whole number and a scale: how many digits the number has,
which is one for zero, the scale, the sign, and the absolute value. -/
structure SpellsNumeric (bytes : Bytes) (u scale : ℤ) : Prop where
  length_eq : bytes.length = 19
  precision : (bytes.getD 0 0).toNat = Nat.log 10 u.natAbs + 1
  scale_eq : (bytes.getD 1 0).toInt8.toInt = scale
  sign : bytes.getD 2 0 = if 0 ≤ u then 1 else 0
  magnitude : LittleEndian.decode (bytes.drop 3) = u.natAbs

/-- The number that the bytes of a numeric buffer denote. -/
def numericValue (bytes : Bytes) : ℚ :=
  (if bytes.getD 2 0 = 1 then 1 else -1) * LittleEndian.decode (bytes.drop 3) *
    10 ^ (-(bytes.getD 1 0).toInt8.toInt)

theorem SpellsNumeric.value_eq {bytes : Bytes} {d : Decimal}
    (h : SpellsNumeric bytes d.unscaled d.scale.toInt) : numericValue bytes = d.value := by
  rw [numericValue, h.scale_eq, h.sign, h.magnitude, Decimal.value, Nat.cast_natAbs]
  by_cases hneg : 0 ≤ d.unscaled
  · rw [if_pos hneg, if_pos rfl, abs_of_nonneg hneg, one_mul]
  · rw [if_neg hneg, if_neg (by decide), abs_of_neg (Int.not_le.mp hneg), Int.cast_neg, neg_one_mul,
      neg_neg]

/-- The bytes of a numeric buffer for a whole number and a scale. -/
def numericLayout (u scale : ℤ) : Bytes :=
  UInt8.ofNat (Numeral.digits u.natAbs).length :: UInt8.ofInt scale ::
    (if 0 ≤ u then 1 else 0) :: LittleEndian.encode 16 u.natAbs

theorem length_numericLayout (u scale : ℤ) : (numericLayout u scale).length = 19 := by
  rw [numericLayout, List.length_cons, List.length_cons, List.length_cons,
    LittleEndian.length_encode]

theorem Numeral.length_digits_lt {n : ℕ} (h : n < 2 ^ 128) : (digits n).length < 256 := by
  rw [length_digits]
  by_cases hzero : n = 0
  · rw [hzero]
    decide
  · have hten : 2 ^ 128 ≤ 10 ^ 128 := Nat.pow_le_pow_left (by decide) 128
    have hlog := Nat.log_lt_of_lt_pow hzero (Nat.lt_of_lt_of_le h hten)
    omega

/-- A small whole number is read back from the byte that it is written as. -/
theorem toInt_toInt8_ofInt {i : ℤ} (hlow : -128 ≤ i) (hhigh : i ≤ 127) :
    (UInt8.ofInt i).toInt8.toInt = i := by
  have hrest := Int.toNat_of_nonneg (Int.emod_nonneg i (by decide : (2 ^ 8 : ℤ) ≠ 0))
  have hbyte : (UInt8.ofInt i).toInt8.toInt = ((i % 2 ^ 8).toNat : ℤ).bmod 256 := by
    rw [← Int8.toInt_toBitVec, UInt8.toBitVec_toInt8]
    exact BitVec.toInt_ofNat (i % 2 ^ 8).toNat
  rw [hbyte, hrest]
  exact (Int.emod_bmod i 256).trans (Int.bmod_eq_of_le_mul_two (by omega) (by omega))

theorem spellsNumeric_layout {u scale : ℤ} (h : FitsNumeric u scale) :
    SpellsNumeric (numericLayout u scale) u scale := by
  obtain ⟨hlow, hhigh, hlt⟩ := h
  refine ⟨length_numericLayout u scale, ?_, toInt_toInt8_ofInt hlow hhigh, rfl, ?_⟩
  · have hdigits := Numeral.length_digits_lt hlt
    show (UInt8.ofNat (Numeral.digits u.natAbs).length).toNat = _
    rw [UInt8.toNat_ofNat', Nat.mod_eq_of_lt hdigits, Numeral.length_digits]
  · exact LittleEndian.decode_encode_of_lt hlt

/-! ### Writing -/

namespace Decimal

variable (d : Decimal)

theorem length_absolute : d.absolute.length = d.magnitude.length := by
  rw [absolute]
  split
  · exact BigEndian.length_negate d.magnitude
  · rfl

/-- The bytes of an absolute value may look negative, but then they denote the number of the
opposite sign. -/
theorem natAbs_absolute : (signedBigEndian d.absolute).natAbs = d.unscaled.natAbs := by
  obtain ⟨hlow, hhigh⟩ := fitsBytes_signedBigEndian d.magnitude
  rw [← unscaled] at hlow hhigh
  rw [signedBigEndian_eq_bmod, length_absolute, decode_absolute]
  by_cases hhalf : d.unscaled.natAbs * 2 < wordCount d.magnitude.length
  · rw [Int.bmod_eq_of_le_mul_two (by omega) (by omega), Int.natAbs_natCast]
  · -- the least number of the length, whose bytes are those of its absolute value
    rw [← Int.sub_bmod_right, Int.bmod_eq_of_le_mul_two (by omega) (by omega)]
    omega

/-- The digits of an absolute value are found by showing its bytes. -/
theorem digits_absolute :
    (Decimal.mk d.absolute 0).chars.dropWhile (· == '-') = Numeral.digits d.unscaled.natAbs := by
  have hminus : ∀ c ∈ Numeral.digits d.unscaled.natAbs, ¬ (c == '-') = true :=
    Numeral.forall_mem_digits (by decide) _
  have hdrop : (Numeral.digits d.unscaled.natAbs).dropWhile (· == '-') =
      Numeral.digits d.unscaled.natAbs :=
    List.dropWhile_eq_self_iff.mpr fun hpos => hminus _ (List.getElem_mem hpos)
  rw [chars_of_unscaled _ rfl, unscaled, Numeral.ofInt, natAbs_absolute]
  split
  · rw [List.dropWhile_cons_of_pos rfl, hdrop]
  · exact hdrop

/-- The bytes of the absolute value without its leading zeros, turned around and filled up. -/
theorem significant_eq (h : d.unscaled.natAbs < wordCount 16) :
    (d.absolute.dropWhile (· == 0)).reverse ++
        List.replicate (16 - (d.absolute.dropWhile (· == 0)).length) 0 =
      LittleEndian.encode 16 d.unscaled.natAbs := by
  have hdecode := BigEndian.decode_dropWhile_zero d.absolute
  have hlength := (BigEndian.length_dropWhile_zero_le_iff d.absolute 16).mpr (d.decode_absolute ▸ h)
  rw [d.decode_absolute] at hdecode
  generalize d.absolute.dropWhile (· == 0) = significant at hdecode hlength ⊢
  have hbytes := LittleEndian.encode_decode
    (significant.reverse ++ List.replicate (16 - significant.length) 0)
  rw [List.length_append, List.length_reverse, List.length_replicate,
    Nat.add_sub_cancel' hlength, LittleEndian.decode_append, LittleEndian.decode_replicate_zero,
    Nat.mul_zero, Nat.add_zero] at hbytes
  rw [← hbytes, ← hdecode, BigEndian.decode]

end Decimal

variable {d : Decimal}

/-- The bytes in a numeric buffer are those of the number and the scale, when there is room for
them, and else there are none. -/
theorem numericBytes?_of_fits (h : FitsNumeric d.unscaled d.scale.toInt) :
    numericBytes? d = some (numericLayout d.unscaled d.scale.toInt) := by
  obtain ⟨hlow, hhigh, hlt⟩ := h
  have hlength := (BigEndian.length_dropWhile_zero_le_iff d.absolute 16).mpr
    (d.decode_absolute.symm ▸ hlt)
  have hdigits := Numeral.length_digits_lt hlt
  have hsign : (if d.isNegative then (0 : UInt8) else 1) = if 0 ≤ d.unscaled then 1 else 0 := by
    simp only [d.isNegative_iff, ← Int.not_lt, ite_not]
  rw [numericBytes?, if_neg (by omega)]
  simp only [d.digits_absolute]
  rw [if_neg (Nat.not_lt.mpr hlength), if_neg (by omega), d.significant_eq hlt, hsign,
    numericLayout]

theorem numericBytes?_of_not_fits (h : ¬ FitsNumeric d.unscaled d.scale.toInt) :
    numericBytes? d = none := by
  rw [numericBytes?]
  by_cases hscale : d.scale.toInt < -128 ∨ 127 < d.scale.toInt
  · rw [if_pos hscale]
  · have hlarge : ¬ d.unscaled.natAbs < wordCount 16 := fun hlt => h ⟨by omega, by omega, hlt⟩
    rw [← d.decode_absolute, ← BigEndian.length_dropWhile_zero_le_iff] at hlarge
    rw [if_neg hscale, if_pos (Nat.lt_of_not_le hlarge)]

namespace DataBuffer

variable {b : DataBuffer} {slot : Bytes}

theorem putNumeric_of_fits (hslot : b.slot = some slot) (hroom : 19 ≤ slot.length)
    (h : FitsNumeric d.unscaled d.scale.toInt) :
    ∃ bytes, b.putNumeric d = (.success, { b with
        slot := some (bytes ++ slot.drop 19)
        length := b.length.map fun _ => 19 }) ∧
      SpellsNumeric bytes d.unscaled d.scale.toInt := by
  have hlength := length_numericLayout d.unscaled d.scale.toInt
  have hput := b.putFixed_of_room hslot (hlength.symm ▸ hroom)
  rw [hlength] at hput
  refine ⟨_, ?_, spellsNumeric_layout h⟩
  simp only [putNumeric, numericBytes?_of_fits h]
  exact hput

theorem fitsNumeric_ofInt64 (v : Int64) :
    FitsNumeric (Decimal.ofInt64 v 0).unscaled (Decimal.ofInt64 v 0).scale.toInt := by
  have hlow := v.le_toInt
  have hhigh := v.toInt_lt
  have hscale : (Decimal.ofInt64 v 0).scale.toInt = 0 := rfl
  rw [Decimal.unscaled, (Decimal.shortest_ofInt64 v 0).denotes, hscale]
  exact ⟨by decide, by decide, by omega⟩

/-- A decimal whose scale is one of a signed byte, and whose number without its sign is one of
sixteen bytes, is written as nineteen bytes that hold each part of it. Any other is refused, and
nothing changes. -/
theorem numeric_bytes_exact (htype : b.type = .numeric) (hslot : b.slot = some slot)
    (hroom : 19 ≤ slot.length) :
    (∀ d : Decimal, FitsNumeric d.unscaled d.scale.toInt →
      ∃ bytes, b.putDecimal d = (.success, { b with
          slot := some (bytes ++ slot.drop 19)
          length := b.length.map fun _ => 19 }) ∧
        SpellsNumeric bytes d.unscaled d.scale.toInt ∧ d.value = numericValue bytes) ∧
    (∀ d : Decimal, ¬ FitsNumeric d.unscaled d.scale.toInt → b.putDecimal d = (.failure, b)) ∧
    ∀ v : Int64, ∃ bytes, b.putNumber (.int64 v) = (.success, { b with
        slot := some (bytes ++ slot.drop 19)
        length := b.length.map fun _ => 19 }) ∧
      SpellsNumeric bytes v.toInt 0 := by
  have hdecimal (d : Decimal) : b.putDecimal d = b.putNumeric d := by
    unfold putDecimal
    rw [htype]
  have hnumber (v : Int64) : b.putNumber (.int64 v) = b.putNumeric (Decimal.ofInt64 v 0) := by
    unfold putNumber
    rw [htype]
    rfl
  refine ⟨fun d hfits => ?_, fun d hfits => ?_, fun v => ?_⟩
  · obtain ⟨bytes, hput, hspells⟩ := putNumeric_of_fits hslot hroom hfits
    exact ⟨bytes, (hdecimal d).trans hput, hspells, hspells.value_eq.symm⟩
  · simp only [hdecimal, putNumeric, numericBytes?_of_not_fits hfits]
  · obtain ⟨bytes, hput, hspells⟩ := putNumeric_of_fits hslot hroom (fitsNumeric_ofInt64 v)
    rw [Decimal.unscaled, (Decimal.shortest_ofInt64 v 0).denotes] at hspells
    exact ⟨bytes, (hnumber v).trans hput, hspells⟩

/-- The least number of one byte, whose absolute value has the same byte, goes into a buffer of
twenty bytes, and the least one that takes seventeen bytes without a sign does not. -/
theorem numeric_bytes_exact_bounds :
    19 ≤ (List.replicate 20 (0xAA : UInt8)).length ∧
    FitsNumeric (Decimal.mk [0x80] 3).unscaled (Decimal.mk [0x80] 3).scale.toInt ∧
    (∃ bytes,
      (DataBuffer.mk .numeric (some (List.replicate 20 0xAA)) (some 0)).putDecimal ⟨[0x80], 3⟩ =
        (.success, ⟨.numeric, some (bytes ++ [0xAA]), some 19⟩) ∧
      SpellsNumeric bytes (-128) 3) ∧
    (DataBuffer.mk .numeric (some (List.replicate 20 0xAA)) (some 0)).putDecimal
        ⟨1 :: List.replicate 16 0, 0⟩ =
      (.failure, ⟨.numeric, some (List.replicate 20 0xAA), some 0⟩) := by
  obtain ⟨hwrite, hrefuse, -⟩ := numeric_bytes_exact
    (b := ⟨.numeric, some (List.replicate 20 0xAA), some 0⟩) rfl rfl (by decide)
  have hfits : FitsNumeric (Decimal.mk [0x80] 3).unscaled (Decimal.mk [0x80] 3).scale.toInt := by
    decide
  obtain ⟨bytes, hput, hspells, -⟩ := hwrite ⟨[0x80], 3⟩ hfits
  exact ⟨by decide, hfits, ⟨bytes, hput, hspells⟩, hrefuse _ (by decide)⟩

end DataBuffer

end GridClient
