import GridClient.Proofs.LongDivision

/-!
Numbers in two's complement, most significant byte first. Bytes denote the balanced remainder of
what they hold without a sign. Leading bytes that repeat the sign change nothing, and a number has
one shortest run of bytes.
-/
namespace GridClient

variable {bytes other : Bytes} {width : Nat} {i : Int}

/-! ### Ranges -/

/-- The number that some bytes denote is the balanced remainder of the one that they hold without a
sign. -/
theorem signedBigEndian_eq_bmod (bytes : Bytes) :
    signedBigEndian bytes = (BigEndian.decode bytes : Int).bmod (wordCount bytes.length) := by
  cases bytes with
  | nil => rfl
  | cons b bytes =>
    have hlt := BigEndian.decode_lt (b :: bytes)
    rw [List.length_cons, wordCount] at hlt ⊢
    by_cases hb : b < 0x80
    · have hhalf := decode_lt_half bytes hb
      rw [signedBigEndian_of_positive bytes hb]
      exact (Int.bmod_eq_of_le_mul_two (by omega) (by omega)).symm
    · have hhalf := half_le_decode bytes hb
      rw [signedBigEndian_of_negative bytes hb, wordCount, ← Int.sub_bmod_right]
      exact (Int.bmod_eq_of_le_mul_two (by omega) (by omega)).symm

/-- A number is one of those that bytes of some length denote. -/
def FitsBytes (width : Nat) (i : Int) : Prop := -wordCount width ≤ i * 2 ∧ i * 2 < wordCount width

instance : Decidable (FitsBytes width i) := inferInstanceAs (Decidable (_ ∧ _))

theorem FitsBytes.bmod_eq (h : FitsBytes width i) : i.bmod (wordCount width) = i :=
  Int.bmod_eq_of_le_mul_two h.1 h.2

theorem FitsBytes.mono {wider : Nat} (h : FitsBytes width i) (hle : width ≤ wider) :
    FitsBytes wider i := by
  have hcount := wordCount_mono hle
  obtain ⟨hlow, hhigh⟩ := h
  exact ⟨by omega, by omega⟩

theorem fitsBytes_signedBigEndian (bytes : Bytes) :
    FitsBytes bytes.length (signedBigEndian bytes) := by
  have hcount := wordCount_pos bytes.length
  have hlow := Int.le_bmod (x := BigEndian.decode bytes) hcount
  have hhigh := Int.bmod_lt (x := BigEndian.decode bytes) hcount
  rw [signedBigEndian_eq_bmod]
  exact ⟨by omega, by omega⟩

/-- Of one length there is one run of bytes that denotes a number. -/
theorem eq_of_signedBigEndian (hlength : bytes.length = other.length)
    (h : signedBigEndian bytes = signedBigEndian other) : bytes = other := by
  have hrest (bytes : Bytes) :
      signedBigEndian bytes % wordCount bytes.length = BigEndian.decode bytes := by
    rw [signedBigEndian_eq_bmod, Int.bmod_emod]
    exact_mod_cast Nat.mod_eq_of_lt (BigEndian.decode_lt bytes)
  have hdecode : BigEndian.decode bytes = BigEndian.decode other := by
    have hbytes := hrest bytes
    rw [h, hlength, hrest other] at hbytes
    exact_mod_cast hbytes.symm
  rw [← BigEndian.encode_decode bytes, hlength, hdecode, BigEndian.encode_decode]

/-! ### Leading bytes -/

/-- The byte that may stand in front of a number in two's complement. -/
def signByte (i : Int) : UInt8 := if i < 0 then 0xFF else 0

theorem signByte_of_nonneg (h : 0 ≤ i) : signByte i = 0 := if_neg (Int.not_lt.mpr h)

theorem signByte_of_neg (h : i < 0) : signByte i = 0xFF := if_pos h

/-- It is the one that repeats the sign bit behind it. -/
theorem eq_signByte_iff (a b : UInt8) (bytes : Bytes) :
    a = signByte (signedBigEndian (b :: bytes)) ↔
      (a = 0 ∧ b < 0x80) ∨ (a = 0xFF ∧ 0x80 ≤ b) := by
  have hlt := BigEndian.decode_lt (b :: bytes)
  rw [List.length_cons] at hlt
  rw [← UInt8.not_lt]
  by_cases hb : b < 0x80
  · have hvalue := signedBigEndian_of_positive bytes hb
    simp only [signByte_of_nonneg (by omega : 0 ≤ signedBigEndian (b :: bytes)), hb, and_true,
      not_true_eq_false, and_false, or_false]
  · have hvalue := signedBigEndian_of_negative bytes hb
    simp only [signByte_of_neg (by omega : signedBigEndian (b :: bytes) < 0), hb, and_true,
      not_false_eq_true, and_false, false_or]

/-- A leading byte that repeats the sign changes nothing. -/
theorem signedBigEndian_cons_signByte (bytes : Bytes) :
    signedBigEndian (signByte (signedBigEndian bytes) :: bytes) = signedBigEndian bytes := by
  cases bytes with
  | nil => rfl
  | cons b bytes =>
    have hlt := BigEndian.decode_lt (b :: bytes)
    rw [List.length_cons] at hlt
    by_cases hb : b < 0x80
    · have hvalue := signedBigEndian_of_positive bytes hb
      rw [signByte_of_nonneg (by omega), signedBigEndian_of_positive _ (by decide),
        BigEndian.decode_cons, UInt8.toNat_zero, Nat.zero_mul, Nat.zero_add, hvalue]
    · have hvalue := signedBigEndian_of_negative bytes hb
      have hbyte : (0xFF : UInt8).toNat = 255 := rfl
      rw [signByte_of_neg (by omega), signedBigEndian_of_negative _ (by decide),
        BigEndian.decode_cons, hbyte, hvalue, List.length_cons]
      have hcount : wordCount (bytes.length + 1 + 1) = 256 * wordCount (bytes.length + 1) := rfl
      omega

/-- Nor do any number of them. -/
theorem signedBigEndian_replicate_signByte (extra : Nat) (bytes : Bytes) :
    signedBigEndian (List.replicate extra (signByte (signedBigEndian bytes)) ++ bytes) =
      signedBigEndian bytes := by
  induction extra with
  | zero => rfl
  | succ extra ih =>
    have hstep := signedBigEndian_cons_signByte
      (List.replicate extra (signByte (signedBigEndian bytes)) ++ bytes)
    rw [ih] at hstep
    rw [List.replicate_succ, List.cons_append, hstep]

/-- A number that fits in fewer bytes than it has begins with a byte that repeats its sign. -/
theorem eq_signByte_of_fitsBytes {b : UInt8}
    (h : FitsBytes bytes.length (signedBigEndian (b :: bytes))) :
    b = signByte (signedBigEndian bytes) := by
  have hsame : signedBigEndian (b :: bytes) = signedBigEndian bytes := by
    rw [← h.bmod_eq, signedBigEndian_eq_bmod (b :: bytes), List.length_cons, wordCount,
      Int.bmod_bmod_of_dvd (Nat.dvd_mul_left _ _), BigEndian.decode_cons, Int.natCast_add,
      Int.natCast_mul, Int.mul_add_bmod_self_right, signedBigEndian_eq_bmod]
  -- the byte that repeats the sign gives a run of the same length for the same number
  have hbytes : b :: bytes = signByte (signedBigEndian bytes) :: bytes :=
    eq_of_signedBigEndian rfl (hsame.trans (signedBigEndian_cons_signByte bytes).symm)
  exact (List.cons.inj hbytes).1

/-! ### The shortest bytes -/

/-- The shortest bytes of a number, which are one at least. -/
structure ShortestSigned (bytes : Bytes) (i : Int) : Prop where
  ne_nil : bytes ≠ []
  denotes : signedBigEndian bytes = i
  length_le : ∀ other ≠ [], signedBigEndian other = i → bytes.length ≤ other.length
  unique : ∀ other, other.length = bytes.length → signedBigEndian other = i → other = bytes

theorem shortenSigned_cons (a b : UInt8) (bytes : Bytes) :
    shortenSigned (a :: b :: bytes) =
      if a = signByte (signedBigEndian (b :: bytes)) then shortenSigned (b :: bytes)
      else a :: b :: bytes := by
  rw [shortenSigned]
  exact if_congr (eq_signByte_iff a b bytes).symm rfl rfl

theorem signedBigEndian_shortenSigned (bytes : Bytes) :
    signedBigEndian (shortenSigned bytes) = signedBigEndian bytes := by
  induction bytes with
  | nil => rfl
  | cons a bytes ih =>
    cases bytes with
    | nil => rfl
    | cons b bytes =>
      rw [shortenSigned_cons]
      split
      case isTrue hsign => rw [ih, hsign, signedBigEndian_cons_signByte]
      case isFalse => rfl

theorem shortenSigned_ne_nil (h : bytes ≠ []) : shortenSigned bytes ≠ [] := by
  induction bytes with
  | nil => exact h
  | cons a bytes ih =>
    cases bytes with
    | nil => exact h
    | cons b bytes =>
      rw [shortenSigned_cons]
      split
      · exact ih (List.cons_ne_nil b bytes)
      · exact h

/-- As many bytes are left at most as the number fits in. -/
theorem length_shortenSigned_le (hwidth : width ≠ 0) (h : FitsBytes width (signedBigEndian bytes)) :
    (shortenSigned bytes).length ≤ width := by
  induction bytes with
  | nil => exact Nat.zero_le width
  | cons a bytes ih =>
    cases bytes with
    | nil => exact Nat.one_le_iff_ne_zero.mpr hwidth
    | cons b bytes =>
      rw [shortenSigned_cons]
      split
      case isTrue hsign =>
        rw [hsign, signedBigEndian_cons_signByte] at h
        exact ih h
      case isFalse hsign =>
        by_contra hlong
        rw [List.length_cons] at hlong
        exact hsign (eq_signByte_of_fitsBytes (h.mono (by omega)))

/-- Dropping the bytes that repeat the sign leaves the shortest bytes. -/
theorem shortestSigned_shortenSigned (h : bytes ≠ []) :
    ShortestSigned (shortenSigned bytes) (signedBigEndian bytes) where
  ne_nil := shortenSigned_ne_nil h
  denotes := signedBigEndian_shortenSigned bytes
  length_le := by
    intro other hne hother
    have hfits := fitsBytes_signedBigEndian other
    rw [hother] at hfits
    exact length_shortenSigned_le (mt List.length_eq_zero_iff.mp hne) hfits
  unique := fun other hlength hother =>
    eq_of_signedBigEndian hlength (hother.trans (signedBigEndian_shortenSigned bytes).symm)

theorem shortestSigned_encode {n : Nat} (hwidth : width ≠ 0)
    (h : (n : Int).bmod (wordCount width) = i) :
    ShortestSigned (shortenSigned (BigEndian.encode width n)) i := by
  have hlength := BigEndian.length_encode width n
  have hvalue : signedBigEndian (BigEndian.encode width n) = i := by
    rw [signedBigEndian_eq_bmod, BigEndian.decode_encode, hlength, Int.natCast_emod,
      Int.emod_bmod, h]
  rw [← hvalue]
  exact shortestSigned_shortenSigned fun hnil => hwidth (by rw [← hlength, hnil, List.length_nil])

namespace Decimal

theorem shortest_ofInt64 (value : Int64) (scale : Int32) :
    ShortestSigned (ofInt64 value scale).magnitude value.toInt := by
  apply shortestSigned_encode (by decide)
  rw [← Int64.toInt_toBitVec, BitVec.toInt_eq_toNat_bmod]
  rfl

theorem shortest_ofParts {mantissa : Int} (h : FitsBytes 16 mantissa) (places : Nat) :
    ShortestSigned (ofParts mantissa places).magnitude mantissa := by
  have hrest : ((mantissa % wordCount 16).toNat : Int) = mantissa % wordCount 16 :=
    Int.toNat_of_nonneg (Int.emod_nonneg mantissa (by decide))
  apply shortestSigned_encode (by decide)
  rw [hrest, Int.emod_bmod, h.bmod_eq]

end Decimal

end GridClient
