import Mathlib
import GridClient.Proofs.IntegerConversion

/-!
Floating-point numbers in buffers of integer types. A number is truncated toward zero and clamped to
64 bits with a sign, and of the result a buffer keeps the low bytes. So a number that its type and
64 bits can hold is stored as its whole part, and any other one is sure to be clamped to the ends of
the type only where these are the ends of 64 bits with a sign.
-/
namespace GridClient

/-- The integer part of a number, toward zero. -/
def towardZero (q : ℚ) : ℤ := if q < 0 then ⌈q⌉ else ⌊q⌋

/-! ### What bit patterns denote -/

/-- The number that the fields of a bit pattern denote: a one, or a zero for the least exponent, and
a fraction behind it, times a power of two. A pattern whose exponent bits are all set denotes
none. -/
def FloatFormat.rational? (f : FloatFormat) (bits : ℕ) : Option ℚ :=
  let sign : ℚ := if f.isNegative bits then -1 else 1
  let fraction : ℚ := f.fraction bits / 2 ^ f.fractionBits
  let bias : ℤ := 2 ^ (f.exponentBits - 1) - 1
  let exponent := f.biasedExponent bits
  if exponent = 2 ^ f.exponentBits - 1 then none
  else if exponent = 0 then some (sign * fraction * 2 ^ (1 - bias))
  else some (sign * (1 + fraction) * 2 ^ (exponent - bias))

/-- The number that a finite value denotes. -/
def FloatValue.rational? : FloatValue → Option ℚ
  | .finite negative mantissa exponent =>
    some ((if negative then -1 else 1) * (mantissa * 2 ^ exponent))
  | _ => none

/-- A pattern is decoded to the number that it denotes. -/
theorem FloatFormat.rational?_decode (f : FloatFormat) (bits : ℕ) :
    (f.decode bits).rational? = f.rational? bits := by
  have hfield : (2 : ℚ) ^ f.fractionBits ≠ 0 := pow_ne_zero _ two_ne_zero
  have hplace (e : ℤ) : (2 : ℚ) ^ (e - f.fractionBits) = 2 ^ e / 2 ^ f.fractionBits := by
    rw [zpow_sub₀ two_ne_zero, zpow_natCast]
  have hleast : f.minExponent = 1 - (2 ^ (f.exponentBits - 1) - 1) - f.fractionBits := by
    rw [minExponent, Nat.one_shiftLeft]
    push_cast
    ring
  rw [decode, rational?, Nat.one_shiftLeft, Nat.one_shiftLeft]
  by_cases hfull : f.biasedExponent bits = 2 ^ f.exponentBits - 1
  · rw [if_pos hfull, if_pos hfull]
    split <;> rfl
  · rw [if_neg hfull, if_neg hfull]
    by_cases hzero : f.biasedExponent bits = 0
    · rw [if_pos hzero, if_pos hzero, FloatValue.rational?, hleast, hplace]
      congr 1
      ring
    · have hexponent : f.minExponent + ((f.biasedExponent bits - 1 : ℕ) : ℤ) =
          f.biasedExponent bits - (2 ^ (f.exponentBits - 1) - 1) - f.fractionBits := by
        rw [hleast, Nat.cast_sub (Nat.one_le_iff_ne_zero.mpr hzero)]
        push_cast
        ring
      rw [if_neg hzero, if_neg hzero, FloatValue.rational?, hexponent, hplace]
      congr 1
      push_cast
      field_simp

/-- To shift a mantissa is to take the integer part of what it makes with its exponent. -/
theorem floor_mantissa (mantissa : ℕ) (exponent : ℤ) :
    ⌊(mantissa : ℚ) * 2 ^ exponent⌋ =
      ((mantissa <<< exponent.toNat) >>> (-exponent).toNat : ℕ) := by
  rw [Nat.shiftLeft_eq, Nat.shiftRight_eq_div_pow]
  cases exponent with
  | ofNat k =>
    have hwhole : (mantissa : ℚ) * 2 ^ (Int.ofNat k) = ((mantissa * 2 ^ k : ℕ) : ℚ) := by
      push_cast
      rw [Int.ofNat_eq_natCast, zpow_natCast]
    rw [hwhole, Int.floor_natCast]
    simp
  | negSucc k =>
    have hquotient : (mantissa : ℚ) * 2 ^ (Int.negSucc k) =
        ((mantissa : ℤ) : ℚ) / ((2 ^ (k + 1) : ℕ) : ℚ) := by
      rw [zpow_negSucc, ← div_eq_mul_inv]
      push_cast
      rfl
    rw [hquotient, Rat.floor_intCast_div_natCast]
    simp

/-- The whole part that is taken of a number is its integer part toward zero. -/
theorem FloatValue.truncate?_of_rational {value : FloatValue} {q : ℚ}
    (h : value.rational? = some q) : value.truncate? = some (towardZero q) := by
  cases value with
  | nan | infinite => cases h
  | finite negative mantissa exponent =>
    obtain rfl := Option.some.inj h
    have hfloor := floor_mantissa mantissa exponent
    have hnonneg : (0 : ℚ) ≤ mantissa * 2 ^ exponent := by positivity
    generalize (mantissa : ℚ) * 2 ^ exponent = a at hfloor hnonneg
    rw [truncate?]
    rw [← hfloor]
    congr 1
    cases negative with
    | false =>
      simp only [Bool.false_eq_true, if_false, one_mul]
      rw [towardZero, if_neg (not_lt.mpr hnonneg)]
    | true =>
      simp only [if_true, neg_one_mul]
      rw [towardZero]
      split
      · rw [Int.ceil_neg]
      · have hzero : a = 0 := by linarith
        rw [hzero]
        simp

/-! ### The two stages -/

/-- The number that a floating-point one stands for. -/
def Number.rational? : Number → Option ℚ
  | single x => binary32.rational? x.bits.toNat
  | double x => binary64.rational? x.bits.toNat
  | _ => none

namespace IntegerFormat

/-- The integers of 64 bits with a sign. -/
def word : IntegerFormat := ⟨8, true⟩

/-- The integer of the range that is nearest to a given one. -/
def saturate (f : IntegerFormat) (i : ℤ) : ℤ := max f.least (min (f.least + f.count - 1) i)

variable {f : IntegerFormat} {i j : ℤ}

theorem contains_saturate (f : IntegerFormat) (i : ℤ) : f.Contains (f.saturate i) := by
  have hpos := f.count_pos
  unfold Contains saturate
  omega

theorem saturate_of_contains (h : f.Contains i) : f.saturate i = i := by
  obtain ⟨hlow, hhigh⟩ := h
  unfold saturate
  omega

/-- Integers of a range that are congruent are the same. -/
theorem eq_of_contains (hi : f.Contains i) (hj : f.Contains j) (h : i % f.count = j % f.count) :
    i = j := by
  rw [← reduce_of_contains hi, ← reduce_of_contains hj, reduce_congr h]

end IntegerFormat

theorem toInt_clampInt64 (i : ℤ) : (clampInt64 i).toInt = IntegerFormat.word.saturate i := by
  have hleast : Int64.minValue.toInt = IntegerFormat.word.least := by decide
  have hgreatest : Int64.maxValue.toInt =
      IntegerFormat.word.least + IntegerFormat.word.count - 1 := by decide
  obtain ⟨hlow, hhigh⟩ := IntegerFormat.word.contains_saturate i
  rw [clampInt64, hleast, hgreatest]
  exact Int64.toInt_ofInt_of_le hlow hhigh

theorem Binary32.toInt64_of_truncate? {x : Binary32} {i : ℤ} (h : x.value.truncate? = some i) :
    x.toInt64 = clampInt64 i := by
  rw [toInt64]
  cases hvalue : x.value with
  | nan | infinite =>
    rw [hvalue] at h
    cases h
  | finite negative mantissa exponent =>
    rw [hvalue] at h
    simp only [h, Option.getD_some]

theorem Binary64.toInt64_of_truncate? {x : Binary64} {i : ℤ} (h : x.value.truncate? = some i) :
    x.toInt64 = clampInt64 i := by
  rw [toInt64]
  cases hvalue : x.value with
  | nan | infinite =>
    rw [hvalue] at h
    cases h
  | finite negative mantissa exponent =>
    rw [hvalue] at h
    simp only [h, Option.getD_some]

/-- The first stage takes the whole part and clamps it to 64 bits. -/
theorem Number.toInt64_of_rational {n : Number} {q : ℚ} (h : n.rational? = some q) :
    n.toInt64.toInt = IntegerFormat.word.saturate (towardZero q) := by
  cases n with
  | int8 | int16 | int32 | int64 => cases h
  | single x =>
    have hvalue : x.value.rational? = some q := (binary32.rational?_decode _).trans h
    have hclamp := Binary32.toInt64_of_truncate? (FloatValue.truncate?_of_rational hvalue)
    rw [toInt64, hclamp, toInt_clampInt64]
  | double x =>
    have hvalue : x.value.rational? = some q := (binary64.rational?_decode _).trans h
    have hclamp := Binary64.toInt64_of_truncate? (FloatValue.truncate?_of_rational hvalue)
    rw [toInt64, hclamp, toInt_clampInt64]

namespace IntegerFormat

variable {f : IntegerFormat} {i stored : ℤ}

theorem least_word : word.least = -0x8000000000000000 := by decide

theorem count_word : word.count = 0x10000000000000000 := by decide

/-- Of the types of eight bytes, only the one with a sign ends where the first stage does. -/
theorem reaches_end_of_word (hbytes : f.bytes = 8) (hstored : f.Contains stored)
    (hcongr : stored % f.count = word.saturate i % f.count) :
    stored = f.saturate i ↔ f.signed = true ∨ word.Contains i ∧ f.Contains i := by
  have hcount : f.count = 0x10000000000000000 := by
    rw [count, hbytes]
    rfl
  cases hsigned : f.signed with
  | true =>
    have hends : word.saturate i = f.saturate i := by
      rw [saturate, saturate, least_word, count_word, least, if_pos hsigned, hcount]
      rfl
    rw [hends] at hcongr
    exact iff_of_true (eq_of_contains hstored (f.contains_saturate i) hcongr) (.inl rfl)
  | false =>
    have hleast : f.least = 0 := by
      rw [least, hsigned]
      rfl
    simp only [Contains, saturate, least_word, count_word, hleast, hcount] at hstored hcongr ⊢
    simp only [Bool.false_eq_true, false_or]
    omega

/-- Past 64 bits, the first stage leaves all low bits set above and none below. -/
theorem reaches_end_past_word (hbytes : f.bytes = 1 ∨ f.bytes = 2 ∨ f.bytes = 4)
    (hpast : ¬ word.Contains i) (hstored : f.Contains stored)
    (hcongr : stored % f.count = word.saturate i % f.count) :
    stored = f.saturate i ↔ f.signed = false := by
  have hcount : f.count = 0x100 ∨ f.count = 0x10000 ∨ f.count = 0x100000000 := by
    rw [count]
    rcases hbytes with h | h | h <;> rw [h] <;> decide
  have hleast : f.least = if f.signed then -(f.count / 2) else 0 := rfl
  simp only [Contains, saturate, least_word, count_word] at hpast hstored hcongr ⊢
  cases hsigned : f.signed with
  | true =>
    rw [hsigned, if_pos rfl] at hleast
    simp only [Bool.true_eq_false, iff_false]
    rcases hcount with h | h | h <;> rw [h] at hstored hcongr hleast ⊢ <;> omega
  | false =>
    rw [hsigned, if_neg Bool.false_ne_true] at hleast
    simp only [iff_true]
    rcases hcount with h | h | h <;> rw [h] at hstored hcongr ⊢ <;> omega

end IntegerFormat

namespace DataBuffer

variable {b : DataBuffer} {n : Number} {f : IntegerFormat} {slot : Bytes} {q : ℚ}

open IntegerFormat (word)

/-- The whole part of a floating-point number is clamped to 64 bits, and the integer of the type
that is congruent to the outcome is stored: not always the nearest one, where the type cannot hold
it. -/
theorem whole_part_stored (hq : n.rational? = some q) (hf : b.type.integer? = some f)
    (hslot : b.slot = some slot) (hroom : f.bytes ≤ slot.length) :
    ∃ (b' : DataBuffer) (stored : ℤ), b.putNumber n = (.success, b') ∧
      b'.slot = some (LittleEndian.encode f.bytes (stored % f.count).toNat ++ slot.drop f.bytes) ∧
      f.Contains stored ∧
      stored % f.count = word.saturate (towardZero q) % f.count ∧
      (f.Contains (towardZero q) → word.Contains (towardZero q) → stored = towardZero q) ∧
      (f.bytes = 8 → (stored = f.saturate (towardZero q) ↔
        f.signed = true ∨ word.Contains (towardZero q) ∧ f.Contains (towardZero q))) ∧
      (f.bytes < 8 → ¬ word.Contains (towardZero q) →
        (stored = f.saturate (towardZero q) ↔ f.signed = false)) ∧
      (word.Contains (towardZero q) → (stored = f.saturate (towardZero q) ↔
        towardZero q % f.count = f.saturate (towardZero q) % f.count)) := by
  have hpast (hnarrow : f.bytes < 8) : f.bytes = 1 ∨ f.bytes = 2 ∨ f.bytes = 4 := by
    rcases BindingType.bytes_of_integer? hf with h | h | h | h <;> omega
  obtain ⟨b', hput, hbytes, -⟩ := putNumber_reduces n hf hslot hroom
  rw [Number.toInt64_of_rational hq] at hbytes
  generalize towardZero q = whole at hbytes ⊢
  have hstored := f.contains_reduce (word.saturate whole)
  have hcongr := f.reduce_emod (word.saturate whole)
  refine ⟨b', f.reduce (word.saturate whole), hput, ?_, hstored, hcongr, ?_,
    fun hlong => IntegerFormat.reaches_end_of_word hlong hstored hcongr,
    fun hnarrow hfar =>
      IntegerFormat.reaches_end_past_word (hpast hnarrow) hfar hstored hcongr, ?_⟩
  · rw [hcongr, hbytes]
  · intro hcontains hnear
    rw [IntegerFormat.saturate_of_contains hnear, IntegerFormat.reduce_of_contains hcontains]
  · intro hnear
    rw [IntegerFormat.saturate_of_contains hnear] at hstored hcongr ⊢
    constructor
    · intro hend
      rw [← hcongr, hend]
    · intro hsame
      exact IntegerFormat.eq_of_contains hstored (f.contains_saturate whole) (hcongr.trans hsame)

/-- A number whose whole part is minus three, in two bytes with a sign. -/
theorem whole_part_stored_negative :
    Number.rational? (.double ⟨0xC00E000000000000⟩) = some (-15 / 4) ∧
    ∃ b', putNumber ⟨.signedShort, some [9, 9], none⟩ (.double ⟨0xC00E000000000000⟩) =
      (.success, b') ∧ b'.slot = some [0xFD, 0xFF] := by
  have hq : Number.rational? (.double ⟨0xC00E000000000000⟩) = some (-15 / 4) := by
    have hnegative : binary64.isNegative 0xC00E000000000000 = true := by decide
    have hexponent : binary64.biasedExponent 0xC00E000000000000 = 1024 := by decide
    have hfraction : binary64.fraction 0xC00E000000000000 = 0xE000000000000 := by decide
    show binary64.rational? 0xC00E000000000000 = _
    rw [FloatFormat.rational?, hnegative, hexponent, hfraction]
    norm_num [binary64]
  have hwhole : towardZero (-15 / 4) = -3 := by
    rw [towardZero, if_pos (by norm_num), Int.ceil_eq_iff]
    norm_num
  obtain ⟨b', stored, hput, hslot, -, -, hkept, -⟩ := whole_part_stored
    (b := ⟨.signedShort, some [9, 9], none⟩) (f := ⟨2, true⟩) hq rfl rfl (by decide)
  rw [hwhole] at hkept
  have hstored : stored = -3 := hkept (by decide) (by decide)
  rw [hstored] at hslot
  exact ⟨hq, b', hput, hslot⟩

/-- Of forty thousand, two bytes with a sign do not keep their greatest integer. -/
theorem wide_whole_part_wraps :
    ¬ ∀ (b : DataBuffer) (n : Number) (f : IntegerFormat) (slot : Bytes) (q : ℚ),
      n.rational? = some q → b.type.integer? = some f → b.slot = some slot →
        f.bytes ≤ slot.length → ∃ b', b.putNumber n = (.success, b') ∧
          b'.slot = some (LittleEndian.encode f.bytes (f.saturate (towardZero q) % f.count).toNat ++
            slot.drop f.bytes) := by
  intro hall
  have hq : Number.rational? (.double ⟨0x40E3880000000000⟩) = some 40000 := by
    have hnegative : binary64.isNegative 0x40E3880000000000 = false := by decide
    have hexponent : binary64.biasedExponent 0x40E3880000000000 = 1038 := by decide
    have hfraction : binary64.fraction 0x40E3880000000000 = 0x3880000000000 := by decide
    show binary64.rational? 0x40E3880000000000 = _
    rw [FloatFormat.rational?, hnegative, hexponent, hfraction]
    norm_num [binary64]
  have hwhole : towardZero 40000 = 40000 := by
    rw [towardZero, if_neg (by norm_num), Int.floor_eq_iff]
    norm_num
  have hput : putNumber ⟨.signedShort, some [9, 9], none⟩ (.double ⟨0x40E3880000000000⟩) =
      (.success, ⟨.signedShort, some [0x40, 0x9C], none⟩) := by
    decide
  obtain ⟨b', hput', hslot⟩ := hall ⟨.signedShort, some [9, 9], none⟩ _ ⟨2, true⟩ [9, 9] _ hq
    rfl rfl (by decide)
  rw [hput] at hput'
  obtain rfl := (Prod.mk.inj hput').2
  rw [hwhole] at hslot
  revert hslot
  decide

end DataBuffer

end GridClient
