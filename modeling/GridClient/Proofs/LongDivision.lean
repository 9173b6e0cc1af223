import Mathlib.Logic.Function.Iterate
import GridClient.Decimal

/-!
Decimals byte by byte. The bytes of a magnitude hold the absolute value of the number that they
denote in two's complement, and the digits that long division takes from them are the digits of that
value. Each pass takes one digit, and every number it meets on the way fits its word.
-/
namespace GridClient

namespace BigEndian

variable {r : UInt32} {bytes : Bytes}

/-! ### Words -/

/-- The dividends of a pass of a long division by ten, as numbers of any size. -/
def dividends : Nat → Bytes → List Nat
  | _, [] => []
  | r, b :: bytes => (256 * r + b.toNat) :: dividends ((256 * r + b.toNat) % 10) bytes

/-- The words that such a pass holds its dividends in. -/
def dividendWords : UInt32 → Bytes → List UInt32
  | _, [] => []
  | r, b :: bytes => dividend r b :: dividendWords (dividend r b % 10) bytes

theorem dividends_lt {n : Nat} (h : n < 10) (bytes : Bytes) :
    ∀ m ∈ dividends n bytes, m < 2560 := by
  induction bytes generalizing n with
  | nil =>
    intro m hm
    cases hm
  | cons b bytes ih =>
    have hb := b.toNat_lt
    intro m hm
    rcases List.mem_cons.mp hm with rfl | hm
    · omega
    · exact ih (Nat.mod_lt _ (by decide)) m hm

/-- No word of a pass wraps around. -/
theorem map_dividendWords (h : r.toNat < 10) (bytes : Bytes) :
    (dividendWords r bytes).map UInt32.toNat = dividends r.toNat bytes := by
  induction bytes generalizing r with
  | nil => rfl
  | cons b bytes ih =>
    have hr := toNat_dividend_mod h b
    rw [dividendWords, List.map_cons, ih (by omega), toNat_dividend h, hr, dividends]

/-- A pass divides each of its words. -/
theorem divideByTen_words (r : UInt32) (bytes : Bytes) :
    (divideByTen r bytes).1 = (dividendWords r bytes).map fun word => (word / 10).toUInt8 := by
  induction bytes generalizing r with
  | nil => rfl
  | cons b bytes ih =>
    simp only [divideByTen, ih]
    rfl

/-- The quotient of a word that is below 2560 fits a byte. -/
theorem map_divideByTen (h : r.toNat < 10) (bytes : Bytes) :
    (divideByTen r bytes).1.map UInt8.toNat = (dividends r.toNat bytes).map (· / 10) := by
  induction bytes generalizing r with
  | nil => rfl
  | cons b bytes ih =>
    have hr := toNat_dividend_mod h b
    simp only [divideByTen, List.map_cons, ih (r := dividend r b % 10) (by omega), hr,
      toNat_dividend_div h, dividends]

/-! ### Digits -/

theorem digitsFromLast_of_zero (h : decode bytes = 0) : digitsFromLast bytes = [] := by
  rw [digitsFromLast, dif_pos ((decode_eq_zero_iff bytes).mp h)]

theorem digitsFromLast_of_ne_zero (h : decode bytes ≠ 0) :
    digitsFromLast bytes =
      Numeral.digit (decode bytes % 10) :: digitsFromLast (tenth bytes) := by
  rw [digitsFromLast, dif_neg fun hzero => h ((decode_eq_zero_iff bytes).mpr hzero),
    ← toNat_remainder]
  rfl

/-- The digits that the passes take are those of the number, in reverse. -/
theorem reverse_digitsFromLast {n : Nat} (hn : n ≠ 0) (h : decode bytes = n) :
    (digitsFromLast bytes).reverse = Numeral.digits n := by
  induction n using Nat.strongRecOn generalizing bytes with
  | ind n ih =>
    have htenth : decode (tenth bytes) = n / 10 := by rw [decode_tenth, h]
    rw [digitsFromLast_of_ne_zero (h ▸ hn), List.reverse_cons, h, Numeral.digits]
    by_cases hlt : n < 10
    · rw [dif_pos hlt, digitsFromLast_of_zero (by omega), Nat.mod_eq_of_lt hlt]
      rfl
    · rw [dif_neg hlt, ih (n / 10) (by omega) (by omega) htenth]

/-- As many passes as there are digits leave zero, and no fewer do. -/
theorem tenths_eq_zero_iff (passes : Nat) (bytes : Bytes) :
    decode (tenth^[passes] bytes) = 0 ↔ (digitsFromLast bytes).length ≤ passes := by
  induction passes generalizing bytes with
  | zero =>
    by_cases hzero : decode bytes = 0
    · rw [digitsFromLast_of_zero hzero]
      exact iff_of_true hzero (Nat.le_refl 0)
    · rw [digitsFromLast_of_ne_zero hzero]
      exact iff_of_false hzero (Nat.not_succ_le_zero _)
  | succ passes ih =>
    rw [Function.iterate_succ_apply, ih]
    by_cases hzero : decode bytes = 0
    · have htenth : decode (tenth bytes) = 0 := by rw [decode_tenth, hzero]
      rw [digitsFromLast_of_zero hzero, digitsFromLast_of_zero htenth]
      exact iff_of_true (Nat.zero_le _) (Nat.zero_le _)
    · rw [digitsFromLast_of_ne_zero hzero, List.length_cons, Nat.succ_le_succ_iff]

end BigEndian

/-! ### Signs -/

variable (b : UInt8) (bytes : Bytes)

theorem signedBigEndian_of_positive {b : UInt8} (h : b < 0x80) :
    signedBigEndian (b :: bytes) = BigEndian.decode (b :: bytes) := by
  rw [signedBigEndian, if_pos h]

theorem signedBigEndian_of_negative {b : UInt8} (h : ¬ b < 0x80) :
    signedBigEndian (b :: bytes) =
      BigEndian.decode (b :: bytes) - wordCount (bytes.length + 1) := by
  rw [signedBigEndian, if_neg h]
  rfl

/-- With its sign bit set, a magnitude is at least half of the words of its length. -/
theorem half_le_decode {b : UInt8} (h : ¬ b < 0x80) :
    128 * wordCount bytes.length ≤ BigEndian.decode (b :: bytes) := by
  have hb : 128 ≤ b.toNat := by
    rw [UInt8.lt_iff_toNat_lt] at h
    simpa using h
  rw [BigEndian.decode_cons]
  exact Nat.le_trans (Nat.mul_le_mul_right _ hb) (Nat.le_add_right _ _)

/-- Without its sign bit set, it is less than half of them. -/
theorem decode_lt_half {b : UInt8} (h : b < 0x80) :
    BigEndian.decode (b :: bytes) < 128 * wordCount bytes.length := by
  have hb : b.toNat < 128 := by
    rw [UInt8.lt_iff_toNat_lt] at h
    simpa using h
  have hlt := BigEndian.decode_lt bytes
  have hscaled := Nat.mul_le_mul_right (wordCount bytes.length) (Nat.succ_le_of_lt hb)
  rw [Nat.succ_mul] at hscaled
  rw [BigEndian.decode_cons]
  omega

namespace Decimal

variable (d : Decimal)

theorem isNegative_iff : d.isNegative = true ↔ d.unscaled < 0 := by
  obtain ⟨magnitude, scale⟩ := d
  cases magnitude with
  | nil => simp [isNegative, unscaled, signedBigEndian]
  | cons b bytes =>
    have hlt := BigEndian.decode_lt (b :: bytes)
    rw [List.length_cons] at hlt
    simp only [isNegative, unscaled, decide_eq_true_eq, ← UInt8.not_lt]
    by_cases hb : b < 0x80
    · rw [signedBigEndian_of_positive bytes hb]
      exact iff_of_false (not_not_intro hb) (by omega)
    · rw [signedBigEndian_of_negative bytes hb]
      exact iff_of_true hb (by omega)

theorem isZero_iff : d.isZero = true ↔ d.unscaled = 0 := by
  obtain ⟨magnitude, scale⟩ := d
  simp only [isZero, unscaled]
  rw [← BigEndian.decode_eq_zero_iff]
  cases magnitude with
  | nil => exact iff_of_true rfl rfl
  | cons b bytes =>
    have hlt := BigEndian.decode_lt (b :: bytes)
    rw [List.length_cons] at hlt
    by_cases hb : b < 0x80
    · rw [signedBigEndian_of_positive bytes hb]
      omega
    · have hhalf := half_le_decode bytes hb
      have hcount := wordCount_pos bytes.length
      rw [signedBigEndian_of_negative bytes hb]
      omega

/-- The bytes of the absolute value hold the absolute value, also of the least number of their
length. -/
theorem decode_absolute : BigEndian.decode d.absolute = d.unscaled.natAbs := by
  have hnegative := d.isNegative_iff
  obtain ⟨magnitude, scale⟩ := d
  rw [absolute]
  cases magnitude with
  | nil => rfl
  | cons b bytes =>
    have hlt := BigEndian.decode_lt (b :: bytes)
    rw [List.length_cons] at hlt
    by_cases hb : b < 0x80
    · simp only [unscaled, signedBigEndian_of_positive bytes hb] at hnegative ⊢
      rw [if_neg (by rw [hnegative]; omega)]
      omega
    · have hhalf := half_le_decode bytes hb
      have hcount := wordCount_pos bytes.length
      have hopposite := BigEndian.decode_negateCarrying (b :: bytes)
      simp only [unscaled, signedBigEndian_of_negative bytes hb] at hnegative ⊢
      rw [if_pos (by rw [hnegative]; omega), BigEndian.negate]
      rw [List.length_cons] at hopposite
      -- the magnitude is not zero, so no carry goes out of it
      cases hcarry : (BigEndian.negateCarrying (b :: bytes)).2 with
      | false =>
        rw [hcarry, Bool.toNat_false, Nat.zero_mul] at hopposite
        omega
      | true =>
        rw [hcarry, Bool.toNat_true, Nat.one_mul] at hopposite
        omega

/-- The digits of a decimal are those of its absolute value. -/
theorem digits_eq : d.digits = Numeral.digits d.unscaled.natAbs := by
  have hdecode := d.decode_absolute
  rw [digits]
  by_cases hzero : d.unscaled.natAbs = 0
  · rw [BigEndian.digitsFromLast_of_zero (hdecode.trans hzero), hzero, Numeral.digits]
    rfl
  · have hreverse := BigEndian.reverse_digitsFromLast hzero hdecode
    have hne : (BigEndian.digitsFromLast d.absolute).isEmpty = false := by
      rw [BigEndian.digitsFromLast_of_ne_zero (hdecode ▸ hzero)]
      rfl
    simp only [hne, Bool.false_eq_true, if_false, hreverse]

/-- The text of a decimal is the sign of its number and the digits of its absolute value, with the
scale applied to them. -/
theorem chars_eq :
    d.chars = (if d.unscaled < 0 then ['-'] else []) ++
      Numeral.scaled (Numeral.digits d.unscaled.natAbs) (-d.scale.toInt) := by
  have hsign : (d.isNegative && !d.isZero) = true ↔ d.unscaled < 0 := by
    rw [Bool.and_eq_true, Bool.not_eq_true', ← Bool.not_eq_true, d.isNegative_iff, d.isZero_iff]
    omega
  rw [chars, digits_eq]
  simp only [hsign]

end Decimal

end GridClient
