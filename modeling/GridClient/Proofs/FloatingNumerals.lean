import Mathlib.Data.List.TakeDrop
import Mathlib.Data.List.TakeWhile
import GridClient.Proofs.NumeralReading

/-!
Whole numerals as the numbers that a buffer takes for them. A numeral below 2 to the 63rd is read as
that number. One past that is read as the floating-point number next to it, and the whole part of
that is clamped.
-/
namespace GridClient

/-! ### Rounding -/

namespace FloatFormat

/-- The numbers of 64 bits with the highest bit set have their last place at the eleventh power of
two. -/
theorem placeOf_of_top {n : Nat} (hlow : 0x8000000000000000 ≤ n)
    (hhigh : n < 0x10000000000000000) : binary64.placeOf n 1 = 11 := by
  have hlog : n.log2 = 63 := (Nat.log2_eq_iff (by omega)).mpr ⟨hlow, hhigh⟩
  have hone : Nat.log2 1 = 0 := by decide
  have hfull : 1 <<< 63 ≤ n <<< 0 := hlow
  unfold placeOf
  simp only [hlog, hone]
  exact congrArg (max binary64.minExponent) (if_pos hfull)

theorem roundQuotient_bounds (num den : Nat) (exponent : Int) :
    num <<< (-exponent).toNat / den <<< exponent.toNat ≤ roundQuotient num den exponent ∧
      roundQuotient num den exponent ≤ num <<< (-exponent).toNat / den <<< exponent.toNat + 1 := by
  unfold roundQuotient
  simp only
  split
  · exact ⟨Nat.le_succ _, Nat.le_refl _⟩
  · exact ⟨Nat.le_refl _, Nat.le_succ _⟩

/-- The mantissa of such a number may be rounded up to the next power of two. -/
theorem roundMagnitude_of_top {n : Nat} (hlow : 0x8000000000000000 ≤ n)
    (hhigh : n < 0x10000000000000000) :
    ∃ q, 0x10000000000000 ≤ q ∧ q ≤ 0x20000000000000 ∧
      binary64.roundMagnitude n 1 = 1085 * 0x10000000000000 + q := by
  have hquotient : n <<< (-(11 : Int)).toNat / 1 <<< (11 : Int).toNat = n / 2048 := rfl
  have hbounds := roundQuotient_bounds n 1 11
  rw [hquotient] at hbounds
  refine ⟨roundQuotient n 1 11, by omega, by omega, ?_⟩
  have hinfinity : binary64.infinity = 0x7FF0000000000000 := by decide
  have hplace : (11 - binary64.minExponent).toNat <<< binary64.fractionBits =
      1085 * 0x10000000000000 := by decide
  unfold roundMagnitude
  rw [if_neg (by omega), placeOf_of_top hlow hhigh]
  simp only [hplace, hinfinity]
  omega

end FloatFormat

namespace Binary64

theorem ofDecimal_of_top {n : Nat} (hlow : 0x8000000000000000 ≤ n)
    (hhigh : n < 0x10000000000000000) :
    ∃ q, 0x10000000000000 ≤ q ∧ q ≤ 0x20000000000000 ∧
      ofDecimal false n 0 = ⟨UInt64.ofNat (1085 * 0x10000000000000 + q)⟩ := by
  obtain ⟨q, hq, hq', hround⟩ := FloatFormat.roundMagnitude_of_top hlow hhigh
  refine ⟨q, hq, hq', ?_⟩
  have hone : Numeral.tenTo (0 : Int).toNat = 1 := rfl
  have hreach : ((1 <<< binary64.exponentBits : Nat) : Int) = 2048 := by decide
  rw [ofDecimal, FloatFormat.ofDecimal]
  simp only [hreach]
  rw [if_neg (by omega), if_neg (by omega), if_neg (by omega), Int.neg_zero, hone, Nat.mul_one,
    FloatFormat.round, hround]
  rfl

/-! ### Whole parts -/

theorem value_of_top {q : Nat} (hlow : 0x10000000000000 ≤ q) (hhigh : q ≤ 0x20000000000000) :
    ∃ m e : Nat, 0x8000000000000000 ≤ m <<< e ∧
      value ⟨UInt64.ofNat (1085 * 0x10000000000000 + q)⟩ = .finite false m e := by
  have hbits : (UInt64.ofNat (1085 * 0x10000000000000 + q)).toNat = 1085 * 0x10000000000000 + q :=
    UInt64.toNat_ofNat_of_lt' (by simp only [UInt64.size]; omega)
  rw [value, hbits]
  generalize hpattern : 1085 * 0x10000000000000 + q = bits
  have hexponent : binary64.biasedExponent bits = bits / 0x10000000000000 % 2048 := by
    rw [FloatFormat.biasedExponent, Nat.shiftRight_eq_div_pow]
    rfl
  have hnegative : binary64.isNegative bits = false := by
    have hsign : bits / binary64.signBit = 0 := Nat.div_eq_of_lt (by
      show bits < 0x8000000000000000
      omega)
    rw [FloatFormat.isNegative, hsign]
    rfl
  -- a mantissa that was rounded up has moved the exponent by one
  obtain ⟨e, he, hcases⟩ : ∃ e, bits / 0x10000000000000 % 2048 = 1075 + e ∧ (e = 11 ∨ e = 12) :=
    ⟨bits / 0x10000000000000 % 2048 - 1075, by omega, by omega⟩
  refine ⟨(1 <<< binary64.fractionBits) + binary64.fraction bits, e, ?_, ?_⟩
  · have hmantissa : 0x10000000000000 ≤ (1 <<< binary64.fractionBits) + binary64.fraction bits :=
      Nat.le_add_right _ _
    rw [Nat.shiftLeft_eq]
    rcases hcases with rfl | rfl <;> omega
  · have hleast : binary64.minExponent = -1074 := by decide
    have hgreatest : (1 <<< binary64.exponentBits) - 1 = 2047 := by decide
    rw [FloatFormat.decode, hexponent, he, hnegative, hgreatest, if_neg (by omega),
      if_neg (by omega), hleast]
    congr 1
    omega

theorem toInt64_of_large {x : Binary64} {m e : Nat} (hvalue : x.value = .finite false m e)
    (hlarge : 0x8000000000000000 ≤ m <<< e) : x.toInt64 = Int64.maxValue := by
  have hgreatest : Int64.maxValue.toInt = 0x7FFFFFFFFFFFFFFF := by decide
  have hleast : Int64.minValue.toInt = -0x8000000000000000 := by decide
  have hwhole : (-(e : Int)).toNat = 0 := by omega
  have htruncate : (FloatValue.finite false m e).truncate? = some ((m <<< e : Nat) : Int) := by
    simp only [FloatValue.truncate?, Int.toNat_natCast, hwhole, Nat.shiftRight_zero]
    rfl
  have hclamp : max Int64.minValue.toInt (min Int64.maxValue.toInt ((m <<< e : Nat) : Int)) =
      Int64.maxValue.toInt := by
    omega
  rw [toInt64, hvalue]
  simp only [htruncate, Option.getD_some]
  rw [clampInt64, hclamp, Int64.ofInt_toInt]

/-! ### Numerals -/

theorem read?_numeral (n : Nat) : read? (Numeral.digits n) = some (ofDecimal false n 0) := by
  have hdigit : ∀ c ∈ Numeral.digits n, c.isDigit = true ∧ c ≠ '-' ∧ c ≠ '+' :=
    Numeral.forall_mem_digits (by decide) n
  have hspan : spanDigits (Numeral.digits n) = (Numeral.digits n, []) := by
    rw [spanDigits, List.span_eq_takeWhile_dropWhile,
      List.takeWhile_eq_self_iff.mpr fun c hc => (hdigit c hc).1,
      List.dropWhile_eq_nil_iff.mpr fun c hc => (hdigit c hc).1]
  have hdecimal : readDecimal? (Numeral.digits n) = some (n, 0) := by
    have hne : (Numeral.digits n).isEmpty = false :=
      List.isEmpty_eq_false_iff.mpr (Numeral.digits_ne_nil n)
    rw [readDecimal?, hspan]
    simp only [hne, Bool.false_and, Bool.false_eq_true, if_false, readExponent?, List.append_nil,
      digitsValue, Numeral.readFrom?_digits, Option.getD_some]
    rfl
  unfold read?
  split
  · rename_i cs hcs
    exact absurd rfl (hdigit '-' (by rw [hcs]; exact .head _)).2.1
  · rename_i cs hcs
    exact absurd rfl (hdigit '+' (by rw [hcs]; exact .head _)).2.2
  · rw [readMagnitude?, hdecimal]

end Binary64

namespace Number

/-- A numeral that fits is taken as its number. -/
theorem read_digits {n : Nat} (h : n < 0x8000000000000000) :
    read false (Numeral.digits n) = int64 (Int64.ofNat n) := by
  have hvalue : (Int64.ofNat n).toInt = n := Int64.toInt_ofNat_of_lt h
  have hread := read_ofInt (Int64.ofNat n)
  rwa [hvalue, Numeral.ofInt, if_neg (by omega), Int.natAbs_natCast] at hread

/-- A numeral of 64 bits that does not fit is taken as the greatest number that does. -/
theorem toInt64_read_digits {n : Nat} (hlow : 0x8000000000000000 ≤ n)
    (hhigh : n < 0x10000000000000000) :
    (read false (Numeral.digits n)).toInt64 = Int64.maxValue := by
  have hblank : ∀ c ∈ Numeral.digits n, Text.isBlank c = false :=
    Numeral.forall_mem_digits (by decide) n
  have hunread : readInt64? (Numeral.digits n) = none := by
    rw [readInt64?, Numeral.readInt?_digits]
    simp only
    rw [if_neg (by omega)]
  obtain ⟨q, hq, hq', hfloat⟩ := Binary64.ofDecimal_of_top hlow hhigh
  obtain ⟨m, e, hlarge, hvalue⟩ := Binary64.value_of_top hq hq'
  rw [read, Text.trim_of_not_blank hblank]
  simp only [hunread, Binary64.read?_numeral, Option.getD_some, hfloat]
  exact Binary64.toInt64_of_large hvalue hlarge

end Number

end GridClient
