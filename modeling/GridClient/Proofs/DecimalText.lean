import GridClient.Proofs.LongDivision
import GridClient.Proofs.NumeralPlaces

/-!
The text of a decimal, which denotes exactly its value, and the long division that its digits come
from.
-/
namespace GridClient

/-- Without a minus sign a numeral denotes what its digits do. -/
theorem Numeral.rational?_of_digits {cs : List Char} (h : '-' ∉ cs) :
    rational? cs = unsignedRational? cs := by
  unfold rational?
  split
  · exact absurd (.head _) h
  · rfl

namespace Decimal

variable (d : Decimal)

/-- The number that a decimal denotes. -/
def value : ℚ := d.unscaled * 10 ^ (-d.scale.toInt)

theorem value_neg_iff : d.value < 0 ↔ d.unscaled < 0 := by
  have hpos : (0 : ℚ) < 10 ^ (-d.scale.toInt) := zpow_pos (by norm_num) _
  rw [value, mul_neg_iff, Int.cast_lt_zero]
  constructor
  · rintro (⟨-, hneg⟩ | ⟨hneg, -⟩)
    · exact absurd hneg hpos.not_gt
    · exact hneg
  · exact fun hneg => .inr ⟨hneg, hpos⟩

/-- The text of a decimal is a sign when its value is negative, and digits with as many of them
behind a point as the scale tells. -/
theorem chars_pointed :
    ∃ whole places, d.chars =
        (if d.value < 0 then ['-'] else []) ++ Numeral.pointed whole places ∧
      whole ≠ [] ∧ places.length = d.scale.toInt.toNat ∧
      ∀ c ∈ whole ++ places, c.isDigit = true := by
  obtain ⟨whole, places, hpoint, hne, hlength, hall, -⟩ :=
    Numeral.exists_scaled d.unscaled.natAbs (-d.scale.toInt)
  rw [neg_neg] at hlength
  refine ⟨whole, places, ?_, hne, hlength, hall⟩
  simp only [chars_eq, hpoint, value_neg_iff]

/-- The text of a decimal denotes its value. -/
theorem rational?_chars : Numeral.rational? d.chars = some d.value := by
  have hmagnitude := Numeral.unsignedRational?_scaled d.unscaled.natAbs (-d.scale.toInt)
  rw [chars_eq]
  by_cases hneg : d.unscaled < 0
  · have habs : ((d.unscaled.natAbs : ℕ) : ℚ) = -d.unscaled := by
      rw [Nat.cast_natAbs, abs_of_neg hneg, Int.cast_neg]
    rw [if_pos hneg, List.singleton_append, Numeral.rational?, hmagnitude, Option.map_some, habs,
      neg_mul, neg_neg, value]
  · have habs : ((d.unscaled.natAbs : ℕ) : ℚ) = d.unscaled := by
      rw [Nat.cast_natAbs, abs_of_nonneg (Int.not_lt.mp hneg)]
    have hminus : '-' ∉ Numeral.scaled (Numeral.digits d.unscaled.natAbs) (-d.scale.toInt) := by
      obtain ⟨whole, places, hpoint, -, -, hall, -⟩ :=
        Numeral.exists_scaled d.unscaled.natAbs (-d.scale.toInt)
      rw [hpoint]
      exact Numeral.minus_not_mem_pointed hall
    rw [if_neg hneg, List.nil_append, Numeral.rational?_of_digits hminus, hmagnitude, habs, value]

/-- Without a scale the text is the numeral of the number. -/
theorem chars_of_unscaled (h : d.scale = 0) : d.chars = Numeral.ofInt d.unscaled := by
  have hpower : -d.scale.toInt = 0 := by
    rw [h]
    rfl
  rw [chars_eq, hpower, Numeral.scaled, if_neg (lt_irrefl 0), Numeral.ofInt]
  split <;> simp

/-- The text of a decimal denotes its value, with as many digits behind the point as the scale;
without a scale no numeral is shorter. The long division makes a pass for each digit, within 32
bits. -/
theorem text_exact :
    (∃ whole places, d.text.toList =
        (if d.value < 0 then ['-'] else []) ++ whole ++
          (if 0 < d.scale.toInt then '.' :: places else []) ∧
      whole ≠ [] ∧ (0 < d.scale.toInt → places.length = d.scale.toInt) ∧
      ∀ c ∈ whole ++ places, c.isDigit = true) ∧
    Numeral.rational? d.text.toList = some d.value ∧
    (d.scale = 0 → Numeral.readInt? d.text.toList = some d.unscaled ∧
      ∀ cs, Numeral.readInt? cs = some d.unscaled → d.text.toList.length ≤ cs.length) ∧
    (∀ passes, (BigEndian.tenth^[passes] d.absolute).all (· == 0) = true ↔
      (BigEndian.digitsFromLast d.absolute).length ≤ passes) ∧
    ∀ bytes,
      BigEndian.tenth bytes =
        (BigEndian.dividendWords 0 bytes).map (fun word => (word / 10).toUInt8) ∧
      (BigEndian.dividendWords 0 bytes).map UInt32.toNat = BigEndian.dividends 0 bytes ∧
      (∀ n ∈ BigEndian.dividends 0 bytes, n < 2560) ∧
      (BigEndian.tenth bytes).map UInt8.toNat = (BigEndian.dividends 0 bytes).map (· / 10) := by
  have hten : (0 : UInt32).toNat < 10 := by decide
  rw [text, String.toList_ofList]
  refine ⟨?_, d.rational?_chars, ?_, ?_, ?_⟩
  · obtain ⟨whole, places, hchars, hne, hlength, hall⟩ := d.chars_pointed
    refine ⟨whole, places, ?_, hne, fun hscale => by omega, hall⟩
    have hplaces : places = [] ↔ ¬ 0 < d.scale.toInt := by
      rw [← List.length_eq_zero_iff]
      omega
    rw [hchars, Numeral.pointed, List.append_assoc]
    simp only [hplaces, ite_not]
  · intro hscale
    rw [d.chars_of_unscaled hscale]
    exact ⟨Numeral.readInt?_ofInt d.unscaled, fun cs hread => Numeral.length_ofInt_le hread⟩
  · intro passes
    rw [← BigEndian.decode_eq_zero_iff]
    exact BigEndian.tenths_eq_zero_iff passes d.absolute
  · intro bytes
    exact ⟨BigEndian.divideByTen_words 0 bytes, BigEndian.map_dividendWords hten bytes,
      BigEndian.dividends_lt (by decide) bytes, BigEndian.map_divideByTen hten bytes⟩

end Decimal

end GridClient
