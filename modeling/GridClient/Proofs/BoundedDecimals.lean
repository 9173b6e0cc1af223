import GridClient.Proofs.DecimalText
import GridClient.Proofs.SignedBytes

/-!
Decimals as values of a type of bounded decimals, and back. A negative scale is multiplied out step
by step; since no product is smaller than the one before it, a step fails only when the last one
would.
-/
namespace GridClient

variable {i j : ℤ} {power places : ℕ}

theorem FitsBytes.of_mul {width m : ℕ} (h : FitsBytes width (i * m)) (hm : 0 < m) :
    FitsBytes width i := by
  obtain ⟨hlow, hhigh⟩ := h
  have hm : (1 : ℤ) ≤ m := by exact_mod_cast hm
  rcases Int.le_total 0 i with hi | hi
  · have hle := mul_le_mul_of_nonneg_left hm hi
    exact ⟨by omega, by omega⟩
  · have hle := mul_le_mul_of_nonpos_left hm hi
    exact ⟨by omega, by omega⟩

theorem fitsBytes_sixteen_iff : FitsBytes 16 i ↔ -2 ^ 127 ≤ i ∧ i < 2 ^ 127 := by
  have hcount : wordCount 16 = 2 ^ 128 := rfl
  rw [FitsBytes, hcount]
  omega

theorem fitsBytes_of_natAbs_lt (h : i.natAbs < 2 ^ 96) : FitsBytes 16 i := by
  rw [fitsBytes_sixteen_iff]
  omega

namespace Decimal

/-! ### Multiplying by ten -/

theorem tenfold?_eq_some_iff : tenfold? i = some j ↔ j = i * 10 ∧ FitsBytes 16 j := by
  rw [tenfold?, fitsBytes_sixteen_iff, Option.ite_none_right_eq_some, Option.some.injEq]
  constructor
  · rintro ⟨hrange, rfl⟩
    exact ⟨rfl, by omega⟩
  · rintro ⟨rfl, hrange⟩
    exact ⟨by omega, rfl⟩

theorem timesTens?_zero (power : ℕ) : timesTens? power 0 = some 0 := by
  cases power with
  | zero => rfl
  | succ power => rw [timesTens?, if_pos rfl]

/-- Each step multiplies by ten, also when there is nothing to multiply. -/
theorem timesTens?_succ (power : ℕ) (i : ℤ) :
    timesTens? (power + 1) i = (tenfold? i).bind (timesTens? power) := by
  rw [timesTens?]
  split
  case isTrue hzero =>
    rw [hzero, tenfold?_eq_some_iff.mpr ⟨rfl, by decide⟩]
    exact (timesTens?_zero power).symm
  case isFalse => rfl

/-- The steps give the exact product when it fits, and nothing when it does not. -/
theorem timesTens?_eq_some_iff (h : FitsBytes 16 i) :
    timesTens? power i = some j ↔ j = i * 10 ^ power ∧ FitsBytes 16 j := by
  induction power generalizing i with
  | zero =>
    rw [timesTens?, Option.some.injEq, pow_zero, mul_one]
    constructor
    · rintro rfl
      exact ⟨rfl, h⟩
    · exact fun ⟨heq, _⟩ => heq.symm
  | succ power ih =>
    rw [timesTens?_succ, Option.bind_eq_some_iff]
    constructor
    · rintro ⟨k, hk, hj⟩
      obtain ⟨rfl, hfits⟩ := tenfold?_eq_some_iff.mp hk
      rwa [ih hfits, mul_assoc, ← pow_succ'] at hj
    · rintro ⟨rfl, hfits⟩
      -- the first product is no larger than the last one
      have hten : FitsBytes 16 (i * 10) := by
        apply FitsBytes.of_mul _ (Nat.pow_pos (by decide : 0 < 10) : 0 < 10 ^ power)
        rwa [Nat.cast_pow, Nat.cast_ofNat, mul_assoc, ← pow_succ']
      refine ⟨i * 10, tenfold?_eq_some_iff.mpr ⟨rfl, hten⟩, (ih hten).mpr ⟨?_, hfits⟩⟩
      rw [mul_assoc, ← pow_succ']

/-! ### Parts -/

variable (d : Decimal)

/-- The byte that a magnitude is filled up with repeats the sign of its number. -/
theorem fill_eq_signByte :
    (if d.isNegative then (0xFF : UInt8) else 0) = signByte d.unscaled := by
  simp only [d.isNegative_iff, signByte]

theorem signedBigEndian_extended : signedBigEndian d.extended = d.unscaled := by
  rw [extended, fill_eq_signByte]
  exact signedBigEndian_replicate_signByte _ d.magnitude

theorem fitsBytes_unscaled (h : d.magnitude.length ≤ 16) : FitsBytes 16 d.unscaled :=
  (fitsBytes_signedBigEndian d.magnitude).mono h

/-- The mantissa and the number of places of a decimal when a negative scale is multiplied out. -/
def exactParts : ℤ × ℕ :=
  if d.scale.toInt < 0 then (d.unscaled * 10 ^ d.scale.toInt.natAbs, 0)
  else (d.unscaled, d.scale.toInt.toNat)

theorem value_eq_exactParts : d.value = d.exactParts.1 * 10 ^ (-(d.exactParts.2 : ℤ)) := by
  rw [value, exactParts]
  split
  case isTrue hneg =>
    have hpower : -d.scale.toInt = d.scale.toInt.natAbs := by omega
    rw [hpower, zpow_natCast]
    simp
  case isFalse hnonneg =>
    rw [Int.toNat_of_nonneg (Int.not_lt.mp hnonneg)]

/-- The parts of a decimal are the exact ones unless the mantissa takes more than sixteen bytes. -/
theorem parts?_eq_some_iff (h : d.magnitude.length ≤ 16) :
    d.parts? = some (i, places) ↔ d.exactParts = (i, places) ∧ FitsBytes 16 i := by
  have hfits := d.fitsBytes_unscaled h
  rw [parts?, if_neg (Nat.not_lt.mpr h), signedBigEndian_extended, exactParts]
  split
  case isTrue hneg =>
    simp only [Option.map_eq_some_iff, timesTens?_eq_some_iff hfits, Prod.mk.injEq]
    constructor
    · rintro ⟨_, ⟨rfl, hproduct⟩, rfl, rfl⟩
      exact ⟨⟨rfl, rfl⟩, hproduct⟩
    · rintro ⟨⟨rfl, rfl⟩, hproduct⟩
      exact ⟨_, ⟨rfl, hproduct⟩, rfl, rfl⟩
  case isFalse hnonneg =>
    simp only [Option.some.injEq, Prod.mk.injEq]
    constructor
    · rintro ⟨rfl, rfl⟩
      exact ⟨⟨rfl, rfl⟩, hfits⟩
    · exact fun ⟨heq, _⟩ => heq

theorem length_ofParts_le (m : ℤ) (places : ℕ) : (ofParts m places).magnitude.length ≤ 16 := by
  have hfits := fitsBytes_signedBigEndian (BigEndian.encode 16 (m % wordCount 16).toNat)
  rw [BigEndian.length_encode] at hfits
  exact length_shortenSigned_le (by decide) hfits

theorem scale_ofParts {m : ℤ} (h : places ≤ 28) : (ofParts m places).scale.toInt = places := by
  show (Int32.ofInt places).toInt = places
  exact Int32.toInt_ofInt_of_le (by omega) (by omega)

theorem exactParts_ofParts {m : ℤ} (hm : FitsBytes 16 m) (hplaces : places ≤ 28) :
    (ofParts m places).exactParts = (m, places) := by
  rw [exactParts, scale_ofParts hplaces, unscaled, (shortest_ofParts hm places).denotes,
    if_neg (by omega), Int.toNat_natCast]

/-! ### Types of bounded decimals -/

/-- What the conversion relies on: a type of bounded decimals accepts exactly the mantissas of 96
bits with up to 28 places, and keeps both. -/
structure BoundedType {α : Type} (accept : ℤ → ℕ → Option α) (mantissa : α → ℤ)
    (scale : α → ℕ) : Prop where
  accepts : ∀ m places, (accept m places).isSome = true ↔ m.natAbs < 2 ^ 96 ∧ places ≤ 28
  keeps : ∀ m places x, accept m places = some x → mantissa x = m ∧ scale x = places

section

variable {α : Type} {accept : ℤ → ℕ → Option α} {mantissa : α → ℤ} {scale : α → ℕ} {x : α}

theorem toBoundedBy_eq_ok_iff :
    d.toBoundedBy accept = .ok x ↔
      ∃ m places, d.parts? = some (m, places) ∧ accept m places = some x := by
  have hbind : (d.parts?.bind fun parts => accept parts.1 parts.2) = some x ↔
      ∃ m places, d.parts? = some (m, places) ∧ accept m places = some x := by
    rw [Option.bind_eq_some_iff, Prod.exists]
  rw [← hbind, toBoundedBy]
  cases d.parts?.bind fun parts => accept parts.1 parts.2 with
  | none => exact iff_of_false (by simp) (by simp)
  | some y => rw [Except.ok.injEq, Option.some.injEq]

/-- A decimal of up to sixteen bytes is converted when its exact parts are accepted. -/
theorem toBoundedBy_iff_accept (h : BoundedType accept mantissa scale)
    (hlength : d.magnitude.length ≤ 16) :
    d.toBoundedBy accept = .ok x ↔ accept d.exactParts.1 d.exactParts.2 = some x := by
  simp only [toBoundedBy_eq_ok_iff, d.parts?_eq_some_iff hlength]
  constructor
  · rintro ⟨m, places, ⟨hparts, -⟩, hx⟩
    rwa [hparts]
  · intro hx
    have hsmall := ((h.accepts _ _).mp (Option.isSome_of_eq_some hx)).1
    exact ⟨_, _, ⟨rfl, fitsBytes_of_natAbs_lt hsmall⟩, hx⟩

theorem exists_toBoundedBy_iff (h : BoundedType accept mantissa scale)
    (hlength : d.magnitude.length ≤ 16) :
    (∃ x, d.toBoundedBy accept = .ok x) ↔
      d.exactParts.1.natAbs < 2 ^ 96 ∧ d.exactParts.2 ≤ 28 := by
  simp only [d.toBoundedBy_iff_accept h hlength]
  rw [← Option.isSome_iff_exists, h.accepts]

theorem parts_of_toBoundedBy (h : BoundedType accept mantissa scale)
    (hlength : d.magnitude.length ≤ 16) (hx : d.toBoundedBy accept = .ok x) :
    mantissa x = d.exactParts.1 ∧ scale x = d.exactParts.2 :=
  h.keeps _ _ x ((d.toBoundedBy_iff_accept h hlength).mp hx)

/-- A bounded decimal comes back with its mantissa and its places. -/
theorem exists_toBoundedBy_ofParts (h : BoundedType accept mantissa scale) {m : ℤ}
    (hm : m.natAbs < 2 ^ 96) (hplaces : places ≤ 28) :
    ∃ x, (ofParts m places).toBoundedBy accept = .ok x ∧ mantissa x = m ∧ scale x = places := by
  have hparts := exactParts_ofParts (fitsBytes_of_natAbs_lt hm) hplaces
  have hlength := length_ofParts_le m places
  obtain ⟨x, hx⟩ := (exists_toBoundedBy_iff _ h hlength).mpr (hparts ▸ ⟨hm, hplaces⟩)
  have hkept := parts_of_toBoundedBy _ h hlength hx
  rw [hparts] at hkept
  exact ⟨x, hx, hkept⟩

end

/-- The bounded decimals of the library are such a type. -/
theorem boundedType_ofParts? :
    BoundedType BoundedDecimal.ofParts? BoundedDecimal.mantissa BoundedDecimal.scale where
  accepts m places := by
    rw [BoundedDecimal.ofParts?, ← Nat.one_shiftLeft]
    split
    case isTrue hbounds => exact iff_of_true rfl hbounds
    case isFalse hbounds => exact iff_of_false (by simp) hbounds
  keeps m places x hx := by
    rw [BoundedDecimal.ofParts?, Option.dite_none_right_eq_some] at hx
    obtain ⟨hbounds, hx⟩ := hx
    cases hx
    exact ⟨rfl, rfl⟩

/-- A decimal of up to sixteen bytes is converted exactly when its exact parts are within bounds,
and to the bounded decimal that has them. A bounded decimal comes back as it was, from the shortest
bytes of its mantissa. -/
theorem bounded_conversion_exact {α : Type} {accept : ℤ → ℕ → Option α} {mantissa : α → ℤ}
    {scale : α → ℕ} (h : BoundedType accept mantissa scale) :
    (∀ m places, m.natAbs < 2 ^ 96 → places ≤ 28 →
      ShortestSigned (ofParts m places).magnitude m ∧ (ofParts m places).scale.toInt = places ∧
      ∃ x, (ofParts m places).toBoundedBy accept = .ok x ∧ mantissa x = m ∧ scale x = places) ∧
    (∀ v s, ShortestSigned (ofInt64 v s).magnitude v.toInt ∧ (ofInt64 v s).scale = s) ∧
    (∀ d : Decimal, d.magnitude.length ≤ 16 →
      (0 ≤ d.scale.toInt →
        ((∃ x, d.toBoundedBy accept = .ok x) ↔
          d.scale.toInt ≤ 28 ∧ d.unscaled.natAbs < 2 ^ 96) ∧
        ∀ x, d.toBoundedBy accept = .ok x →
          mantissa x = d.unscaled ∧ (scale x : ℤ) = d.scale.toInt) ∧
      (d.scale.toInt < 0 →
        ((∃ x, d.toBoundedBy accept = .ok x) ↔
          (d.unscaled * 10 ^ d.scale.toInt.natAbs).natAbs < 2 ^ 96) ∧
        ∀ x, d.toBoundedBy accept = .ok x →
          mantissa x = d.unscaled * 10 ^ d.scale.toInt.natAbs ∧ scale x = 0) ∧
      ∀ x, d.toBoundedBy accept = .ok x → d.value = mantissa x * 10 ^ (-(scale x : ℤ))) ∧
    ∀ power i, FitsBytes 16 i →
      timesTens? (power + 1) i = (tenfold? i).bind (timesTens? power) ∧
      ∀ j, timesTens? power i = some j ↔ j = i * 10 ^ power ∧ FitsBytes 16 j := by
  refine ⟨fun m places hm hplaces => ?_, fun v s => ⟨shortest_ofInt64 v s, rfl⟩,
    fun d hlength => ?_,
    fun power i hi => ⟨timesTens?_succ power i, fun j => timesTens?_eq_some_iff hi⟩⟩
  · exact ⟨shortest_ofParts (fitsBytes_of_natAbs_lt hm) places, scale_ofParts hplaces,
      exists_toBoundedBy_ofParts h hm hplaces⟩
  · have hexists := d.exists_toBoundedBy_iff h hlength
    have hkept (x : α) := parts_of_toBoundedBy (x := x) d h hlength
    refine ⟨fun hscale => ?_, fun hscale => ?_, fun x hx => ?_⟩
    · have hparts : d.exactParts = (d.unscaled, d.scale.toInt.toNat) :=
        if_neg (Int.not_lt.mpr hscale)
      rw [hparts] at hexists hkept
      have hbounds : d.unscaled.natAbs < 2 ^ 96 ∧ d.scale.toInt.toNat ≤ 28 ↔
          d.scale.toInt ≤ 28 ∧ d.unscaled.natAbs < 2 ^ 96 := by omega
      refine ⟨hexists.trans hbounds, fun x hx => ?_⟩
      obtain ⟨hmantissa, hplaces⟩ := hkept x hx
      exact ⟨hmantissa, by omega⟩
    · have hparts : d.exactParts = (d.unscaled * 10 ^ d.scale.toInt.natAbs, 0) := if_pos hscale
      rw [hparts] at hexists hkept
      exact ⟨hexists.trans (and_iff_left (Nat.zero_le 28)), hkept⟩
    · rw [value_eq_exactParts, (hkept x hx).1, (hkept x hx).2]

/-- Twenty-eight zeros still fit behind a one, and twenty-nine do not. -/
theorem bounded_conversion_exact_zeros :
    BoundedType BoundedDecimal.ofParts? BoundedDecimal.mantissa BoundedDecimal.scale ∧
    (∃ x, (Decimal.mk [1] (-28)).toBounded = .ok x ∧
      x.mantissa = 10000000000000000000000000000 ∧ x.scale = 0) ∧
    ¬ ∃ x, (Decimal.mk [1] (-29)).toBounded = .ok x := by
  obtain ⟨-, -, hconvert, -⟩ := bounded_conversion_exact boundedType_ofParts?
  obtain ⟨-, hfits, -⟩ := hconvert ⟨[1], -28⟩ (by decide)
  obtain ⟨-, hlarge, -⟩ := hconvert ⟨[1], -29⟩ (by decide)
  obtain ⟨hexists, hkept⟩ := hfits (by decide)
  obtain ⟨x, hx⟩ := hexists.mpr (by decide)
  refine ⟨boundedType_ofParts?, ⟨x, hx, ?_⟩, fun hexists => ?_⟩
  · exact hkept x hx
  · exact absurd ((hlarge (by decide)).1.mp hexists) (by decide)

end Decimal

end GridClient
