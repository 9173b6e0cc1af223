import GridClient.Bytes
import GridClient.Text.Numeral

/-!
Whole numbers of any length, worked on byte by byte, most significant byte first. Complementing
every byte and carrying a one from the last byte on gives the number of the opposite sign; dividing
by ten over and over gives the decimal digits, the last one first.
-/

namespace GridClient.BigEndian

/-! ### The opposite sign -/

/-- The bytes of the number of the opposite sign in two's complement, and whether a carry goes out
of the first of them. -/
def negateCarrying : Bytes → Bytes × Bool
  | [] => ([], true)
  | b :: bytes =>
    let (low, carry) := negateCarrying bytes
    let sum := (~~~b).toNat + carry.toNat
    (UInt8.ofNat sum :: low, carry && decide (256 ≤ sum))

/-- The bytes of the number of the opposite sign in two's complement. -/
def negate (bytes : Bytes) : Bytes := (negateCarrying bytes).1

theorem length_negate (bytes : Bytes) : (negate bytes).length = bytes.length := by
  induction bytes with
  | nil => rfl
  | cons b bytes ih => exact congrArg (· + 1) ih

/-- A byte and its complement with the carry, and the carry that goes on, make up a full byte and
the carry that came in. -/
theorem toNat_complement (b : UInt8) (carry : Bool) :
    (UInt8.ofNat ((~~~b).toNat + carry.toNat)).toNat + b.toNat +
      256 * (carry && decide (256 ≤ (~~~b).toNat + carry.toNat)).toNat = 255 + carry.toNat := by
  have hb := b.toNat_lt
  rw [UInt8.toNat_ofNat', UInt8.toNat_not, UInt8.size]
  cases carry with
  | false =>
    rw [Bool.false_and, Bool.toNat_false]
    omega
  | true =>
    by_cases hzero : b.toNat = 0
    · rw [hzero]
      rfl
    · have hsmall : ¬ 256 ≤ 256 - 1 - b.toNat + true.toNat := by
        rw [Bool.toNat_true]
        omega
      rw [decide_eq_false hsmall, Bool.and_false, Bool.toNat_false, Bool.toNat_true]
      omega

/-- A number and its opposite make up the count of the words of their length, which is the carry
when the number is zero. -/
theorem decode_negateCarrying (bytes : Bytes) :
    decode (negateCarrying bytes).1 + decode bytes +
      (negateCarrying bytes).2.toNat * wordCount bytes.length = wordCount bytes.length := by
  induction bytes with
  | nil => rfl
  | cons b bytes ih =>
    have hlength : (negateCarrying bytes).1.length = bytes.length := length_negate bytes
    have hsum := toNat_complement b (negateCarrying bytes).2
    simp only [negateCarrying, decode_cons, hlength, List.length_cons, wordCount]
    generalize wordCount bytes.length = count at ih ⊢
    generalize (UInt8.ofNat ((~~~b).toNat + (negateCarrying bytes).2.toNat)).toNat = high at hsum ⊢
    grind

/-! ### Long division -/

/-- The two digits of base 256 that a step of a long division divides: the remainder of the step
before it, and the next byte. -/
def dividend (r : UInt32) (b : UInt8) : UInt32 := r <<< 8 ||| b.toUInt32

theorem toNat_dividend {r : UInt32} (h : r.toNat < 10) (b : UInt8) :
    (dividend r b).toNat = 256 * r.toNat + b.toNat := by
  have hb := b.toNat_lt
  have hshift : (r <<< 8).toNat = r.toNat <<< 8 := by
    rw [UInt32.toNat_shiftLeft]
    exact Nat.mod_eq_of_lt (by rw [Nat.shiftLeft_eq]; simp; omega)
  rw [dividend, UInt32.toNat_or, hshift, UInt8.toNat_toUInt32,
    ← Nat.shiftLeft_add_eq_or_of_lt hb, Nat.shiftLeft_eq, Nat.mul_comm]

theorem toNat_dividend_mod {r : UInt32} (h : r.toNat < 10) (b : UInt8) :
    (dividend r b % 10).toNat = (256 * r.toNat + b.toNat) % 10 := by
  rw [UInt32.toNat_mod, toNat_dividend h]
  rfl

/-- The quotient of a step fits a byte. -/
theorem toNat_dividend_div {r : UInt32} (h : r.toNat < 10) (b : UInt8) :
    (dividend r b / 10).toUInt8.toNat = (256 * r.toNat + b.toNat) / 10 := by
  have hb := b.toNat_lt
  rw [UInt32.toNat_toUInt8, UInt32.toNat_div, toNat_dividend h]
  exact Nat.mod_eq_of_lt (by simp; omega)

/-- One pass of a long division by ten that begins with a remainder: the bytes of the quotient, and
the remainder at the end. -/
def divideByTen : UInt32 → Bytes → Bytes × UInt32
  | r, [] => ([], r)
  | r, b :: bytes =>
    let (quotient, last) := divideByTen (dividend r b % 10) bytes
    ((dividend r b / 10).toUInt8 :: quotient, last)

/-- What a pass leaves of a number. -/
theorem decode_divideByTen {r : UInt32} (h : r.toNat < 10) (bytes : Bytes) :
    (divideByTen r bytes).1.length = bytes.length ∧ (divideByTen r bytes).2.toNat < 10 ∧
      r.toNat * wordCount bytes.length + decode bytes =
        10 * decode (divideByTen r bytes).1 + (divideByTen r bytes).2.toNat := by
  induction bytes generalizing r with
  | nil =>
    refine ⟨rfl, h, ?_⟩
    show r.toNat * 1 + 0 = 10 * 0 + r.toNat
    omega
  | cons b bytes ih =>
    have hr := toNat_dividend_mod h b
    obtain ⟨hlength, hlast, heq⟩ := ih (r := dividend r b % 10) (by omega)
    refine ⟨congrArg (· + 1) hlength, hlast, ?_⟩
    have hsplit := Nat.div_add_mod (256 * r.toNat + b.toNat) 10
    rw [hr] at heq
    simp only [divideByTen, decode_cons, hlength, toNat_dividend_div h, List.length_cons, wordCount]
    generalize (256 * r.toNat + b.toNat) / 10 = high at hsplit ⊢
    generalize (256 * r.toNat + b.toNat) % 10 = low at hsplit heq
    grind

/-- A magnitude divided by ten. -/
def tenth (bytes : Bytes) : Bytes := (divideByTen 0 bytes).1

theorem decode_tenth (bytes : Bytes) : decode (tenth bytes) = decode bytes / 10 := by
  obtain ⟨-, hlast, heq⟩ := decode_divideByTen (r := 0) (by decide) bytes
  rw [UInt32.toNat_zero, Nat.zero_mul, Nat.zero_add] at heq
  rw [tenth]
  omega

theorem toNat_remainder (bytes : Bytes) : (divideByTen 0 bytes).2.toNat = decode bytes % 10 := by
  obtain ⟨-, hlast, heq⟩ := decode_divideByTen (r := 0) (by decide) bytes
  rw [UInt32.toNat_zero, Nat.zero_mul, Nat.zero_add] at heq
  omega

/-- The decimal digits of a magnitude, the last one first, and none of zero. -/
def digitsFromLast (bytes : Bytes) : List Char :=
  if _h : bytes.all (· == 0) then []
  else
    let pass := divideByTen 0 bytes
    Numeral.digit pass.2.toNat :: digitsFromLast pass.1
termination_by decode bytes
decreasing_by
  have hpos : decode bytes ≠ 0 := fun hzero => _h ((decode_eq_zero_iff bytes).mp hzero)
  have htenth := decode_tenth bytes
  rw [tenth] at htenth
  omega

end GridClient.BigEndian
