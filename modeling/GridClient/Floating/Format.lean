import GridClient.Text.Numeral

/-!
Binary floating-point formats. A format is two field widths; its bit patterns are natural
numbers. `decode` says what a pattern denotes, exactly, and `round` finds the pattern nearest to
a ratio, ties to the even one.
-/

namespace GridClient

/-- A binary interchange format: the widths of the fraction and exponent fields. -/
structure FloatFormat where
  fractionBits : Nat
  exponentBits : Nat
  deriving DecidableEq, Repr

/-- The number that a bit pattern denotes. -/
inductive FloatValue where
  | nan
  | infinite (negative : Bool)
  /-- The number `mantissa * 2 ^ exponent` with a sign, also of zero. -/
  | finite (negative : Bool) (mantissa : Nat) (exponent : Int)
  deriving DecidableEq, Repr

namespace FloatFormat

variable (f : FloatFormat)

/-- The exponent of the last place of the numbers nearest to zero. -/
def minExponent : Int := 2 - (1 <<< (f.exponentBits - 1) : Nat) - f.fractionBits

/-- The pattern of positive infinity: every exponent bit set. -/
def infinity : Nat := ((1 <<< f.exponentBits) - 1) <<< f.fractionBits

/-- The pattern of the quiet not-a-number with no other fraction bit set. -/
def quietNan : Nat := f.infinity + (1 <<< (f.fractionBits - 1))

/-- The weight of the sign bit. -/
def signBit : Nat := 1 <<< (f.fractionBits + f.exponentBits)

/-- A magnitude pattern with a sign. -/
def signed (negative : Bool) (magnitude : Nat) : Nat :=
  if negative then f.signBit + magnitude else magnitude

/-- The stored fraction of a pattern. -/
def fraction (bits : Nat) : Nat := bits % (1 <<< f.fractionBits)

/-- The biased exponent of a pattern. -/
def biasedExponent (bits : Nat) : Nat := (bits >>> f.fractionBits) % (1 <<< f.exponentBits)

def isNegative (bits : Nat) : Bool := bits / f.signBit % 2 == 1

/-- What a pattern denotes. -/
def decode (bits : Nat) : FloatValue :=
  if f.biasedExponent bits = (1 <<< f.exponentBits) - 1 then
    if f.fraction bits = 0 then .infinite (f.isNegative bits) else .nan
  else if f.biasedExponent bits = 0 then
    .finite (f.isNegative bits) (f.fraction bits) f.minExponent
  else
    .finite (f.isNegative bits) ((1 <<< f.fractionBits) + f.fraction bits)
      (f.minExponent + (f.biasedExponent bits - 1 : Nat))

/-- The quotient `num / (den * 2 ^ exponent)` rounded to a whole number, ties to even. -/
def roundQuotient (num den : Nat) (exponent : Int) : Nat :=
  let n := num <<< (-exponent).toNat
  let d := den <<< exponent.toNat
  let q := n / d
  let r := n % d
  if 2 * r > d ∨ (2 * r = d ∧ q % 2 = 1) then q + 1 else q

/-- The exponent of the last place of a positive ratio in this format: the one that gives it a
full mantissa, and not below the least. -/
def placeOf (num den : Nat) : Int :=
  let guess : Int := (num.log2 : Int) - den.log2 - f.fractionBits
  let full := den <<< (guess.toNat + f.fractionBits) ≤ num <<< (-guess).toNat
  max f.minExponent (if full then guess else guess - 1)

/-- The pattern nearest to the magnitude `num / den`, ties to even, infinity past the greatest.
A mantissa that rounds up to the next power of two carries into the exponent field by itself. -/
def roundMagnitude (num den : Nat) : Nat :=
  if num = 0 then 0
  else
    let place := f.placeOf num den
    min f.infinity
      (((place - f.minExponent).toNat <<< f.fractionBits) + roundQuotient num den place)

/-- The pattern nearest to a ratio with a sign. -/
def round (negative : Bool) (num den : Nat) : Nat := f.signed negative (f.roundMagnitude num den)

/-- The pattern nearest to `mantissa * 2 ^ exponent`. -/
def ofBinary (negative : Bool) (mantissa : Nat) (exponent : Int) : Nat :=
  f.round negative (mantissa <<< exponent.toNat) (1 <<< (-exponent).toNat)

/-- The pattern nearest to `mantissa * 10 ^ power`. A power so far out that the answer is zero or
infinity whatever the mantissa's digits are is not computed. -/
def ofDecimal (negative : Bool) (mantissa : Nat) (power : Int) : Nat :=
  let reach : Int := (1 <<< f.exponentBits : Nat)
  let order : Int := power + (mantissa.log2 + 1 : Nat)
  if mantissa = 0 then f.signed negative 0
  else if power > reach then f.signed negative f.infinity
  else if order < -reach then f.signed negative 0
  else f.round negative (mantissa * Numeral.tenTo power.toNat) (Numeral.tenTo (-power).toNat)

end FloatFormat

namespace FloatValue

/-- The whole part of a number, toward zero; nothing for what is not a number of finite size. -/
def truncate? : FloatValue → Option Int
  | .finite negative mantissa exponent =>
    let magnitude := (mantissa <<< exponent.toNat) >>> (-exponent).toNat
    some (if negative then -(magnitude : Int) else magnitude)
  | _ => none

end FloatValue

end GridClient
