import GridClient.Floating.Format

/-!
The shortest decimal text of a floating-point number: of all decimals that round to it, one with
the fewest digits, and of those the nearest. Every comparison is between natural numbers.
-/

namespace GridClient

/-- A positive number with the bounds of what rounds to it, all over one denominator. -/
structure RoundingInterval where
  low : Nat
  value : Nat
  high : Nat
  den : Nat
  /-- Whether the bounds themselves round to the value. -/
  closed : Bool

namespace RoundingInterval

open Numeral (tenTo)

/-- The interval of `mantissa * 2 ^ exponent` in a format. The gap below a power of two is half
as wide as the gap above it. -/
def ofFinite (f : FloatFormat) (mantissa : Nat) (exponent : Int) : RoundingInterval :=
  let scale := 1 <<< (exponent - 2).toNat
  { low := (4 * mantissa - if mantissa = 1 <<< f.fractionBits then 1 else 2) * scale
    value := 4 * mantissa * scale
    high := (4 * mantissa + 2) * scale
    den := 1 <<< (2 - exponent).toNat
    closed := mantissa % 2 = 0 }

variable (i : RoundingInterval)

/-- The power of ten above the value: `10 ^ (order - 1) ≤ value < 10 ^ order`. -/
def order : Int :=
  let guess : Int := (Numeral.digits i.value).length - (Numeral.digits i.den).length
  if i.den * tenTo guess.toNat ≤ i.value * tenTo (-guess).toNat then guess + 1 else guess

/-- Whether the decimal `digits * 10 ^ power` lies in the interval. -/
def contains (digits : Nat) (power : Int) : Bool :=
  let point := digits * (i.den * tenTo power.toNat)
  let unit := tenTo (-power).toNat
  if i.closed then i.low * unit ≤ point && point ≤ i.high * unit
  else i.low * unit < point && point < i.high * unit

/-- The multiple of `10 ^ power` next below the value. -/
def floorAt (power : Int) : Nat :=
  i.value * tenTo (-power).toNat / (i.den * tenTo power.toNat)

/-- Whether the multiple of `10 ^ power` next above the value is at least as near as the one
below it. -/
def isNearerAbove (power : Int) : Bool :=
  let value := i.value * tenTo (-power).toNat
  let step := i.den * tenTo power.toNat
  step ≤ 2 * (value % step)

/-- The neighbour of the value among the multiples of `10 ^ power` that lies in the interval, the
nearer one if both do, and of two equally near ones the upper. -/
def neighbour? (power : Int) : Option Nat :=
  let below := i.floorAt power
  match i.contains below power, i.contains (below + 1) power with
  | true, true => some (if i.isNearerAbove power then below + 1 else below)
  | true, false => some below
  | false, true => some (below + 1)
  | false, false => none

/-- Tries ever finer grids, from `power` down, at most `fuel` of them. -/
def search : Nat → Int → Nat × Int
  | 0, power => (i.floorAt power, power)
  | fuel + 1, power =>
    match i.neighbour? power with
    | some digits => (digits, power)
    | none => search fuel (power - 1)

/-- The shortest decimal in the interval, without a zero at its end. Seventeen digits tell any two
numbers of the formats in use apart, so the search ends by finding one; a zero at the end can only
come from a nine that went up to ten on the first grid. -/
def shortest : Nat × Int :=
  let (digits, power) := i.search 17 (i.order - 1)
  if digits % 10 = 0 then (digits / 10, power + 1) else (digits, power)

end RoundingInterval

namespace FloatFormat

/-- The text of a pattern: a sign, then the shortest digits written out without an exponent. -/
def text (f : FloatFormat) (bits : Nat) : List Char :=
  match f.decode bits with
  | .nan => ['N', 'a', 'N']
  | .infinite negative => (if negative then ['-'] else []) ++ ['i', 'n', 'f']
  | .finite negative mantissa exponent =>
    let magnitude :=
      if mantissa = 0 then ['0']
      else
        let (digits, power) := (RoundingInterval.ofFinite f mantissa exponent).shortest
        Numeral.scaled (Numeral.digits digits) power
    (if negative then ['-'] else []) ++ magnitude

end FloatFormat

end GridClient
