/-! Decimal numerals: the digits of a number, a point placed among them, and signed integers. -/

namespace GridClient.Numeral

/-- The digit of a value below ten. -/
def digit (n : Nat) : Char := Char.ofNat ('0'.toNat + n)

/-- The value of a digit. -/
def digitValue? (c : Char) : Option Nat :=
  if '0' ≤ c ∧ c ≤ '9' then some (c.toNat - '0'.toNat) else none

/-- A power of ten. -/
def tenTo (power : Nat) : Nat := Nat.pow 10 power

/-- The digits of a number without leading zeros, and one zero for zero. -/
def digits (n : Nat) : List Char :=
  if _h : n < 10 then [digit n] else digits (n / 10) ++ [digit (n % 10)]
termination_by n
decreasing_by omega

/-- The number that a run of digits continues from `value`, refusing anything but digits. -/
def readFrom? : Nat → List Char → Option Nat
  | value, [] => some value
  | value, c :: cs =>
    match digitValue? c with
    | some d => readFrom? (10 * value + d) cs
    | none => none

/-- The value of a run of one or more digits. -/
def read? : List Char → Option Nat
  | [] => none
  | cs => readFrom? 0 cs

/-- The numeral of an integer. -/
def ofInt (i : Int) : List Char :=
  if i < 0 then '-' :: digits i.natAbs else digits i.natAbs

/-- Reads an integer with an optional sign, either of them. -/
def readInt? : List Char → Option Int
  | '-' :: cs => (read? cs).map fun n => -(n : Int)
  | '+' :: cs => (read? cs).map fun n => (n : Int)
  | cs => (read? cs).map fun n => (n : Int)

/-- Reads a natural number with an optional plus sign. -/
def readNat? : List Char → Option Nat
  | '+' :: cs => read? cs
  | cs => read? cs

/-- Digits with a point in front of the last `places` of them, padded with zeros so that one digit
stands before the point. No places, no point. -/
def withPoint (cs : List Char) (places : Nat) : List Char :=
  if places = 0 then cs
  else
    let padded := List.replicate (places + 1 - cs.length) '0' ++ cs
    padded.take (padded.length - places) ++ '.' :: padded.drop (padded.length - places)

/-- Digits times a power of ten, written out: zeros appended or a point placed. -/
def scaled (cs : List Char) (power : Int) : List Char :=
  if power < 0 then withPoint cs power.natAbs else cs ++ List.replicate power.toNat '0'

end GridClient.Numeral
