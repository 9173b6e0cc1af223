import GridClient.Bytes.Magnitude
import GridClient.Error
import GridClient.Floating.Basic
import GridClient.Text.Numeral

/-!
Decimal numbers: a whole number of any length, as big-endian two's-complement bytes, and a power
of ten to divide it by.
-/

namespace GridClient

/-- The whole number that big-endian two's-complement bytes hold; no bytes hold zero. -/
def signedBigEndian (bytes : Bytes) : Int :=
  match bytes with
  | [] => 0
  | b :: _ =>
    if b < 0x80 then (BigEndian.decode bytes : Int)
    else (BigEndian.decode bytes : Int) - wordCount bytes.length

/-- Drops the leading bytes that only repeat the sign of the byte after them. -/
def shortenSigned : Bytes → Bytes
  | a :: b :: bytes =>
    if (a = 0 ∧ b < 0x80) ∨ (a = 0xFF ∧ 0x80 ≤ b) then shortenSigned (b :: bytes)
    else a :: b :: bytes
  | bytes => bytes

/-- The number `magnitude * 10 ^ (-scale)`. -/
structure Decimal where
  magnitude : Bytes
  scale : Int32
  deriving DecidableEq, Repr, Inhabited

namespace Decimal

variable (d : Decimal)

/-- The whole number before the scale is applied. -/
def unscaled : Int := signedBigEndian d.magnitude

/-- Whether the first byte has its sign bit set. -/
def isNegative : Bool :=
  match d.magnitude with
  | [] => false
  | b :: _ => 0x80 ≤ b

def isZero : Bool := d.magnitude.all (· == 0)

/-- The decimal of a whole number of 64 bits, in the fewest bytes. -/
def ofInt64 (value : Int64) (scale : Int32) : Decimal :=
  ⟨shortenSigned (BigEndian.encode 8 value.toUInt64.toNat), scale⟩

/-- The bytes of the absolute value before the scale is applied. -/
def absolute : Bytes := if d.isNegative then BigEndian.negate d.magnitude else d.magnitude

/-- The digits of the absolute value before the scale is applied, at least one of them. -/
def digits : List Char :=
  let fromLast := BigEndian.digitsFromLast d.absolute
  if fromLast.isEmpty then ['0'] else fromLast.reverse

/-- The text without an exponent: a sign unless the number is zero, then the digits with `scale`
of them behind a point, or with zeros appended for a negative scale. -/
def chars : List Char :=
  (if d.isNegative && !d.isZero then ['-'] else []) ++ Numeral.scaled d.digits (-d.scale.toInt)

def text : String := String.ofList d.chars

/-- The floating-point number nearest to the decimal. -/
def toBinary64 : Binary64 :=
  Binary64.ofDecimal (decide (d.unscaled < 0)) d.unscaled.natAbs (-d.scale.toInt)

end Decimal

/-- A decimal of bounded size: a 96-bit magnitude with a sign, and at most 28 places. -/
structure BoundedDecimal where
  mantissa : Int
  scale : Nat
  mantissa_lt : mantissa.natAbs < 1 <<< 96 := by decide
  scale_le : scale ≤ 28 := by decide

namespace BoundedDecimal

/-- The bounded decimal of a mantissa and a scale, when both are within bounds. -/
def ofParts? (mantissa : Int) (scale : Nat) : Option BoundedDecimal :=
  if h : mantissa.natAbs < 1 <<< 96 ∧ scale ≤ 28 then some ⟨mantissa, scale, h.1, h.2⟩ else none

end BoundedDecimal

namespace Decimal

/-- The decimal of a mantissa of sixteen bytes and a number of places, in the fewest bytes. -/
def ofParts (mantissa : Int) (places : Nat) : Decimal :=
  ⟨shortenSigned (BigEndian.encode 16 (mantissa % wordCount 16).toNat), Int32.ofInt places⟩

/-- Ten times a whole number, when the product is one of sixteen bytes. -/
def tenfold? (i : Int) : Option Int :=
  if -0x80000000000000000000000000000000 ≤ i * 10 ∧ i * 10 < 0x80000000000000000000000000000000 then
    some (i * 10)
  else none

/-- A whole number multiplied by ten over and over, unless a product on the way takes more than
sixteen bytes. Zero stays zero, however often. -/
def timesTens? : Nat → Int → Option Int
  | 0, i => some i
  | power + 1, i => if i = 0 then some 0 else (tenfold? i).bind (timesTens? power)

variable (d : Decimal)

/-- The magnitude with its sign repeated in front of it, in sixteen bytes. -/
def extended : Bytes :=
  List.replicate (16 - d.magnitude.length) (if d.isNegative then 0xFF else 0) ++ d.magnitude

/-- A mantissa of sixteen bytes and a number of places. A magnitude of more bytes is refused
whatever it holds, and a negative scale is multiplied out. -/
def parts? : Option (Int × Nat) :=
  if 16 < d.magnitude.length then none
  else if d.scale.toInt < 0 then
    (timesTens? d.scale.toInt.natAbs (signedBigEndian d.extended)).map fun mantissa => (mantissa, 0)
  else some (signedBigEndian d.extended, d.scale.toInt.toNat)

/-- The value of a bounded type that accepts some mantissas and numbers of places, or the error that
there is none. -/
def toBoundedBy {α : Type} (accept : Int → Nat → Option α) : Except Error α :=
  match d.parts?.bind fun parts => accept parts.1 parts.2 with
  | some bounded => .ok bounded
  | none => .error (.unsupportedConversion ("decimal " ++ d.text ++ " is out of range"))

/-- The bounded decimal of the same value, or the error that there is none. -/
def toBounded : Except Error BoundedDecimal := d.toBoundedBy BoundedDecimal.ofParts?

end Decimal

/-- The decimal of the same mantissa and scale, in the fewest bytes. -/
def BoundedDecimal.toDecimal (b : BoundedDecimal) : Decimal := Decimal.ofParts b.mantissa b.scale

end GridClient
