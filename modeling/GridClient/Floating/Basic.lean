import GridClient.Floating.Shortest

/-! The two floating-point formats in use, as types that hold a bit pattern. -/

namespace GridClient

/-- Four bytes: 23 bits of fraction, 8 of exponent. -/
def binary32 : FloatFormat := ⟨23, 8⟩

/-- Eight bytes: 52 bits of fraction, 11 of exponent. -/
def binary64 : FloatFormat := ⟨52, 11⟩

/-- A number in the four-byte format. -/
structure Binary32 where
  bits : UInt32
  deriving DecidableEq, Repr, Inhabited

/-- A number in the eight-byte format. -/
structure Binary64 where
  bits : UInt64
  deriving DecidableEq, Repr, Inhabited

/-- The whole number of 64 bits nearest to an integer. -/
def clampInt64 (i : Int) : Int64 :=
  Int64.ofInt (max Int64.minValue.toInt (min Int64.maxValue.toInt i))

namespace Binary64

/-- What the pattern denotes. -/
def value (x : Binary64) : FloatValue := binary64.decode x.bits.toNat

/-- Positive zero. -/
def zero : Binary64 := ⟨0⟩

/-- The number nearest to an integer, ties to even. -/
def ofInt (i : Int) : Binary64 := ⟨UInt64.ofNat (binary64.round (decide (i < 0)) i.natAbs 1)⟩

/-- The number nearest to `mantissa * 10 ^ power`, ties to even. -/
def ofDecimal (negative : Bool) (mantissa : Nat) (power : Int) : Binary64 :=
  ⟨UInt64.ofNat (binary64.ofDecimal negative mantissa power)⟩

/-- The whole part, toward zero, clamped to 64 bits; zero for what is not a number. -/
def toInt64 (x : Binary64) : Int64 :=
  match x.value with
  | .nan => 0
  | .infinite negative => if negative then .minValue else .maxValue
  | .finite negative mantissa exponent =>
    clampInt64 (((FloatValue.finite negative mantissa exponent).truncate?).getD 0)

/-- The nearest number of the shorter format, ties to even. What is not a number stays so, quiet,
with the leading bits of its fraction. -/
def toBinary32 (x : Binary64) : Binary32 :=
  let n := x.bits.toNat
  ⟨UInt32.ofNat <|
    match x.value with
    | .nan =>
      binary32.signed (binary64.isNegative n)
        (binary32.quietNan + (binary64.fraction n >>> 29) % (1 <<< 22))
    | .infinite negative => binary32.signed negative binary32.infinity
    | .finite negative mantissa exponent => binary32.ofBinary negative mantissa exponent⟩

def text (x : Binary64) : String := String.ofList (binary64.text x.bits.toNat)

end Binary64

namespace Binary32

/-- What the pattern denotes. -/
def value (x : Binary32) : FloatValue := binary32.decode x.bits.toNat

/-- The same number in the longer format. What is not a number stays so, quiet. -/
def toBinary64 (x : Binary32) : Binary64 :=
  let n := x.bits.toNat
  ⟨UInt64.ofNat <|
    match x.value with
    | .nan =>
      binary64.signed (binary32.isNegative n)
        (binary64.quietNan + (binary32.fraction n % (1 <<< 22)) <<< 29)
    | .infinite negative => binary64.signed negative binary64.infinity
    | .finite negative mantissa exponent => binary64.ofBinary negative mantissa exponent⟩

/-- The whole part, toward zero, clamped to 64 bits; zero for what is not a number. -/
def toInt64 (x : Binary32) : Int64 :=
  match x.value with
  | .nan => 0
  | .infinite negative => if negative then .minValue else .maxValue
  | .finite negative mantissa exponent =>
    clampInt64 (((FloatValue.finite negative mantissa exponent).truncate?).getD 0)

def text (x : Binary32) : String := String.ofList (binary32.text x.bits.toNat)

end Binary32

end GridClient
