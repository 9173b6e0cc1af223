import GridClient.Bytes
import GridClient.Floating.Numeral
import GridClient.Text.Blank
import GridClient.Text.Numeral

/-! Numbers on their way into or out of a buffer, each with its native width. -/

namespace GridClient

/-- A number with its native width. -/
inductive Number where
  | int8 (value : Int8)
  | int16 (value : Int16)
  | int32 (value : Int32)
  | int64 (value : Int64)
  | single (value : Binary32)
  | double (value : Binary64)
  deriving DecidableEq, Repr

namespace Number

/-- The whole number nearest toward zero, clamped to 64 bits. -/
def toInt64 : Number → Int64
  | int8 v => v.toInt64
  | int16 v => v.toInt64
  | int32 v => v.toInt64
  | int64 v => v
  | single v => v.toInt64
  | double v => v.toInt64

/-- The nearest floating-point number. -/
def toBinary64 : Number → Binary64
  | int8 v => Binary64.ofInt v.toInt
  | int16 v => Binary64.ofInt v.toInt
  | int32 v => Binary64.ofInt v.toInt
  | int64 v => Binary64.ofInt v.toInt
  | single v => v.toBinary64
  | double v => v

/-- The bytes of the number at its native width. -/
def toBytes : Number → Bytes
  | int8 v => LittleEndian.encode 1 v.toUInt8.toNat
  | int16 v => LittleEndian.encode 2 v.toUInt16.toNat
  | int32 v => LittleEndian.encode 4 v.toUInt32.toNat
  | int64 v => LittleEndian.encode 8 v.toUInt64.toNat
  | single v => LittleEndian.encode 4 v.bits.toNat
  | double v => LittleEndian.encode 8 v.bits.toNat

/-- The decimal text of the number, of the fewest digits for a floating-point one. -/
def text : Number → String
  | int8 v => String.ofList (Numeral.ofInt v.toInt)
  | int16 v => String.ofList (Numeral.ofInt v.toInt)
  | int32 v => String.ofList (Numeral.ofInt v.toInt)
  | int64 v => String.ofList (Numeral.ofInt v.toInt)
  | single v => v.text
  | double v => v.text

/-- The whole number that a text spells, when it fits 64 bits. -/
def readInt64? (cs : List Char) : Option Int64 :=
  match Numeral.readInt? cs with
  | some i =>
    if -0x8000000000000000 ≤ i ∧ i < 0x8000000000000000 then some (Int64.ofInt i) else none
  | none => none

/-- Reads a number from a text with blanks around it: a whole number unless `floating`, or else
the nearest floating-point number, and zero for what is no number. -/
def read (floating : Bool) (cs : List Char) : Number :=
  let trimmed := Text.trim cs
  let fallback := double ((Binary64.read? trimmed).getD .zero)
  if floating then fallback
  else match readInt64? trimmed with
    | some v => int64 v
    | none => fallback

end Number

end GridClient
