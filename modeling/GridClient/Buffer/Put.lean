import GridClient.Buffer.Basic
import GridClient.Buffer.Number
import GridClient.Decimal
import GridClient.Guid
import GridClient.Text.Utf16

/-!
Writing values into buffers. Each kind of value is converted to the bound type; a value that the
type cannot hold changes no byte of the slot.
-/

namespace GridClient

/-- The nineteen bytes of a decimal in a numeric buffer: its count of digits, its scale, its sign
(one unless negative), and its magnitude in sixteen bytes, least significant first. -/
def numericBytes? (d : Decimal) : Option Bytes :=
  if d.scale.toInt < -128 ∨ 127 < d.scale.toInt then none
  else
    let significant := d.absolute.dropWhile (· == 0)
    if 16 < significant.length then none
    else
      -- the digits of the absolute value, whose bytes may look negative
      let digits := (Decimal.mk d.absolute 0).chars.dropWhile (· == '-')
      if 255 < digits.length then none
      else
        some (UInt8.ofNat digits.length :: UInt8.ofInt d.scale.toInt ::
          (if d.isNegative then 0 else 1) ::
          (significant.reverse ++ List.replicate (16 - significant.length) 0))

namespace Guid

/-- The layout of a bound identifier: a word, two half-words, and the low half in big-endian
order. -/
def toStructBytes (g : Guid) : Bytes :=
  let most := g.most.toUInt64.toNat
  LittleEndian.encode 4 (most >>> 32) ++ LittleEndian.encode 2 (most >>> 16) ++
    LittleEndian.encode 2 most ++ BigEndian.encode 8 g.least.toUInt64.toNat

/-- The identifier in that layout. -/
def ofStructBytes (bytes : Bytes) : Guid :=
  let most := (LittleEndian.decode (bytes.take 4) <<< 32) +
    (LittleEndian.decode ((bytes.drop 4).take 2) <<< 16) +
    LittleEndian.decode ((bytes.drop 6).take 2)
  ⟨(UInt64.ofNat most).toInt64, (UInt64.ofNat (BigEndian.decode ((bytes.drop 8).take 8))).toInt64⟩

end Guid

namespace DataBuffer

variable (b : DataBuffer)

/-- Writes a text in bytes, ended by a zero. -/
def putText (text : String) : Conversion × DataBuffer :=
  b.putTerminated 1 ((Utf8.encode text).map ([·]))

/-- Writes a text in UTF-16 units, ended by a zero unit. -/
def putWideText (text : String) : Conversion × DataBuffer :=
  b.putTerminated 2 ((Utf16.encode text).map fun unit => LittleEndian.encode 2 unit.toNat)

/-- Writes a decimal into a numeric buffer; one that does not fit changes nothing at all. -/
def putNumeric (d : Decimal) : Conversion × DataBuffer :=
  match numericBytes? d with
  | some bytes => b.putFixed bytes
  | none => (.failure, b)

/-- Writes a number. Integer types take its whole part and keep the low bits of that. -/
def putNumber (n : Number) : Conversion × DataBuffer :=
  let low := n.toInt64.toUInt64.toNat
  match b.type with
  | .signedTinyInt | .unsignedTinyInt => b.putFixed (LittleEndian.encode 1 low)
  | .bit => b.putFixed [if n.toInt64 = 0 then 0 else 1]
  | .signedShort | .unsignedShort => b.putFixed (LittleEndian.encode 2 low)
  | .signedLong | .unsignedLong => b.putFixed (LittleEndian.encode 4 low)
  | .signedBigInt | .unsignedBigInt => b.putFixed (LittleEndian.encode 8 low)
  | .float => b.putFixed (LittleEndian.encode 4 n.toBinary64.toBinary32.bits.toNat)
  | .double => b.putFixed (LittleEndian.encode 8 n.toBinary64.bits.toNat)
  | .char => b.putText n.text
  | .wideChar => b.putWideText n.text
  | .binary | .native => b.putRaw n.toBytes
  | .numeric =>
    match n with
    | .single _ | .double _ => b.putUnsupported
    | _ => b.putNumeric (Decimal.ofInt64 n.toInt64 0)
  | .date | .time | .timestamp | .guid | .unsupported => b.putUnsupported

/-- Writes an identifier. -/
def putGuid (g : Guid) : Conversion × DataBuffer :=
  match b.type with
  | .char => b.putText g.text
  | .wideChar => b.putWideText g.text
  | .guid => b.putFixed g.toStructBytes
  | .binary | .native => b.putRaw g.toBytes
  | _ => b.putUnsupported

/-- Writes a text. A buffer of another type takes what the text spells; a text that spells no
identifier changes nothing at all in a buffer for one. -/
def putString (text : String) : Conversion × DataBuffer :=
  match b.type with
  | .char => b.putText text
  | .wideChar => b.putWideText text
  | .binary | .native => b.putRaw (Utf8.encode text)
  | .float | .double => b.putNumber (Number.read true text.toList)
  | .signedTinyInt | .unsignedTinyInt | .signedShort | .unsignedShort | .signedLong
  | .unsignedLong | .signedBigInt | .unsignedBigInt | .bit | .numeric =>
    b.putNumber (Number.read false text.toList)
  | .guid =>
    match Guid.parse? text with
    | some g => b.putGuid g
    | none => (.failure, b)
  | .date | .time | .timestamp | .unsupported => b.putUnsupported

/-- Writes bytes, into a text buffer as pairs of hexadecimal digits. -/
def putBinary (bytes : Bytes) : Conversion × DataBuffer :=
  match b.type with
  | .binary | .native => b.putRaw bytes
  | .char => b.putText (String.ofList (Hex.ofBytes bytes))
  | .wideChar => b.putWideText (String.ofList (Hex.ofBytes bytes))
  | _ => b.putUnsupported

/-- Writes a decimal. Integer and floating-point types take the nearest floating-point number. -/
def putDecimal (d : Decimal) : Conversion × DataBuffer :=
  match b.type with
  | .char => b.putText d.text
  | .wideChar => b.putWideText d.text
  | .numeric => b.putNumeric d
  | .signedTinyInt | .unsignedTinyInt | .signedShort | .unsignedShort | .signedLong
  | .unsignedLong | .signedBigInt | .unsignedBigInt | .bit | .float | .double =>
    b.putNumber (.double d.toBinary64)
  | _ => b.putUnsupported

end DataBuffer

end GridClient
