import GridClient.Buffer.Put

/-!
Reading values back from buffers. The length cell bounds a value when it is a length; a text also
ends at its first zero.
-/

namespace GridClient.DataBuffer

variable (b : DataBuffer)

/-- The bytes before the first zero. -/
def untilZero (bytes : Bytes) : Bytes := bytes.takeWhile (· != 0)

/-- The byte pairs before the first pair of zeros. An odd byte at the end is left out. -/
def untilZeroUnit : Bytes → Bytes
  | low :: high :: rest => if low = 0 ∧ high = 0 then [] else low :: high :: untilZeroUnit rest
  | _ => []

/-- The part of the slot that the length cell bounds. -/
def boundedBytes : Bytes :=
  let slot := b.slot.getD []
  match b.length with
  | some length => if 0 ≤ length then slot.take length.toNat else slot
  | none => slot

/-- The bytes that hold the value. -/
def valueBytes : Bytes :=
  match b.type with
  | .char => untilZero b.boundedBytes
  | .wideChar => untilZeroUnit b.boundedBytes
  | _ => b.boundedBytes

/-- The first `width` bytes of the slot, when it has them. -/
def fixed? (width : Nat) : Option Bytes :=
  (Bytes.splitFirst? width (b.slot.getD [])).map (·.1)

/-- The characters of a text buffer. -/
def textChars : List Char :=
  match b.type with
  | .wideChar => Utf16.decodeLossy (Utf16.ofBytes b.valueBytes)
  | _ => Utf8.decodeLossy b.valueBytes

/-- Whether a text has a point or an exponent in it. -/
def looksFloating (cs : List Char) : Bool := cs.any fun c => c = '.' || c = 'e' || c = 'E'

/-- The number in the buffer; a text is read as one. -/
def getNumber : Option Number :=
  let word (width : Nat) : Option Nat := (b.fixed? width).map LittleEndian.decode
  match b.type with
  | .signedTinyInt | .bit => (word 1).map fun n => .int8 (UInt8.ofNat n).toInt8
  | .unsignedTinyInt => (word 1).map fun n => .int16 (Int16.ofNat n)
  | .signedShort => (word 2).map fun n => .int16 (UInt16.ofNat n).toInt16
  | .unsignedShort => (word 2).map fun n => .int32 (Int32.ofNat n)
  | .signedLong => (word 4).map fun n => .int32 (UInt32.ofNat n).toInt32
  | .unsignedLong => (word 4).map fun n => .int64 (Int64.ofNat n)
  | .signedBigInt | .unsignedBigInt => (word 8).map fun n => .int64 (UInt64.ofNat n).toInt64
  | .float => (word 4).map fun n => .single ⟨UInt32.ofNat n⟩
  | .double => (word 8).map fun n => .double ⟨UInt64.ofNat n⟩
  | .char | .wideChar => some (Number.read (looksFloating b.textChars) b.textChars)
  | _ => none

/-- The identifier in the buffer. Raw bytes hold one exactly when there are sixteen. -/
def getGuid : Option Guid :=
  match b.type with
  | .guid => (b.fixed? 16).map Guid.ofStructBytes
  | .binary | .native =>
    if b.valueBytes.length = 16 then some (Guid.ofBytes b.valueBytes) else none
  | .char | .wideChar => Guid.read? b.textChars
  | _ => none

/-- The characters of the value. What is not there is no text. -/
def getChars : List Char :=
  match b.type with
  | .char | .wideChar | .binary | .native => b.textChars
  | .guid => (b.getGuid.map Guid.chars).getD []
  | _ => (b.getNumber.map fun n => n.text.toList).getD []

/-- The text of the value. -/
def getString : String := String.ofList b.getChars

/-- The text of the value in at most `limit` bytes. A longer one is cut at the last boundary that is
not past the limit, so that a character which the limit falls into is left out. -/
def getStringUpTo (limit : Nat) : String :=
  let bytes := Utf8.encode b.getString
  if bytes.length ≤ limit then b.getString
  else
    let cut? := (Utf8.boundaryBefore? bytes limit).bind fun stop => Utf8.decode? (bytes.take stop)
    cut?.getD ""

/-- The whole part of the number, zero when there is none. -/
def getInt64 : Int64 := (b.getNumber.map Number.toInt64).getD 0

def getInt32 : Int32 := b.getInt64.toInt32

def getInt16 : Int16 := b.getInt64.toInt16

def getInt8 : Int8 := b.getInt64.toInt8

/-- The number in the longer format, zero when there is none. -/
def getBinary64 : Binary64 := (b.getNumber.map Number.toBinary64).getD .zero

def getBinary32 : Binary32 := b.getBinary64.toBinary32

/-- The bytes of the value; those of a text are its text's. -/
def getBytes : Bytes :=
  match b.type with
  | .char | .wideChar => Utf8.encode b.getString
  | _ => b.valueBytes

end GridClient.DataBuffer
