import GridClient.Guid
import GridClient.Text.Utf8
import GridClient.Types.Tag
import GridClient.Wire.Decoder

/-! Tagged values: one byte of kind, then a payload of fixed width or with its length in front. -/

namespace GridClient

/-- A length in front of the bytes it counts. The length is a signed word, so the bytes have to be
fewer than it can count. -/
def lengthPrefixed (bytes : Bytes) : Except Error Bytes :=
  if bytes.length < 0x80000000 then .ok (LittleEndian.encode 4 bytes.length ++ bytes)
  else .error (.valueTooLong bytes.length)

/-- The bytes of a tagged text. -/
def encodeString (text : String) : Except Error Bytes :=
  (TypeTag.string.code :: ·) <$> lengthPrefixed (Utf8.encode text)

/-- The bytes of a tagged text or of the null marker. -/
def encodeOptionalString : Option String → Except Error Bytes
  | some text => encodeString text
  | none => .ok [TypeTag.null.code]

/-- The bytes of an integer of 64 bits. -/
def encodeInt64 (v : Int64) : Bytes := LittleEndian.encode 8 v.toUInt64.toNat

/-- The bytes of an integer of 32 bits. -/
def encodeInt32 (v : Int32) : Bytes := LittleEndian.encode 4 v.toUInt32.toNat

/-- The byte of a truth value. -/
def encodeBool (v : Bool) : Bytes := [if v then 1 else 0]

/-- A value with its kind. -/
inductive WireValue where
  | null
  | byte (value : Int8)
  | short (value : Int16)
  /-- One UTF-16 unit. -/
  | char (value : UInt16)
  | int (value : Int32)
  | long (value : Int64)
  | float (value : Binary32)
  | double (value : Binary64)
  | bool (value : Bool)
  | string (value : String)
  | uuid (value : Guid)
  | byteArray (value : Bytes)
  deriving DecidableEq, Repr

namespace WireValue

/-- The kind of a value. -/
def tag : WireValue → TypeTag
  | null => .null
  | byte _ => .byte
  | short _ => .short
  | char _ => .char
  | int _ => .int
  | long _ => .long
  | float _ => .float
  | double _ => .double
  | bool _ => .bool
  | string _ => .string
  | uuid _ => .uuid
  | byteArray _ => .byteArray

/-- The bytes behind the tag. -/
def payload : WireValue → Except Error Bytes
  | null => .ok []
  | byte v => .ok (LittleEndian.encode 1 v.toUInt8.toNat)
  | short v => .ok (LittleEndian.encode 2 v.toUInt16.toNat)
  | char v => .ok (LittleEndian.encode 2 v.toNat)
  | int v => .ok (encodeInt32 v)
  | long v => .ok (encodeInt64 v)
  | float v => .ok (LittleEndian.encode 4 v.bits.toNat)
  | double v => .ok (LittleEndian.encode 8 v.bits.toNat)
  | bool v => .ok (encodeBool v)
  | string v => lengthPrefixed (Utf8.encode v)
  | uuid v => .ok (encodeInt64 v.most ++ encodeInt64 v.least)
  | byteArray v => lengthPrefixed v

/-- The bytes of a value. Fails on a text or a byte string too long for its length field. -/
def encode (v : WireValue) : Except Error Bytes := (v.tag.code :: ·) <$> v.payload

end WireValue

namespace Decoder

/-- The tag of the next column, taken off the stream when its payload follows directly. -/
def columnHeader : Decoder UInt8 := fun r =>
  match uint8 r with
  | .ok tag r' =>
    if (TypeTag.ofCode? tag).any TypeTag.isConsumedOnPeek then .ok tag r' else .ok tag r
  | .error e r' => .error e r'

/-- A length and the text it counts. -/
def text : Decoder String := do
  let bytes ← take (← length)
  match Utf8.decode? bytes with
  | some text => pure text
  | none => throw .invalidPacket

/-- A tagged text, or nothing for the null marker. -/
def string : Decoder (Option String) := atomically do
  let tag ← uint8
  match TypeTag.ofCode? tag with
  | some .null => pure none
  | some .string => some <$> text
  | _ => throw (.unsupportedTag tag)

/-- A tagged identifier, or nothing for the null marker. -/
def guid : Decoder (Option Guid) := atomically do
  let tag ← uint8
  match TypeTag.ofCode? tag with
  | some .null => pure none
  | some .uuid =>
    let most ← int64
    let least ← int64
    pure (some ⟨most, least⟩)
  | _ => throw (.unsupportedTag tag)

end Decoder

end GridClient
