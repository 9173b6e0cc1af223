import GridClient.Types.Tag
import GridClient.Wire.Value

/-! Objects, which are carried whole: a header of sixteen bytes tells their length. -/

namespace GridClient

/-- What the flags of an object say, by bit. -/
inductive ObjectFlag where
  | userType | hasSchema | hasRaw | offsetOneByte | offsetTwoBytes | compactFooter
  deriving DecidableEq, Repr

def ObjectFlag.mask : ObjectFlag → UInt16
  | userType => 0x01
  | hasSchema => 0x02
  | hasRaw => 0x04
  | offsetOneByte => 0x08
  | offsetTwoBytes => 0x10
  | compactFooter => 0x20

/-- The first sixteen bytes of an object. Its length counts from the header's first byte. -/
structure ObjectHeader where
  tag : UInt8
  version : UInt8
  flags : UInt16
  typeId : Int32
  hashCode : Int32
  length : Int32
  deriving DecidableEq, Repr

namespace ObjectHeader

/-- The bytes that a header takes. -/
def size : Nat := 16

/-- The version that objects carry. -/
def protocolVersion : UInt8 := 1

/-- The header of an object of this version. -/
def make (flags : UInt16) (typeId hashCode length : Int32) : ObjectHeader :=
  ⟨TypeTag.object.code, protocolVersion, flags, typeId, hashCode, length⟩

def has (h : ObjectHeader) (flag : ObjectFlag) : Bool := h.flags &&& flag.mask == flag.mask

def encode (h : ObjectHeader) : Bytes :=
  h.tag :: h.version :: LittleEndian.encode 2 h.flags.toNat ++ encodeInt32 h.typeId ++
    encodeInt32 h.hashCode ++ encodeInt32 h.length

end ObjectHeader

namespace Decoder

/-- The sixteen bytes of a header, whatever they say. -/
def objectHeaderFields : Decoder ObjectHeader := do
  let tag ← uint8
  let version ← uint8
  let flags ← uint16
  let typeId ← int32
  let hashCode ← int32
  let length ← int32
  pure ⟨tag, version, flags, typeId, hashCode, length⟩

/-- Whether the next two bytes open an object of the known version. -/
def opensObject : Decoder Bool := do
  let tag ← uint8
  if tag = TypeTag.object.code then
    let version ← uint8
    pure (version == ObjectHeader.protocolVersion)
  else pure false

/-- The header of the next object, without moving; nothing when no object comes next. -/
def peekObjectHeader : Decoder (Option ObjectHeader) := peek do
  if ← peek opensObject then some <$> objectHeaderFields else pure none

/-- A whole object, header included. -/
def object : Decoder Bytes := do
  match ← peekObjectHeader with
  | none => throw .invalidPacket
  | some header =>
    if header.length.toInt < ObjectHeader.size then throw .invalidPacket
    else take header.length.toInt.toNat

end Decoder

end GridClient
