import GridClient.Buffer.Put
import GridClient.Wire.Object

/-! Column values: what the tagged values of a row are read as. -/

namespace GridClient

/-- The value of a column. -/
inductive ColumnValue where
  | null
  | byte (value : Int8)
  | short (value : Int16)
  | int (value : Int32)
  | long (value : Int64)
  | float (value : Binary32)
  | double (value : Binary64)
  | bool (value : Bool)
  | string (value : String)
  | guid (value : Guid)
  /-- An object with its header, undecoded. -/
  | object (bytes : Bytes)
  deriving DecidableEq, Repr

/-- Writes a column value into a buffer; a truth value goes as a one or a zero. -/
def ColumnValue.putInto : ColumnValue → DataBuffer → Conversion × DataBuffer
  | null, b => b.putNull
  | byte v, b => b.putNumber (.int8 v)
  | short v, b => b.putNumber (.int16 v)
  | int v, b => b.putNumber (.int32 v)
  | long v, b => b.putNumber (.int64 v)
  | float v, b => b.putNumber (.single v)
  | double v, b => b.putNumber (.double v)
  | bool v, b => b.putNumber (.int8 (if v then 1 else 0))
  | string v, b => b.putString v
  | guid v, b => b.putGuid v
  | object v, b => b.putBinary v

namespace Decoder

/-- A column value. A single UTF-16 unit is read as an integer of its width. -/
def columnValue : Decoder ColumnValue := do
  let tag ← columnHeader
  match TypeTag.ofCode? tag with
  | some .byte => .byte <$> int8
  | some .short | some .char => .short <$> int16
  | some .int => .int <$> int32
  | some .long => .long <$> int64
  | some .float => .float <$> binary32
  | some .double => .double <$> binary64
  | some .bool => .bool <$> bool
  | some .null => pure .null
  | some .string => (fun text => (text.map ColumnValue.string).getD .null) <$> string
  | some .uuid => (fun g => (g.map ColumnValue.guid).getD .null) <$> guid
  | some .object => .object <$> object
  | _ => throw (.unsupportedTag tag)

end Decoder

end GridClient
