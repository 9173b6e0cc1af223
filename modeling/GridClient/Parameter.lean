import GridClient.Bindings
import GridClient.Buffer.Get
import GridClient.Types.Sql
import GridClient.Wire.Value

/-! Parameters: a caller's buffer and the SQL type that it is sent as. -/

namespace GridClient

/-- A bound parameter. -/
structure Parameter where
  buffer : DataBuffer
  sqlType : SqlType
  deriving DecidableEq, Repr

namespace Parameter

/-- The value that is sent. -/
def wireValue (p : Parameter) : Except Error WireValue :=
  if p.buffer.isNull then .ok .null
  else match p.sqlType with
    | .char | .varchar | .longVarchar => .ok (.string p.buffer.getString)
    | .tinyInt => .ok (.byte p.buffer.getInt8)
    | .smallInt => .ok (.short p.buffer.getInt16)
    | .integer => .ok (.int p.buffer.getInt32)
    | .bigInt => .ok (.long p.buffer.getInt64)
    | .float => .ok (.float p.buffer.getBinary32)
    | .double => .ok (.double p.buffer.getBinary64)
    | .bit => .ok (.bool (p.buffer.getInt8 != 0))
    | .binary | .varBinary | .longVarBinary => .ok (.byteArray p.buffer.getBytes)
    | .guid =>
      match p.buffer.getGuid with
      | some g => .ok (.uuid g)
      | none =>
        .error (.unsupportedConversion (p.buffer.type.label ++ " buffer does not hold a GUID"))
    | other => .error (.notImplemented ("parameters of SQL type " ++ other.label))

end Parameter

/-- The values of entries that have to be numbered on from `expected`. The number behind the
greatest is zero, as in a build that does not check for overflow. -/
def argumentsFrom (expected : UInt16) : List (UInt16 × Parameter) → Except Error (List WireValue)
  | [] => .ok []
  | (index, parameter) :: rest =>
    if index = expected then do
      let value ← parameter.wireValue
      let values ← argumentsFrom (expected + 1) rest
      pure (value :: values)
    else .error (.unboundParameter expected)

/-- The arguments of a query in order. The parameters have to be numbered from one without gaps. -/
def Bindings.arguments (parameters : Bindings Parameter) : Except Error (List WireValue) :=
  argumentsFrom 1 parameters.entries

end GridClient
