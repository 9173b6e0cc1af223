import GridClient.Buffer.Put
import GridClient.Diagnostics.Header

/-! The fields of diagnostic records, and their delivery into a caller's buffer. -/

namespace GridClient

/-- A field of the header or of a status record. -/
inductive DiagnosticField where
  | cursorRowCount | dynamicFunction | dynamicFunctionCode | number | returnCode | rowCount
  | classOrigin | columnNumber | connectionName | messageText | native | rowNumber | serverName
  | sqlState | subclassOrigin
  deriving DecidableEq, Repr

namespace DiagnosticField

/-- The standard code of a field. -/
def code : DiagnosticField → Int16
  | cursorRowCount => -1249 | dynamicFunction => 7 | dynamicFunctionCode => 12 | number => 2
  | returnCode => 1 | rowCount => 3 | classOrigin => 8 | columnNumber => -1247
  | connectionName => 10 | messageText => 6 | native => 5 | rowNumber => -1248 | serverName => 11
  | sqlState => 4 | subclassOrigin => 9

def all : List DiagnosticField :=
  [cursorRowCount, dynamicFunction, dynamicFunctionCode, number, returnCode, rowCount,
    classOrigin, columnNumber, connectionName, messageText, native, rowNumber, serverName,
    sqlState, subclassOrigin]

/-- The field of a code. -/
def ofCode? (n : Int16) : Option DiagnosticField := all.find? fun field => field.code == n

theorem ofCode?_code (field : DiagnosticField) : ofCode? field.code = some field := by
  cases field <;> rfl

/-- Whether the field belongs to the header. -/
def isHeader : DiagnosticField → Bool
  | cursorRowCount | dynamicFunction | dynamicFunctionCode | number | returnCode | rowCount => true
  | _ => false

end DiagnosticField

/-- The value of a field on its way into a buffer. -/
inductive FieldValue where
  | text (value : String)
  | number (value : Number)
  deriving DecidableEq, Repr

def FieldValue.putInto : FieldValue → DataBuffer → Conversion × DataBuffer
  | text value, b => b.putString value
  | number value, b => b.putNumber value

/-- The value of a field of a status record, nothing for a field of the header. -/
def StatusRecord.field? (r : StatusRecord) : DiagnosticField → Option FieldValue
  | .classOrigin => some (.text r.state.classOrigin)
  | .columnNumber => some (.number (.int32 r.column))
  | .connectionName => some (.text r.connection)
  | .messageText => some (.text r.message)
  | .native => some (.number (.int32 0))
  | .rowNumber => some (.number (.int64 r.row.toInt64))
  | .serverName => some (.text r.server)
  | .sqlState => some (.text r.state.code)
  | .subclassOrigin => some (.text r.state.subclassOrigin)
  | _ => none

namespace Diagnostics

variable (d : Diagnostics)

/-- The value of a field of the header, nothing for a field of a status record. -/
def headerField? : DiagnosticField → Option FieldValue
  | .cursorRowCount => some (.number (.int64 d.rowCount))
  | .dynamicFunction => some (.text d.dynamicFunction)
  | .dynamicFunctionCode => some (.number (.int32 d.dynamicFunctionCode))
  | .number => some (.number (.int32 (Int32.ofNat d.records.length)))
  | .returnCode => some (.number (.int16 d.result.returnCode))
  | .rowCount => some (.number (.int64 d.rowsAffected))
  | _ => none

/-- Writes a field of a record into a buffer. There is no data past the last record; a field of
the other kind of record is an error. The conversion's own result is not reported. -/
def getField (number : Int32) (field : DiagnosticField) (b : DataBuffer) : Outcome × DataBuffer :=
  let deliver : Option FieldValue → Outcome × DataBuffer
    | some value => (.success, (value.putInto b).2)
    | none => (.error, b)
  if number = 1 then deliver (d.headerField? field)
  else match d.record? number with
    | none => (.noData, b)
    | some record => deliver (record.field? field)

end Diagnostics

end GridClient
