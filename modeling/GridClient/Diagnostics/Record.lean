import GridClient.Buffer.Basic
import GridClient.Error
import GridClient.Options

/-! Status records: one failure or warning each, with where it arose. -/

namespace GridClient

/-- A failure or a warning. Row and column are zero when it belongs to none. -/
structure StatusRecord where
  state : SqlState
  message : String
  row : Int32 := 0
  column : Int32 := 0
  connection : String := ""
  server : String := ""
  deriving DecidableEq, Repr

namespace StatusRecord

/-- The same record, of a row and a column. -/
def withLocus (r : StatusRecord) (row column : Int32) : StatusRecord := { r with row, column }

/-- The same record, of a connection and a server. -/
def withOrigin (r : StatusRecord) (connection server : String) : StatusRecord :=
  { r with connection, server }

/-- The same record, stamped with what identifies a connection. -/
def stamp (o : Options) (r : StatusRecord) : StatusRecord := r.withOrigin o.cache o.serverName

/-- The record of an error. A column that could not be had tells which one it is. -/
def ofError (e : Error) : StatusRecord :=
  let record : StatusRecord := { state := e.state, message := e.recordText }
  match e with
  | .columnRetrieval row column => record.withLocus row (Int32.ofNat column.toNat)
  | _ => record

/-- The warning that a column did not fit its buffer. -/
def truncation (row : Int32) (column : UInt16) : StatusRecord :=
  { state := .dataTruncated
    message := "Buffer is too small for the column data. Truncated from the right."
    row, column := Int32.ofNat column.toNat }

end StatusRecord

/-- What a conversion adds to the diagnostics of its operation: nothing, a warning, or the error
that ends the operation. -/
def Conversion.report (row : Int32) (column : UInt16) :
    Conversion → Except Error (List StatusRecord)
  | success => .ok []
  | truncated => .ok [.truncation row column]
  | failure => .error (.columnRetrieval row column)
  | unsupported =>
    .error (.unsupportedConversion
      ("column " ++ toString column.toNat ++ " can not be converted to the bound type"))

end GridClient
