import GridClient.Bindings
import GridClient.Diagnostics.Record
import GridClient.Outcome
import GridClient.Row

/-!
Where a row goes: the buffers bound to its columns, in ascending order of the columns. A value that
did not fit leaves a warning; one that cannot be converted ends the row. Rows decoded from a page
and rows made up locally go the same way.
-/

namespace GridClient

/-- The bound columns, and the warnings of the row so far. -/
structure ColumnSink where
  columns : Bindings DataBuffer
  warnings : List StatusRecord := []

namespace ColumnSink

/-- Writes the value of a column into the buffer bound to it, if there is one. -/
def put (row : Int32) (column : UInt16) (value : ColumnValue) (s : ColumnSink) :
    Except Error Unit × ColumnSink :=
  match s.columns.get? column with
  | none => (.ok (), s)
  | some buffer =>
    let (conversion, buffer) := value.putInto buffer
    let columns := s.columns.insert column buffer
    match conversion.report row column with
    | .ok records => (.ok (), ⟨columns, s.warnings ++ records⟩)
    | .error e => (.error e, ⟨columns, s.warnings⟩)

/-- The value of a row in a column. The columns are counted from one. -/
def valueAt? (values : List ColumnValue) (column : UInt16) : Option ColumnValue :=
  if column = 0 then none else values[column.toNat - 1]?

/-- Writes the values of a row into these columns, up to the first that cannot be converted. The
columns that the row does not have are passed over. -/
def putBound (row : Int32) (values : List ColumnValue) :
    List UInt16 → ColumnSink → Except Error Unit × ColumnSink
  | [], s => (.ok (), s)
  | column :: columns, s =>
    match valueAt? values column with
    | none => putBound row values columns s
    | some value =>
      match s.put row column value with
      | (.ok (), s) => putBound row values columns s
      | (.error e, s) => (.error e, s)

/-- Writes a row made up locally into the bound columns. -/
def putRow (row : Int32) (values : List ColumnValue) (columns : Bindings DataBuffer) :
    Except Error Outcome × ColumnSink :=
  let (result, sink) := putBound row values columns.keys { columns }
  (result.map fun () => .ofTruncated (!sink.warnings.isEmpty), sink)

end ColumnSink

/-- Why a row of a page was not delivered whole. -/
inductive DeliveryFault where
  /-- A column could not be decoded. The row stays in front of it. -/
  | undecodable (column : UInt16)
  /-- A column was decoded and could not be converted. -/
  | refused (error : Error)
  deriving DecidableEq, Repr

/-- Decodes the next columns of a row, bound or not, each into its buffer. -/
def Row.deliver (rowNumber : Int32) : Nat → UInt16 → Row → ColumnSink →
    Except DeliveryFault Unit × Row × ColumnSink
  | 0, _, row, sink => (.ok (), row, sink)
  | n + 1, column, row, sink =>
    match row.readColumn with
    | .error _ row => (.error (.undecodable column), row, sink)
    | .ok value row =>
      match sink.put rowNumber column value with
      | (.error e, sink) => (.error (.refused e), row, sink)
      | (.ok (), sink) => deliver rowNumber n (column + 1) row sink

end GridClient
