import GridClient.Diagnostics.Record
import GridClient.Outcome

/-!
The diagnostics of an operation: a header and status records. Records are numbered from one, the
header first, then the status records with the oldest first.
-/

namespace GridClient

/-- The diagnostics of the latest operation. -/
structure Diagnostics where
  rowCount : Int64 := 0
  dynamicFunction : String := ""
  dynamicFunctionCode : Int32 := 0
  result : Outcome := .success
  rowsAffected : Int64 := 0
  records : List StatusRecord := []
  deriving DecidableEq, Repr

namespace Diagnostics

variable (d : Diagnostics)

/-- A blank header with a result, over the records at hand. -/
def withResult (result : Outcome) : Diagnostics := { result, records := d.records }

/-- The state in which an operation starts: failed until it ends, and no records. -/
def reset : Diagnostics := { result := .error }

/-- The same diagnostics with more records at the end. -/
def append (records : List StatusRecord) : Diagnostics := { d with records := d.records ++ records }

/-- The same diagnostics with a number of rows affected. -/
def withRowsAffected (rows : Int64) : Diagnostics := { d with rowsAffected := rows }

/-- Ends an operation. An error becomes the last record, every record is stamped with what
identifies the connection, and the header tells the result. -/
def complete (result : Except Error Outcome) (origin : Options) : Outcome × Diagnostics :=
  let (outcome, records) := match result with
    | .ok outcome => (outcome, d.records)
    | .error e => (.error, d.records ++ [StatusRecord.ofError e])
  (outcome, { result := outcome, records := records.map (StatusRecord.stamp origin) })

/-- The status record of a record number; the first is number two. -/
def record? (number : Int32) : Option StatusRecord :=
  if number.toInt < 2 then none else d.records[number.toInt.toNat - 2]?

end Diagnostics

end GridClient
