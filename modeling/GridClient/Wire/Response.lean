import GridClient.Metadata.Table
import GridClient.Wire.Request

/-!
Responses of the node: a status byte, then what was asked for or the text of a failure. A count of
entries that the remaining bytes cannot hold is refused before any entry is read.
-/

namespace GridClient

/-- A cursor that the node opened, and the shape of its rows. -/
structure ExecuteResult where
  id : QueryId
  columns : List ColumnMeta
  deriving DecidableEq, Repr

/-- Some rows of a cursor, undecoded. -/
structure ResultPage where
  id : QueryId
  /-- Whether no page follows. -/
  last : Bool
  rowCount : Int32
  data : Bytes
  deriving DecidableEq, Repr

namespace Decoder

/-- What stands for the text of a failure that came without one. -/
def unknownFailure : String := "Unknown server error"

/-- The status of a response. Any but zero is a failure. -/
def status : Decoder Unit := do
  let code ← uint8
  if code = 0 then pure ()
  else
    let message ← optional string
    throw (.server code ((message.getD none).getD unknownFailure))

/-- A count and that many entries, each of at least `minSize` bytes. -/
def entries {α : Type} (minSize : Nat) (entry : Decoder α) : Decoder (List α) := do
  let count ← length
  let rest ← remaining
  if rest.length / minSize < count then throw .invalidPacket
  else times count entry

def executeResult : Decoder ExecuteResult := do
  status
  let id ← int64
  let columns ← entries ColumnMeta.minSize columnMeta
  pure ⟨id, columns⟩

def resultPage : Decoder ResultPage := do
  status
  let id ← int64
  let last ← bool
  let rowCount ← int32
  if rowCount < 0 then throw .invalidPacket
  else
    let data ← remaining
    pure ⟨id, last, rowCount, data⟩

def closedCursor : Decoder QueryId := do
  status
  int64

def columnMetas : Decoder (List ColumnMeta) := do
  status
  entries ColumnMeta.minSize columnMeta

def tableMetas : Decoder (List TableMeta) := do
  status
  entries TableMeta.minSize tableMeta

end Decoder

end GridClient
