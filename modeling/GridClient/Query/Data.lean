import GridClient.Connection
import GridClient.Parameter
import GridClient.Query.Sink
import GridClient.Wire.Response
import GridClient.Cursor

/-!
Queries in SQL, whose rows come page by page from a server cursor. A column that cannot be decoded
stalls the query: nothing behind it can be found, so no later fetch goes on.
-/

namespace GridClient

/-- An SQL query and what is known of its run. -/
structure DataQuery where
  sql : String
  columns : List ColumnMeta := []
  /-- The server cursor, from a run until it is closed. -/
  cursor : Option Cursor := none
  /-- The number of the row at hand, from one. -/
  rowNumber : Int32 := 0
  /-- The row and column that could not be decoded. -/
  stalled : Option (Int32 × UInt16) := none
  deriving DecidableEq, Repr

/-- What a fetch leaves behind. -/
structure Fetched (κ ν : Type) where
  result : Except Error Outcome
  query : κ
  connection : Connection ν
  columns : Bindings DataBuffer
  warnings : List StatusRecord := []

namespace Cursor

variable {ν : Type} [Network ν]

/-- Asks for pages until one has a row to enter. Tells whether there is one. -/
def loadPage (cursor : Cursor) (c : Connection ν) : Except Error Bool × Cursor × Connection ν :=
  if cursor.needsPage then
    match _h : c.exchange (Request.fetch cursor.id c.options.pageSize).write
      Decoder.resultPage.decode with
    | (.error e, c') => (.error e, cursor, c')
    | (.ok page, c') =>
      if page.id ≠ cursor.id then (.error .invalidPacket, cursor, c')
      else match cursor.takePage page with
        | .error e => (.error e, cursor, c')
        | .ok cursor' =>
          if cursor'.hasNext then loadPage cursor' c' else (.ok false, cursor', c')
  else (.ok true, cursor, c)
termination_by ByteStream.patience c.network
decreasing_by exact Connection.patience_exchange_lt _h

end Cursor

namespace DataQuery

variable {ν : Type} [Network ν]

/-- The id of the server cursor, while there is one. -/
def id? (q : DataQuery) : Option QueryId := q.cursor.map Cursor.id

/-- Whether a further row may exist. -/
def dataAvailable (q : DataQuery) : Bool := q.stalled.isNone && q.cursor.any Cursor.hasNext

/-- Gives the server cursor up, whatever the node answers. -/
def close (q : DataQuery) (c : Connection ν) :
    Except Error Outcome × DataQuery × Connection ν :=
  match q.cursor with
  | none => (.ok .success, q, c)
  | some cursor =>
    let q := { q with cursor := none, stalled := none }
    match c.exchange (Request.close cursor.id).write Decoder.closedCursor.decode with
    | (.ok _, c) => (.ok .success, q, c)
    | (.error e, c) => (.error e, q, c)

/-- Sends the query and opens its cursor. -/
def run (q : DataQuery) (parameters : Bindings Parameter) (c : Connection ν) :
    Except Error Outcome × DataQuery × Connection ν :=
  match parameters.arguments with
  | .error e => (.error e, q, c)
  | .ok args =>
    let request := Request.execute q.sql c.options.distributedJoins c.options.pageSize args
    match c.exchange request.write Decoder.executeResult.decode with
    | (.error e, c) => (.error e, q, c)
    | (.ok result, c) =>
      (.ok .success,
        { sql := q.sql, columns := result.columns, cursor := some (.opened result.id) }, c)

/-- Closes the cursor of an earlier run, if it is open, and runs the query. -/
def execute (q : DataQuery) (parameters : Bindings Parameter) (c : Connection ν) :
    Except Error Outcome × DataQuery × Connection ν :=
  match q.close c with
  | (.error e, q, c) => (.error e, q, c)
  | (.ok _, q, c) => q.run parameters c

/-- Delivers a row that has just been entered. The columns are counted in sixteen bits. -/
def deliverRow (q : DataQuery) (cursor : Cursor) (row : Row) (c : Connection ν)
    (columns : Bindings DataBuffer) : Fetched DataQuery ν :=
  if UInt16.size ≤ row.size then
    ⟨.error .invalidPacket, { q with cursor := some cursor }, c, columns, []⟩
  else
    let (result, row, sink) := row.deliver q.rowNumber row.size 1 { columns }
    let q := { q with cursor := some { cursor with row := some row } }
    match result with
    | .ok () => ⟨.ok (.ofTruncated (!sink.warnings.isEmpty)), q, c, sink.columns, sink.warnings⟩
    | .error (.refused e) => ⟨.error e, q, c, sink.columns, sink.warnings⟩
    | .error (.undecodable column) =>
      ⟨.error (.columnRetrieval q.rowNumber column),
        { q with stalled := some (q.rowNumber, column) }, c, sink.columns, sink.warnings⟩

/-- Enters the next row of the page at hand. -/
def enterRow (q : DataQuery) (cursor : Cursor) (c : Connection ν) (columns : Bindings DataBuffer) :
    Fetched DataQuery ν :=
  match cursor.increment with
  | .error e cursor => ⟨.error e, { q with cursor := some cursor }, c, columns, []⟩
  | .ok false cursor => ⟨.ok .noData, { q with cursor := some cursor }, c, columns, []⟩
  | .ok true cursor =>
    let q := { q with rowNumber := q.rowNumber + 1 }
    match cursor.currentRow with
    | some row => q.deliverRow cursor row c columns
    | none =>
      ⟨.error (.internalFault "cursor entered a row but holds none"),
        { q with cursor := some cursor }, c, columns, []⟩

/-- Fetches the next row into the bound columns, with a page from the node when one is needed. -/
def fetch (q : DataQuery) (c : Connection ν) (columns : Bindings DataBuffer) :
    Fetched DataQuery ν :=
  match q.cursor with
  | none => ⟨.error .queryNotExecuted, q, c, columns, []⟩
  | some cursor =>
    match q.stalled with
    | some (row, column) => ⟨.error (.columnRetrieval row column), q, c, columns, []⟩
    | none =>
      if cursor.hasNext then
        match cursor.loadPage c with
        | (.error e, cursor, c) => ⟨.error e, { q with cursor := some cursor }, c, columns, []⟩
        | (.ok false, cursor, c) => ⟨.ok .noData, { q with cursor := some cursor }, c, columns, []⟩
        | (.ok true, cursor, c) => q.enterRow cursor c columns
      else ⟨.ok .noData, q, c, columns, []⟩

end DataQuery

end GridClient
