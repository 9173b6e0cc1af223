import GridClient.Diagnostics.Field
import GridClient.Query.Basic

/-!
Statements: bound columns and parameters, at most one query, and the diagnostics of the latest
operation. Every operation starts from blank diagnostics and records how it ended.
-/

namespace GridClient

/-- A statement on a connection, which it has to itself. -/
structure Statement (ν : Type) where
  connection : Connection ν
  columns : Bindings DataBuffer := {}
  parameters : Bindings Parameter := {}
  query : Option Query := none
  diagnostics : Diagnostics := {}

namespace Statement

variable {ν : Type} [Network ν]

/-- A fresh statement. -/
def ofConnection (connection : Connection ν) : Statement ν := { connection }

/-- Runs an operation over blank diagnostics and completes them with its result. -/
def run (operation : Statement ν → Except Error Outcome × Statement ν) (s : Statement ν) :
    Outcome × Statement ν :=
  let (result, s) := operation { s with diagnostics := .reset }
  let (outcome, diagnostics) := s.diagnostics.complete result s.connection.options
  (outcome, { s with diagnostics })

/-! ### Binding -/

/-- Refuses a buffer of a type that no value converts to. -/
def checkBindable (b : DataBuffer) : Except Error Unit :=
  if b.type = .unsupported then
    .error (.notImplemented "The specified data type is not supported.")
  else .ok ()

/-- Binds a buffer to a column, numbered from one. -/
def bindColumn (index : UInt16) (b : DataBuffer) : Statement ν → Outcome × Statement ν :=
  run fun s =>
    if index = 0 then (.error (.columnIndexOutOfRange 0), s)
    else match checkBindable b with
      | .error e => (.error e, s)
      | .ok () => (.ok .success, { s with columns := s.columns.insert index b })

def unbindColumn (index : UInt16) : Statement ν → Outcome × Statement ν :=
  run fun s => (.ok .success, { s with columns := s.columns.erase index })

def unbindAllColumns : Statement ν → Outcome × Statement ν :=
  run fun s => (.ok .success, { s with columns := {} })

/-- The buffer bound to a column, for what was fetched into it to be read. -/
def boundColumn? (s : Statement ν) (index : UInt16) : Option DataBuffer := s.columns.get? index

/-- Binds a parameter, numbered from one, to be sent as an SQL type. -/
def bindParameter (index : UInt16) (b : DataBuffer) (type : SqlType) :
    Statement ν → Outcome × Statement ν :=
  run fun s =>
    if index = 0 then (.error (.unboundParameter 0), s)
    else match checkBindable b with
      | .error e => (.error e, s)
      | .ok () =>
        if type.isSupported then
          (.ok .success, { s with parameters := s.parameters.insert index ⟨b, type⟩ })
        else
          (.error (.notImplemented ("SQL type " ++ type.label ++ " is not supported.")), s)

def unbindParameter (index : UInt16) : Statement ν → Outcome × Statement ν :=
  run fun s => (.ok .success, { s with parameters := s.parameters.erase index })

def unbindAllParameters : Statement ν → Outcome × Statement ν :=
  run fun s => (.ok .success, { s with parameters := {} })

/-! ### Queries -/

/-- Closes the query at hand, if there is one, and takes another in its place. When the closing
fails there is none. -/
def replaceQuery (query : Query) (s : Statement ν) : Except Error Unit × Statement ν :=
  match s.query with
  | none => (.ok (), { s with query := some query })
  | some previous =>
    match previous.close s.connection with
    | (.ok _, _, connection) => (.ok (), { s with connection, query := some query })
    | (.error e, _, connection) => (.error e, { s with connection, query := none })

/-- Runs the query at hand with the bound parameters. -/
def executeCurrent (s : Statement ν) : Except Error Outcome × Statement ν :=
  match s.query with
  | none => (.error .queryNotPrepared, s)
  | some query =>
    let (result, query, connection) := query.execute s.parameters s.connection
    (result, { s with connection, query := some query })

/-- Takes a query in place of the one at hand and runs it. -/
def executeQuery (query : Query) : Statement ν → Outcome × Statement ν :=
  run fun s =>
    match s.replaceQuery query with
    | (.ok (), s) => s.executeCurrent
    | (.error e, s) => (.error e, s)

/-- Takes an SQL query without running it. -/
def prepare (sql : String) : Statement ν → Outcome × Statement ν :=
  run fun s =>
    match s.replaceQuery (.ofSql sql) with
    | (.ok (), s) => (.ok .success, s)
    | (.error e, s) => (.error e, s)

/-- Takes an SQL query and runs it. -/
def executeSql (sql : String) : Statement ν → Outcome × Statement ν := executeQuery (.ofSql sql)

/-- Runs the prepared query. -/
def execute : Statement ν → Outcome × Statement ν := run executeCurrent

/-- Looks for columns by three filters. -/
def findColumns (schema table column : String) : Statement ν → Outcome × Statement ν :=
  executeQuery (.ofColumns schema table column)

/-- Looks for tables by four filters. -/
def findTables (catalog schema table tableType : String) : Statement ν → Outcome × Statement ν :=
  executeQuery (.ofTables catalog schema table tableType)

/-- Looks for the foreign keys between two tables. -/
def findForeignKeys (primaryKey foreignKey : String × String × String) :
    Statement ν → Outcome × Statement ν :=
  executeQuery (.foreignKeys { primaryKey, foreignKey })

/-- Closes the query at hand, which can be run again. -/
def close : Statement ν → Outcome × Statement ν :=
  run fun s =>
    match s.query with
    | none => (.ok .success, s)
    | some query =>
      let (result, query, connection) := query.close s.connection
      (result, { s with connection, query := some query })

/-- Fetches the next row into the bound columns. -/
def fetch : Statement ν → Outcome × Statement ν :=
  run fun s =>
    match s.query with
    | none => (.error .queryNotExecuted, s)
    | some query =>
      let f := query.fetch s.connection s.columns
      (f.result, { s with
        connection := f.connection
        columns := f.columns
        query := some f.query
        diagnostics := s.diagnostics.append f.warnings })

/-- Ends the statement and gives its connection back. A query at hand is closed, and it does not
matter how that goes. -/
def finish (s : Statement ν) : Connection ν :=
  match s.query with
  | none => s.connection
  | some query => (query.close s.connection).2.2

/-! ### What is known of the query at hand -/

/-- Whether a further row may exist. -/
def dataAvailable (s : Statement ν) : Bool := s.query.any Query.dataAvailable

/-- Records an error unless there is a query. -/
def checkQuery (e : Error) : Statement ν → Outcome × Statement ν :=
  run fun s =>
    match s.query with
    | none => (.error e, s)
    | some _ => (.ok .success, s)

/-- The descriptors of the result columns, if there is a query. -/
def describe (s : Statement ν) : Option (List ColumnMeta) × Statement ν :=
  let (_, s) := s.checkQuery .queryNotPrepared
  (s.query.map Query.resultColumns, s)

/-- The rows that the query changed, if there is a query. -/
def affectedRows (s : Statement ν) : Option Int64 × Statement ν :=
  let (_, s) := s.checkQuery .queryNotExecuted
  match s.query.map Query.affectedRows with
  | some rows => (some rows, { s with diagnostics := s.diagnostics.withRowsAffected rows })
  | none => (none, s)

/-- The value of an attribute of a column. The number of columns is asked of no column in
particular. -/
def attribute? (index : UInt16) (attr : ColumnAttribute) (s : Statement ν) :
    Except Error AttributeValue :=
  match s.query with
  | none => .error .queryNotPrepared
  | some query =>
    let columns := query.resultColumns
    if attr = .count then .ok (.number (Int64.ofNat columns.length))
    else if index = 0 then .error (.columnIndexOutOfRange index)
    else match columns[index.toNat - 1]? with
      | none => .error (.columnIndexOutOfRange index)
      | some column =>
        match column.attribute? attr with
        | some value => .ok value
        | none => .error (.notImplemented "column attribute Count")

/-- Records what a conversion reported. -/
def recordReport (report : Except Error (List StatusRecord)) :
    Statement ν → Outcome × Statement ν :=
  run fun s =>
    match report with
    | .error e => (.error e, s)
    | .ok warnings =>
      (.ok (.ofTruncated (!warnings.isEmpty)),
        { s with diagnostics := s.diagnostics.append warnings })

/-- Writes an attribute of a column into a buffer. -/
def getAttribute (index : UInt16) (attr : ColumnAttribute) (b : DataBuffer) (s : Statement ν) :
    Outcome × DataBuffer × Statement ν :=
  let value := s.attribute? index attr
  let (conversion, b) := match value with
    | .ok (.text text) => b.putString text
    | .ok (.number n) => b.putNumber (.int64 n)
    | .error _ => (.success, b)
  let (outcome, s) := s.recordReport (value.bind fun _ => conversion.report 0 index)
  (outcome, b, s)

end Statement

end GridClient
