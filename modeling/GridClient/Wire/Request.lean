import GridClient.Wire.Value

/-! Requests to the node: a command byte and its fields. -/

namespace GridClient

/-- What a request asks for. -/
inductive Command where
  | execute | fetch | close | columnsMeta | tablesMeta
  deriving DecidableEq, Repr

namespace Command

def code : Command → UInt8
  | execute => 1
  | fetch => 2
  | close => 3
  | columnsMeta => 4
  | tablesMeta => 5

/-- The command of a byte. -/
def ofCode? (b : UInt8) : Option Command :=
  [execute, fetch, close, columnsMeta, tablesMeta].find? fun command => command.code == b

theorem ofCode?_code (command : Command) : ofCode? command.code = some command := by
  cases command <;> rfl

end Command

/-- The identity of a server cursor. -/
abbrev QueryId := Int64

/-- A request. -/
inductive Request where
  | execute (sql : String) (distributedJoins : Bool) (pageSize : Int32) (args : List WireValue)
  | fetch (id : QueryId) (pageSize : Int32)
  | close (id : QueryId)
  | columnsMeta (schema table column : String)
  | tablesMeta (catalog schema table tableType : String)
  deriving DecidableEq, Repr

namespace Request

def command : Request → Command
  | execute _ _ _ _ => .execute
  | fetch _ _ => .fetch
  | close _ => .close
  | columnsMeta _ _ _ => .columnsMeta
  | tablesMeta _ _ _ _ => .tablesMeta

/-- Values one after another. -/
def encodeValues : List WireValue → Except Error Bytes
  | [] => .ok []
  | v :: vs => do
    let first ← v.encode
    let rest ← encodeValues vs
    pure (first ++ rest)

/-- A count in a signed word. -/
def encodeCount (n : Nat) : Except Error Bytes :=
  if n < 0x80000000 then .ok (LittleEndian.encode 4 n) else .error (.valueTooLong n)

/-- Tagged texts one after another. -/
def encodeStrings : List String → Except Error Bytes
  | [] => .ok []
  | text :: texts => do
    let first ← encodeString text
    let rest ← encodeStrings texts
    pure (first ++ rest)

/-- The fields behind the command byte. -/
def encodeFields : Request → Except Error Bytes
  | execute sql distributedJoins pageSize args => do
    let sql ← encodeString sql
    let count ← encodeCount args.length
    let values ← encodeValues args
    pure (encodeBool distributedJoins ++ sql ++ encodeInt32 pageSize ++ count ++ values)
  | fetch id pageSize => .ok (encodeInt64 id ++ encodeInt32 pageSize)
  | close id => .ok (encodeInt64 id)
  | columnsMeta schema table column => encodeStrings [schema, table, column]
  | tablesMeta catalog schema table tableType => encodeStrings [catalog, schema, table, tableType]

/-- The payload of a request. -/
def encode (r : Request) : Except Error Bytes := (r.command.code :: ·) <$> r.encodeFields

end Request

end GridClient
