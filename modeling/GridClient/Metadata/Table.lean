import GridClient.Metadata.Column

/-! Descriptors of tables. -/

namespace GridClient

/-- What is known of a table. -/
structure TableMeta where
  catalog : String
  schema : String
  table : String
  tableType : String
  deriving DecidableEq, Repr

namespace TableMeta

/-- The bytes of a descriptor: four tagged names. -/
def encode (t : TableMeta) : Except Error Bytes := do
  let catalog ← encodeString t.catalog
  let schema ← encodeString t.schema
  let table ← encodeString t.table
  let tableType ← encodeString t.tableType
  pure (catalog ++ schema ++ table ++ tableType)

/-- The fewest bytes that a descriptor takes: four null markers. -/
def minSize : Nat := 4

end TableMeta

namespace Decoder

/-- A table descriptor. -/
def tableMeta : Decoder TableMeta := do
  let catalog ← name
  let schema ← name
  let table ← name
  let tableType ← name
  pure ⟨catalog, schema, table, tableType⟩

end Decoder

end GridClient
