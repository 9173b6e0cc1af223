import GridClient.Types.Sql
import GridClient.Wire.Value

/-! Descriptors of result columns, and the attributes that a caller can ask of one. -/

namespace GridClient

/-- An attribute of a column, by its role. -/
inductive ColumnAttribute where
  | label | baseColumnName | name | tableName | baseTableName | schemaName | catalogName
  | literalStart | literalEnd | typeName | localTypeName | fixedScale | autoUniqueValue
  | caseSensitive | conciseType | type | displaySize | length | octetLength | nullable
  | precisionRadix | precision | scale | searchable | unnamed | unsigned | updatable
  /-- The number of columns, which no single column has. -/
  | count
  deriving DecidableEq, Repr

namespace ColumnAttribute

/-- The standard code of an attribute. -/
def code : ColumnAttribute → Int16
  | label => 18 | baseColumnName => 22 | name => 1011 | tableName => 15 | baseTableName => 23
  | schemaName => 16 | catalogName => 17 | literalStart => 27 | literalEnd => 28 | typeName => 14
  | localTypeName => 29 | fixedScale => 9 | autoUniqueValue => 11 | caseSensitive => 12
  | conciseType => 2 | type => 1002 | displaySize => 6 | length => 1003 | octetLength => 1013
  | nullable => 1008 | precisionRadix => 32 | precision => 1005 | scale => 1006 | searchable => 13
  | unnamed => 1012 | unsigned => 8 | updatable => 10 | count => 1001

def all : List ColumnAttribute :=
  [label, baseColumnName, name, tableName, baseTableName, schemaName, catalogName, literalStart,
    literalEnd, typeName, localTypeName, fixedScale, autoUniqueValue, caseSensitive, conciseType,
    type, displaySize, length, octetLength, nullable, precisionRadix, precision, scale, searchable,
    unnamed, unsigned, updatable, count]

/-- The attribute of a code. -/
def ofCode? (n : Int16) : Option ColumnAttribute := all.find? fun attr => attr.code == n

theorem ofCode?_code (attr : ColumnAttribute) : ofCode? attr.code = some attr := by
  cases attr <;> rfl

end ColumnAttribute

/-- The value of an attribute. -/
inductive AttributeValue where
  | text (value : String)
  | number (value : Int64)
  deriving DecidableEq, Repr

/-- What is known of a result column. -/
structure ColumnMeta where
  schema : String
  table : String
  column : String
  typeName : String
  /-- The tag of the column's values. -/
  tag : UInt8
  deriving DecidableEq, Repr

namespace ColumnMeta

variable (c : ColumnMeta)

/-- The descriptor of a catalog column, which belongs to no table. -/
def ofCatalog (column : String) (tag : TypeTag) : ColumnMeta :=
  ⟨"", "", column, (SqlType.ofTag tag.code).name, tag.code⟩

def sqlType : SqlType := .ofTag c.tag

/-- Whether the values are text. -/
def isText : Bool :=
  match c.sqlType with
  | .varchar | .char | .longVarchar => true
  | _ => false

private def flag (b : Bool) : AttributeValue := .number (if b then 1 else 0)

/-- The value of an attribute. Every attribute of a single column has one. -/
def attribute? : ColumnAttribute → Option AttributeValue
  | .label | .baseColumnName | .name => some (.text c.column)
  | .tableName | .baseTableName => some (.text c.table)
  | .schemaName => some (.text c.schema)
  | .catalogName => some (.text "")
  | .literalStart | .literalEnd => some (.text (if c.isText then "'" else ""))
  | .typeName | .localTypeName => some (.text c.typeName)
  | .fixedScale | .autoUniqueValue => some (flag false)
  | .caseSensitive => some (flag c.isText)
  | .conciseType | .type => some (.number c.sqlType.code.toInt64)
  | .displaySize => some (.number c.sqlType.displaySize.toInt64)
  | .length | .octetLength => some (.number c.sqlType.transferLength.toInt64)
  | .nullable => some (.number SqlType.nullabilityUnknown)
  | .precisionRadix => some (.number c.sqlType.precisionRadix.toInt64)
  | .precision => some (.number c.sqlType.columnSize.toInt64)
  | .scale => some (.number c.sqlType.decimalDigits.toInt64)
  | .searchable => some (.number 2)
  | .unnamed => some (flag c.column.isEmpty)
  | .unsigned => some (flag c.sqlType.isUnsigned)
  | .updatable => some (flag false)
  | .count => none

/-- The bytes of a descriptor: four tagged names and a tag. -/
def encode : Except Error Bytes := do
  let schema ← encodeString c.schema
  let table ← encodeString c.table
  let column ← encodeString c.column
  let typeName ← encodeString c.typeName
  pure (schema ++ table ++ column ++ typeName ++ [c.tag])

/-- The fewest bytes that a descriptor takes: four null markers and a tag. -/
def minSize : Nat := 5

end ColumnMeta

namespace Decoder

/-- A tagged name, empty for the null marker. -/
def name : Decoder String := (·.getD "") <$> string

/-- A column descriptor. -/
def columnMeta : Decoder ColumnMeta := do
  let schema ← name
  let table ← name
  let column ← name
  let typeName ← name
  let tag ← uint8
  pure ⟨schema, table, column, typeName, tag⟩

end Decoder

end GridClient
