import GridClient.Connection
import GridClient.Query.Data
import GridClient.Wire.Response

/-!
Catalog queries: the node answers with all its entries at once, and the rows are made up locally,
one from each entry.
-/

namespace GridClient

/-- What makes entries of a catalog into a result set. -/
class CatalogEntry (ε : Type) where
  /-- The columns of the result set. -/
  columns : List ColumnMeta
  /-- Reads the answer of the node. -/
  response : Decoder (List ε)
  /-- The row of an entry. -/
  values : ε → List ColumnValue

/-- The row of a column: where it stands, its type and the sizes that go with it. -/
instance : CatalogEntry ColumnMeta where
  columns :=
    [.ofCatalog "TABLE_CAT" .string, .ofCatalog "TABLE_SCHEM" .string,
      .ofCatalog "TABLE_NAME" .string, .ofCatalog "COLUMN_NAME" .string,
      .ofCatalog "DATA_TYPE" .short, .ofCatalog "TYPE_NAME" .string,
      .ofCatalog "COLUMN_SIZE" .int, .ofCatalog "BUFFER_LENGTH" .int,
      .ofCatalog "DECIMAL_DIGITS" .short, .ofCatalog "NUM_PREC_RADIX" .short,
      .ofCatalog "NULLABLE" .short, .ofCatalog "REMARKS" .string]
  response := Decoder.columnMetas
  values c :=
    let type := c.sqlType
    [.null, .string c.schema, .string c.table, .string c.column, .short type.code,
      .string c.typeName, .int type.columnSize, .int type.transferLength,
      if type.decimalDigits < 0 then .null else .short type.decimalDigits.toInt16,
      .short type.precisionRadix.toInt16, .short SqlType.nullabilityUnknown.toInt16, .null]

/-- The row of a table: its four names and no remarks. -/
instance : CatalogEntry TableMeta where
  columns :=
    [.ofCatalog "TABLE_CAT" .string, .ofCatalog "TABLE_SCHEM" .string,
      .ofCatalog "TABLE_NAME" .string, .ofCatalog "TABLE_TYPE" .string,
      .ofCatalog "REMARKS" .string]
  response := Decoder.tableMetas
  values t := [.string t.catalog, .string t.schema, .string t.table, .string t.tableType, .null]

/-- A catalog query and the entries it has found. -/
structure CatalogQuery (ε : Type) where
  request : Request
  found : List ε := []
  executed : Bool := false
  /-- The rows handed out so far. -/
  fetched : Nat := 0

namespace CatalogQuery

variable {ν : Type} [Network ν] {ε : Type} [CatalogEntry ε]

/-- Drops the entries. Nothing is open on the node. -/
def close (q : CatalogQuery ε) : CatalogQuery ε := { request := q.request }

/-- Asks the node for the entries. -/
def execute (q : CatalogQuery ε) (c : Connection ν) :
    Except Error Outcome × CatalogQuery ε × Connection ν :=
  let response : Decoder (List ε) := CatalogEntry.response
  match c.exchange q.request.write response.decode with
  | (.error e, c) => (.error e, q.close, c)
  | (.ok found, c) => (.ok .success, { request := q.request, found, executed := true }, c)

/-- Whether a further row exists. -/
def dataAvailable (q : CatalogQuery ε) : Bool := q.executed && q.fetched < q.found.length

/-- The greatest row number, which numbers all rows past it. -/
def maxRowNumber : Nat := 0x7FFFFFFF

/-- Makes up the next row and writes it into the bound columns. -/
def fetch (q : CatalogQuery ε) (c : Connection ν) (columns : Bindings DataBuffer) :
    Fetched (CatalogQuery ε) ν :=
  if q.executed then
    match q.found[q.fetched]? with
    | none => ⟨.ok .noData, q, c, columns, []⟩
    | some entry =>
      let q := { q with fetched := q.fetched + 1 }
      let row := Int32.ofNat (min q.fetched maxRowNumber)
      let (result, sink) := ColumnSink.putRow row (CatalogEntry.values entry) columns
      ⟨result, q, c, sink.columns, sink.warnings⟩
  else ⟨.error .queryNotExecuted, q, c, columns, []⟩

end CatalogQuery

end GridClient
