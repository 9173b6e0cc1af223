import GridClient.Query.Catalog
import GridClient.Query.Data
import GridClient.Query.ForeignKeys

/-! The queries that a statement can own, and what can be done with any of them. -/

namespace GridClient

/-- A query of one of the four kinds. -/
inductive Query where
  | data (query : DataQuery)
  | columns (query : CatalogQuery ColumnMeta)
  | tables (query : CatalogQuery TableMeta)
  | foreignKeys (query : ForeignKeysQuery)

namespace Query

variable {ν : Type} [Network ν]

/-- A query in SQL. -/
def ofSql (sql : String) : Query := .data { sql }

/-- A query for the columns that match three filters. -/
def ofColumns (schema table column : String) : Query :=
  .columns { request := .columnsMeta schema table column }

/-- A query for the tables that match four filters. -/
def ofTables (catalog schema table tableType : String) : Query :=
  .tables { request := .tablesMeta catalog schema table tableType }

/-- Runs the query. Only one in SQL takes parameters. -/
def execute (parameters : Bindings Parameter) (c : Connection ν) :
    Query → Except Error Outcome × Query × Connection ν
  | data q => let (result, q, c) := q.execute parameters c; (result, data q, c)
  | columns q => let (result, q, c) := q.execute c; (result, columns q, c)
  | tables q => let (result, q, c) := q.execute c; (result, tables q, c)
  | foreignKeys q => (.ok .success, foreignKeys { q with executed := true }, c)

/-- Closes the query. Only one in SQL has something open on the node. -/
def close (c : Connection ν) : Query → Except Error Outcome × Query × Connection ν
  | data q => let (result, q, c) := q.close c; (result, data q, c)
  | columns q => (.ok .success, columns q.close, c)
  | tables q => (.ok .success, tables q.close, c)
  | foreignKeys q => (.ok .success, foreignKeys { q with executed := false }, c)

/-- Fetches the next row into the bound columns. -/
def fetch (c : Connection ν) (bound : Bindings DataBuffer) : Query → Fetched Query ν
  | data q => let f := q.fetch c bound; { f with query := data f.query }
  | columns q => let f := q.fetch c bound; { f with query := columns f.query }
  | tables q => let f := q.fetch c bound; { f with query := tables f.query }
  | foreignKeys q => ⟨q.fetch, foreignKeys q, c, bound, []⟩

/-- The descriptors of the result columns. -/
def resultColumns : Query → List ColumnMeta
  | data q => q.columns
  | columns _ => CatalogEntry.columns ColumnMeta
  | tables _ => CatalogEntry.columns TableMeta
  | foreignKeys _ => ForeignKeysQuery.columns

/-- Whether a further row may exist. -/
def dataAvailable : Query → Bool
  | data q => q.dataAvailable
  | columns q => q.dataAvailable
  | tables q => q.dataAvailable
  | foreignKeys _ => false

/-- The rows that the query changed. A node does not report any. -/
def affectedRows (_ : Query) : Int64 := 0

end Query

end GridClient
