import GridClient.Query.Data

/-! Foreign-key queries. A node has no foreign keys, so there is nothing to ask it for. -/

namespace GridClient

/-- A query for foreign keys, which never finds any. -/
structure ForeignKeysQuery where
  /-- Catalog, schema and table of the primary key. -/
  primaryKey : String × String × String
  /-- Catalog, schema and table of the foreign key. -/
  foreignKey : String × String × String
  executed : Bool := false
  deriving DecidableEq, Repr

namespace ForeignKeysQuery

/-- The columns of the empty result set. -/
def columns : List ColumnMeta :=
  [.ofCatalog "PKTABLE_CAT" .string, .ofCatalog "PKTABLE_SCHEM" .string,
    .ofCatalog "PKTABLE_NAME" .string, .ofCatalog "PKCOLUMN_NAME" .string,
    .ofCatalog "FKTABLE_CAT" .string, .ofCatalog "FKTABLE_SCHEM" .string,
    .ofCatalog "FKTABLE_NAME" .string, .ofCatalog "FKCOLUMN_NAME" .string,
    .ofCatalog "KEY_SEQ" .short, .ofCatalog "UPDATE_RULE" .short,
    .ofCatalog "DELETE_RULE" .short, .ofCatalog "FK_NAME" .string,
    .ofCatalog "PK_NAME" .string, .ofCatalog "DEFERRABILITY" .short]

/-- Ends the search before its first row, once it has been run. -/
def fetch (q : ForeignKeysQuery) : Except Error Outcome :=
  if q.executed then .ok .noData else .error .queryNotExecuted

end ForeignKeysQuery

end GridClient
