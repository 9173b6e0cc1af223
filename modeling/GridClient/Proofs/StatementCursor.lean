import GridClient.Proofs.CursorTrips
import GridClient.Statement

/-!
Statements and the cursors that they open on the node. Whatever is done with a statement, and
however the node and the stream behave, its requests keep to the discipline of cursors, and a
statement that has ended over a stream that still works has left none open.
-/
namespace GridClient

/-! ### Queries of any kind -/

namespace CatalogQuery

variable {ν : Type} {ε : Type} [CatalogEntry ε]

/-- A catalog query opens no cursor. -/
theorem execute_keeps [Network ν] (q : CatalogQuery ε) (c : Connection (Recorded ν))
    (h : ∀ answer, CursorStep none ⟨q.request, answer⟩ none) :
    (q.execute c).2.1.request = q.request ∧ c.Keeps none (q.execute c).2.2 none := by
  have hkeeps := (c.asked_exchange q.request
    (CatalogEntry.response : Decoder (List ε)).decode).keeps h (.inl rfl)
  unfold execute
  obtain ⟨⟨result, c'⟩, hr⟩ : ∃ r,
    c.exchange q.request.write (CatalogEntry.response : Decoder (List ε)).decode = r := ⟨_, rfl⟩
  rw [hr] at hkeeps
  simp only [hr]
  cases result <;> exact ⟨rfl, hkeeps⟩

/-- The rows of a catalog query are made up without the node. -/
theorem fetch_keeps (q : CatalogQuery ε) (c : Connection (Recorded ν))
    (columns : Bindings DataBuffer) :
    (q.fetch c columns).query.request = q.request ∧
      c.Keeps none (q.fetch c columns).connection none := by
  unfold fetch
  split
  · split <;> exact ⟨rfl, .refl c none⟩
  · exact ⟨rfl, .refl c none⟩

end CatalogQuery

namespace Query

variable {ν : Type} [Network ν]

/-- The cursor that the query holds. Only one in SQL ever does. -/
def id? : Query → Option QueryId
  | data q => q.id?
  | columns _ | tables _ | foreignKeys _ => none

/-- A catalog query asks for what its kind asks for. -/
def Sound : Query → Prop
  | data _ | foreignKeys _ => True
  | columns q => q.request.command = .columnsMeta
  | tables q => q.request.command = .tablesMeta

theorem step_of_catalog {request : Request}
    (h : request.command = .columnsMeta ∨ request.command = .tablesMeta)
    (answer : Option Bytes) : CursorStep none ⟨request, answer⟩ none := by
  cases request with
  | columnsMeta => exact .query rfl rfl
  | tablesMeta => exact .query rfl rfl
  | _ => rcases h with h | h <;> cases h

theorem execute_keeps {query : Query} (h : query.Sound) (parameters : Bindings Parameter)
    (c : Connection (Recorded ν)) :
    (query.execute parameters c).2.1.Sound ∧
      c.Keeps query.id? (query.execute parameters c).2.2 (query.execute parameters c).2.1.id? := by
  cases query with
  | data q => exact ⟨trivial, q.execute_keeps parameters c⟩
  | columns q =>
    obtain ⟨hrequest, hkeeps⟩ := q.execute_keeps c (step_of_catalog (.inl h))
    exact ⟨(congrArg Request.command hrequest).trans h, hkeeps⟩
  | tables q =>
    obtain ⟨hrequest, hkeeps⟩ := q.execute_keeps c (step_of_catalog (.inr h))
    exact ⟨(congrArg Request.command hrequest).trans h, hkeeps⟩
  | foreignKeys q => exact ⟨trivial, .refl c none⟩

theorem close_keeps {query : Query} (h : query.Sound) (c : Connection (Recorded ν)) :
    (query.close c).2.1.Sound ∧ (query.close c).2.1.id? = none ∧
      c.Keeps query.id? (query.close c).2.2 none := by
  cases query with
  | data q =>
    obtain ⟨hnone, hkeeps⟩ := q.close_keeps c
    refine ⟨trivial, ?_, hkeeps⟩
    show (q.close c).2.1.id? = none
    rw [DataQuery.id?, hnone, Option.map_none]
  | columns q => exact ⟨h, rfl, .refl c none⟩
  | tables q => exact ⟨h, rfl, .refl c none⟩
  | foreignKeys q => exact ⟨trivial, rfl, .refl c none⟩

theorem fetch_keeps {query : Query} (h : query.Sound) (c : Connection (Recorded ν))
    (bound : Bindings DataBuffer) :
    (query.fetch c bound).query.Sound ∧
      c.Keeps query.id? (query.fetch c bound).connection (query.fetch c bound).query.id? := by
  cases query with
  | data q =>
    obtain ⟨hid, hkeeps⟩ := q.fetch_keeps c bound
    refine ⟨trivial, ?_⟩
    show c.Keeps q.id? (q.fetch c bound).connection (q.fetch c bound).query.id?
    rw [hid]
    exact hkeeps
  | columns q =>
    obtain ⟨hrequest, hkeeps⟩ := q.fetch_keeps c bound
    exact ⟨(congrArg Request.command hrequest).trans h, hkeeps⟩
  | tables q =>
    obtain ⟨hrequest, hkeeps⟩ := q.fetch_keeps c bound
    exact ⟨(congrArg Request.command hrequest).trans h, hkeeps⟩
  | foreignKeys q => exact ⟨trivial, .refl c none⟩

end Query

/-! ### Statements -/

/-- What a caller can do with a statement, apart from ending it. -/
inductive StatementOp where
  | bindColumn (index : UInt16) (buffer : DataBuffer)
  | unbindColumn (index : UInt16)
  | unbindAllColumns
  | bindParameter (index : UInt16) (buffer : DataBuffer) (type : SqlType)
  | unbindParameter (index : UInt16)
  | unbindAllParameters
  | prepare (sql : String)
  | execute
  | executeSql (sql : String)
  | findColumns (schema table column : String)
  | findTables (catalog schema table tableType : String)
  | findForeignKeys (primaryKey foreignKey : String × String × String)
  | close
  | fetch
  | describe
  | affectedRows
  | getAttribute (index : UInt16) (attr : ColumnAttribute) (buffer : DataBuffer)

/-- What is about the bound buffers, or only looks at the query. -/
def StatementOp.keepsQuery : StatementOp → Bool
  | bindColumn _ _ | unbindColumn _ | unbindAllColumns => true
  | bindParameter _ _ _ | unbindParameter _ | unbindAllParameters => true
  | describe | affectedRows | getAttribute _ _ _ => true
  | _ => false

namespace Statement

variable {ν : Type}

/-- The cursor that the query at hand holds. -/
def id? (s : Statement ν) : Option QueryId := s.query.bind Query.id?

def Sound (s : Statement ν) : Prop := ∀ query, s.query = some query → query.Sound

/-- From one state of a statement to another by requests that the discipline allows. -/
def Leads (s s' : Statement (Recorded ν)) : Prop :=
  s.Sound → s'.Sound ∧ s.connection.Keeps s.id? s'.connection s'.id?

/-- The same query at hand over the same connection. -/
structure SameQuery (s s' : Statement ν) : Prop where
  query_eq : s'.query = s.query
  connection_eq : s'.connection = s.connection

theorem sameQuery_run {operation : Statement ν → Except Error Outcome × Statement ν}
    (h : ∀ s, SameQuery s (operation s).2) (s : Statement ν) : SameQuery s (run operation s).2 :=
  ⟨(h { s with diagnostics := .reset }).query_eq,
    (h { s with diagnostics := .reset }).connection_eq⟩

theorem sameQuery_checkQuery (e : Error) (s : Statement ν) : SameQuery s (s.checkQuery e).2 := by
  refine sameQuery_run (fun s => ?_) s
  cases hq : s.query <;> exact ⟨rfl, rfl⟩

theorem sameQuery_affectedRows (s : Statement ν) : SameQuery s s.affectedRows.2 := by
  have hcheck := s.sameQuery_checkQuery .queryNotExecuted
  unfold affectedRows
  obtain ⟨⟨outcome, s₁⟩, hr⟩ : ∃ r, s.checkQuery .queryNotExecuted = r := ⟨_, rfl⟩
  rw [hr] at hcheck
  simp only [hr]
  split <;> exact ⟨hcheck.query_eq, hcheck.connection_eq⟩

theorem sameQuery_recordReport (report : Except Error (List StatusRecord)) (s : Statement ν) :
    SameQuery s (s.recordReport report).2 := by
  refine sameQuery_run (fun s => ?_) s
  cases report <;> exact ⟨rfl, rfl⟩

theorem sameQuery_bindColumn (index : UInt16) (buffer : DataBuffer) (s : Statement ν) :
    SameQuery s (s.bindColumn index buffer).2 := by
  refine sameQuery_run (fun s => ?_) s
  split
  · exact ⟨rfl, rfl⟩
  · split <;> exact ⟨rfl, rfl⟩

theorem sameQuery_bindParameter (index : UInt16) (buffer : DataBuffer) (type : SqlType)
    (s : Statement ν) : SameQuery s (s.bindParameter index buffer type).2 := by
  refine sameQuery_run (fun s => ?_) s
  split
  · exact ⟨rfl, rfl⟩
  · split
    · exact ⟨rfl, rfl⟩
    · split <;> exact ⟨rfl, rfl⟩

variable {s s₁ s₂ : Statement (Recorded ν)}

theorem Leads.trans (h : s.Leads s₁) (h' : s₁.Leads s₂) : s.Leads s₂ := by
  intro hs
  obtain ⟨hs₁, hkeeps⟩ := h hs
  obtain ⟨hs₂, hkeeps'⟩ := h' hs₁
  exact ⟨hs₂, hkeeps.trans hkeeps'⟩

/-- What touches neither the query nor the connection sends nothing. -/
theorem leads_of_eq (hq : s₁.query = s.query) (hc : s₁.connection = s.connection) :
    s.Leads s₁ := by
  intro hs
  refine ⟨fun query h => hs query (hq ▸ h), ?_⟩
  rw [id?, id?, hq, hc]
  exact .refl _ _

theorem leads_run
    {operation : Statement (Recorded ν) → Except Error Outcome × Statement (Recorded ν)}
    (h : ∀ s : Statement (Recorded ν), s.Leads (operation s).2) (s : Statement (Recorded ν)) :
    s.Leads (run operation s).2 := by
  have hblank : s.Leads { s with diagnostics := .reset } := leads_of_eq rfl rfl
  exact hblank.trans ((h _).trans (leads_of_eq rfl rfl))

variable [Network ν]

/-- Does one thing with a statement. -/
def apply (s : Statement ν) : StatementOp → Statement ν
  | .bindColumn index buffer => (s.bindColumn index buffer).2
  | .unbindColumn index => (s.unbindColumn index).2
  | .unbindAllColumns => s.unbindAllColumns.2
  | .bindParameter index buffer type => (s.bindParameter index buffer type).2
  | .unbindParameter index => (s.unbindParameter index).2
  | .unbindAllParameters => s.unbindAllParameters.2
  | .prepare sql => (s.prepare sql).2
  | .execute => s.execute.2
  | .executeSql sql => (s.executeSql sql).2
  | .findColumns schema table column => (s.findColumns schema table column).2
  | .findTables catalog schema table tableType =>
    (s.findTables catalog schema table tableType).2
  | .findForeignKeys primaryKey foreignKey => (s.findForeignKeys primaryKey foreignKey).2
  | .close => s.close.2
  | .fetch => s.fetch.2
  | .describe => s.describe.2
  | .affectedRows => s.affectedRows.2
  | .getAttribute index attr buffer => (s.getAttribute index attr buffer).2.2

/-- Does one thing after another with a statement. -/
def applyAll (s : Statement ν) (ops : List StatementOp) : Statement ν := ops.foldl apply s

theorem sameQuery_apply (s : Statement ν) {op : StatementOp} (h : op.keepsQuery = true) :
    SameQuery s (s.apply op) := by
  cases op with
  | bindColumn index buffer => exact s.sameQuery_bindColumn index buffer
  | bindParameter index buffer type => exact s.sameQuery_bindParameter index buffer type
  | unbindColumn => exact sameQuery_run (fun _ => ⟨rfl, rfl⟩) s
  | unbindAllColumns => exact sameQuery_run (fun _ => ⟨rfl, rfl⟩) s
  | unbindParameter => exact sameQuery_run (fun _ => ⟨rfl, rfl⟩) s
  | unbindAllParameters => exact sameQuery_run (fun _ => ⟨rfl, rfl⟩) s
  | describe => exact s.sameQuery_checkQuery .queryNotPrepared
  | affectedRows => exact s.sameQuery_affectedRows
  | getAttribute => exact s.sameQuery_recordReport _
  | prepare | execute | executeSql | findColumns | findTables | findForeignKeys => cases h
  | close | fetch => cases h

/-- A query that is at hand is closed before another takes its place. -/
theorem leads_replaceQuery (query : Query) (hsound : query.Sound) (hid : query.id? = none)
    (s : Statement (Recorded ν)) : s.Leads (s.replaceQuery query).2 := by
  intro hs
  have hnew : ∀ q, some query = some q → q.Sound := by
    rintro q ⟨⟩
    exact hsound
  unfold replaceQuery
  cases hq : s.query with
  | none =>
    refine ⟨hnew, ?_⟩
    show s.connection.Keeps s.id? s.connection query.id?
    rw [id?, hq, hid]
    exact .refl _ _
  | some previous =>
    obtain ⟨_, _, hkeeps⟩ := Query.close_keeps (hs previous hq) s.connection
    obtain ⟨⟨result, closed, c⟩, hr⟩ : ∃ r, previous.close s.connection = r := ⟨_, rfl⟩
    have hprevious : s.id? = previous.id? := by rw [id?, hq, Option.bind_some]
    rw [hr] at hkeeps
    rw [hprevious]
    simp only [hr]
    cases result with
    | ok _ =>
      refine ⟨hnew, ?_⟩
      show s.connection.Keeps previous.id? c query.id?
      rw [hid]
      exact hkeeps
    | error e => exact ⟨fun q h => (by cases h), hkeeps⟩

theorem leads_executeCurrent (s : Statement (Recorded ν)) : s.Leads s.executeCurrent.2 := by
  intro hs
  unfold executeCurrent
  cases hq : s.query with
  | none => exact leads_of_eq rfl rfl hs
  | some query =>
    obtain ⟨hsound, hkeeps⟩ := Query.execute_keeps (hs query hq) s.parameters s.connection
    rw [id?, hq]
    refine ⟨?_, hkeeps⟩
    rintro q ⟨⟩
    exact hsound

theorem leads_executeQuery (query : Query) (hsound : query.Sound) (hid : query.id? = none)
    (s : Statement (Recorded ν)) : s.Leads (s.executeQuery query).2 := by
  refine leads_run (fun s => ?_) s
  have hreplace := leads_replaceQuery query hsound hid s
  obtain ⟨⟨result, s₁⟩, hr⟩ : ∃ r, s.replaceQuery query = r := ⟨_, rfl⟩
  rw [hr] at hreplace
  simp only [hr]
  cases result with
  | error e => exact hreplace
  | ok _ => exact hreplace.trans (leads_executeCurrent s₁)

theorem leads_prepare (sql : String) (s : Statement (Recorded ν)) :
    s.Leads (s.prepare sql).2 := by
  refine leads_run (fun s => ?_) s
  have hreplace := leads_replaceQuery (.ofSql sql) trivial rfl s
  obtain ⟨⟨result, s₁⟩, hr⟩ : ∃ r, s.replaceQuery (.ofSql sql) = r := ⟨_, rfl⟩
  rw [hr] at hreplace
  simp only [hr]
  cases result <;> exact hreplace

theorem leads_close (s : Statement (Recorded ν)) : s.Leads s.close.2 := by
  refine leads_run (fun s => ?_) s
  intro hs
  cases hq : s.query with
  | none => exact leads_of_eq rfl rfl hs
  | some query =>
    obtain ⟨hsound, hid, hkeeps⟩ := Query.close_keeps (hs query hq) s.connection
    rw [id?, hq]
    refine ⟨?_, ?_⟩
    · rintro q ⟨⟩
      exact hsound
    · show s.connection.Keeps query.id? _ (query.close s.connection).2.1.id?
      rw [hid]
      exact hkeeps

theorem leads_fetch (s : Statement (Recorded ν)) : s.Leads s.fetch.2 := by
  refine leads_run (fun s => ?_) s
  intro hs
  cases hq : s.query with
  | none => exact leads_of_eq rfl rfl hs
  | some query =>
    obtain ⟨hsound, hkeeps⟩ := Query.fetch_keeps (hs query hq) s.connection s.columns
    rw [id?, hq]
    refine ⟨?_, hkeeps⟩
    rintro q ⟨⟩
    exact hsound

theorem leads_apply (s : Statement (Recorded ν)) (op : StatementOp) : s.Leads (s.apply op) := by
  by_cases hkeeps : op.keepsQuery = true
  · have hsame := s.sameQuery_apply hkeeps
    exact leads_of_eq hsame.query_eq hsame.connection_eq
  · cases op with
    | prepare sql => exact leads_prepare sql s
    | execute => exact leads_run leads_executeCurrent s
    | executeSql sql => exact leads_executeQuery (.ofSql sql) trivial rfl s
    | findColumns schema table column =>
      exact leads_executeQuery (.ofColumns schema table column) rfl rfl s
    | findTables catalog schema table tableType =>
      exact leads_executeQuery (.ofTables catalog schema table tableType) rfl rfl s
    | findForeignKeys primaryKey foreignKey =>
      exact leads_executeQuery (.foreignKeys { primaryKey, foreignKey }) trivial rfl s
    | close => exact leads_close s
    | fetch => exact leads_fetch s
    | _ => exact absurd rfl hkeeps

theorem leads_applyAll (s : Statement (Recorded ν)) (ops : List StatementOp) :
    s.Leads (s.applyAll ops) := by
  induction ops generalizing s with
  | nil => exact leads_of_eq rfl rfl
  | cons op ops ih => exact (leads_apply s op).trans (ih (s.apply op))

/-- A statement that ends closes its query. -/
theorem finish_keeps (hs : s.Sound) : s.connection.Keeps s.id? s.finish none := by
  unfold finish
  cases hq : s.query with
  | none =>
    rw [id?, hq]
    exact .refl _ none
  | some query =>
    obtain ⟨_, _, hkeeps⟩ := Query.close_keeps (hs query hq) s.connection
    rw [id?, hq]
    exact hkeeps

/-- Whatever is done with a statement, it fetches from and closes only the cursor that was opened
last, leaves a closed one alone, and sends a query only while none is open. When it has ended over a
stream that works, every cursor was closed, and once. -/
theorem requests_disciplined (c : Connection ν) (ops : List StatementOp) :
    let s := (Statement.ofConnection c.recorded).applyAll ops
    ∃ trips last, Spelled c.isOpen trips s.connection.transcript s.connection.isOpen ∧
      Spelled c.isOpen (trips ++ last) s.finish.transcript s.finish.isOpen ∧
      Disciplined (trips ++ last) ∧ (s.finish.isOpen = true → ClosedOnce (trips ++ last)) := by
  have hsound : (Statement.ofConnection c.recorded).Sound := fun query h => by cases h
  obtain ⟨hs, hkeeps⟩ := leads_applyAll (Statement.ofConnection c.recorded) ops hsound
  obtain ⟨trips, reached, hexchanges, hpath, hreached⟩ := hkeeps
  obtain ⟨last, reached', hlast, hpath', hclosed⟩ :=
    (finish_keeps hs).extends hexchanges hpath hreached
  obtain ⟨transfers, ht, hspelled⟩ := hexchanges
  obtain ⟨transfers', ht', hspelled'⟩ := hlast
  cases (List.nil_append _).symm.trans ht.symm
  cases (List.nil_append _).symm.trans ht'.symm
  refine ⟨trips, last, hspelled, hspelled', hpath'.disciplined, fun hopen => ?_⟩
  cases hclosed hopen
  exact hpath'.closedOnce

end Statement

end GridClient
