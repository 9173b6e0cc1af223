import GridClient.Proofs.CatalogRows
import GridClient.Proofs.ResultSet
import GridClient.Query.Basic
import Mathlib.Logic.Relation

/-!
The end of the data. A query that has come to it stays there, one that was closed stays closed, and
what a query tells about further rows can be relied on: without any, a fetch does nothing at all.
-/

namespace GridClient

variable {ν : Type} [Network ν]

/-! ### SQL queries -/

namespace Cursor

variable {cursor cursor' : Cursor} {c c' : Connection ν}

/-- Loading goes on to a page with a further row, or to the end. -/
theorem hasNext_of_loadPage {more : Bool} (hnext : cursor.hasNext = true)
    (h : cursor.loadPage c = (.ok more, cursor', c')) :
    cursor'.hasNext = more ∧ (more = true → cursor'.needsPage = false) := by
  fun_induction loadPage cursor c with
  | case1 => cases h
  | case2 => cases h
  | case3 => cases h
  | case4 _ _ _ _ _ _ _ _ _ hnext' ih => exact ih hnext' h
  | case5 _ _ _ _ _ _ _ _ _ hnext' =>
    cases h
    exact ⟨by simpa using hnext', fun hmore => by cases hmore⟩
  | case6 _ _ hneed =>
    cases h
    exact ⟨hnext, fun _ => by simpa using hneed⟩

/-- A row that may follow and needs no page is in the page at hand. -/
theorem entered_lt_of_held (hnext : cursor.hasNext = true) (hneed : cursor.needsPage = false) :
    cursor.entered < cursor.rowCount ∧ ∃ row, cursor.row = some row := by
  cases hrow : cursor.row with
  | none =>
    rw [needsPage, hrow] at hneed
    cases hneed
  | some row =>
    simp only [hasNext, needsPage, hrow, Option.isNone_some, Bool.false_or, Bool.or_eq_true,
      Bool.and_eq_false_iff, decide_eq_true_eq, decide_eq_false_iff_not] at hnext hneed
    refine ⟨?_, row, rfl⟩
    rcases hneed with hheld | hlast
    · exact Nat.lt_of_not_le hheld
    · exact hnext.resolve_right (by simp [hlast])

theorem increment_ne_false (hnext : cursor.hasNext = true) (hneed : cursor.needsPage = false) :
    cursor.increment ≠ .ok false cursor' := by
  intro hended
  obtain ⟨hlt, row, hrow⟩ := entered_lt_of_held hnext hneed
  have hattempted := cursor.attempted_increment
  rw [hended] at hattempted
  cases hattempted with
  | ended none_left =>
    rcases none_left with hnone | hle
    · cases hrow.symm.trans hnone
    · exact absurd hle (Nat.not_le_of_lt hlt)

end Cursor

namespace DataQuery

variable {q : DataQuery} {c : Connection ν} {cursor : Cursor}

omit [Network ν] in
/-- A row that was entered is delivered, or an error is told. -/
theorem deliverRow_ne_noData (q : DataQuery) (cursor : Cursor) (row : Row) (c : Connection ν)
    (before : Bindings DataBuffer) :
    (q.deliverRow cursor row c before).result ≠ .ok .noData := by
  unfold deliverRow
  split
  · simp
  · obtain ⟨⟨result, row', sink⟩, hr⟩ : ∃ r, row.deliver q.rowNumber row.size 1
      { columns := before } = r := ⟨_, rfl⟩
    simp only [hr]
    rcases result with fault | _
    · cases fault <;> simp
    · cases sink.warnings <;> simp [Outcome.ofTruncated]

omit [Network ν] in
theorem enterRow_ne_noData (hnext : cursor.hasNext = true) (hneed : cursor.needsPage = false)
    (q : DataQuery) (c : Connection ν) (before : Bindings DataBuffer) :
    (q.enterRow cursor c before).result ≠ .ok .noData := by
  unfold enterRow
  cases hincrement : cursor.increment with
  | error e cursor' => simp
  | ok entered cursor' =>
    cases entered with
    | false => exact absurd hincrement (Cursor.increment_ne_false hnext hneed)
    | true =>
      dsimp only
      cases cursor'.currentRow with
      | none => simp
      | some row => exact deliverRow_ne_noData _ cursor' row c before

/-- Whoever is told that there is no data has come to the end of the cursor. -/
theorem ended_of_noData {before : Bindings DataBuffer}
    (h : (q.fetch c before).result = .ok .noData) :
    ∃ cursor, (q.fetch c before).query.cursor = some cursor ∧
      (q.fetch c before).query.stalled = none ∧ cursor.hasNext = false := by
  cases hcursor : q.cursor with
  | none =>
    rw [fetch_of_unopened hcursor] at h
    cases h
  | some cursor =>
    cases hstalled : q.stalled with
    | some place =>
      rw [fetch_of_stalled hcursor hstalled] at h
      cases h
    | none =>
      cases hnext : cursor.hasNext with
      | false =>
        rw [fetch_of_ended hcursor hstalled hnext]
        exact ⟨cursor, hcursor, hstalled, hnext⟩
      | true =>
        obtain ⟨⟨result, cursor', c'⟩, hload⟩ : ∃ r, cursor.loadPage c = r := ⟨_, rfl⟩
        simp only [fetch, hcursor, hstalled, hnext, if_true, hload] at h ⊢
        rcases result with e | more
        · cases h
        · obtain ⟨hnext', hneed⟩ := Cursor.hasNext_of_loadPage hnext hload
          cases more with
          | false => exact ⟨cursor', rfl, rfl, hnext'⟩
          | true => exact absurd h (enterRow_ne_noData hnext' (hneed rfl) q c' before)

/-- A run that fails opens no cursor. -/
theorem query_of_failed_run {parameters : Bindings Parameter} {e : Error}
    (h : (q.run parameters c).1 = .error e) : (q.run parameters c).2.1 = q := by
  unfold run at h ⊢
  cases harguments : parameters.arguments with
  | error e => rfl
  | ok args =>
    simp only [harguments] at h ⊢
    obtain ⟨⟨result, c'⟩, hr⟩ : ∃ r, c.exchange (Request.execute q.sql c.options.distributedJoins
      c.options.pageSize args).write Decoder.executeResult.decode = r := ⟨_, rfl⟩
    simp only [hr] at h ⊢
    cases result with
    | error e => rfl
    | ok result => cases h

theorem cursor_of_failed_execute {parameters : Bindings Parameter} {e : Error}
    (h : (q.execute parameters c).1 = .error e) :
    (q.execute parameters c).2.1.cursor = none := by
  have hclose := q.cursor_of_close c
  unfold execute at h ⊢
  obtain ⟨⟨result, q', c'⟩, hr⟩ : ∃ r, q.close c = r := ⟨_, rfl⟩
  rw [hr] at hclose
  simp only [hr] at h ⊢
  cases result with
  | error e => exact hclose
  | ok _ =>
    simp only at h ⊢
    rw [query_of_failed_run h]
    exact hclose

end DataQuery

/-! ### Catalog queries -/

theorem ColumnSink.putRow_ne_noData (row : Int32) (values : List ColumnValue)
    (before : Bindings DataBuffer) : (putRow row values before).1 ≠ .ok .noData := by
  unfold putRow
  obtain ⟨⟨result, sink⟩, hr⟩ : ∃ r, putBound row values before.keys { columns := before } = r :=
    ⟨_, rfl⟩
  simp only [hr]
  rcases result with e | _
  · simp [Except.map]
  · cases sink.warnings <;> simp [Except.map, Outcome.ofTruncated]

namespace CatalogQuery

variable {ε : Type} [CatalogEntry ε] {q : CatalogQuery ε}

/-- The next fetch enters the row of this entry: it delivers the row, as far as its buffers take it,
and the row is used up. -/
structure Enters (q : CatalogQuery ε) (entry : ε) (c : Connection ν)
    (before : Bindings DataBuffer) : Prop where
  next_eq : q.found[q.fetched]? = some entry
  query_eq : (q.fetch c before).query = { q with fetched := q.fetched + 1 }
  delivered : (q.fetch c before).HandsOut (Int32.ofNat (min (q.fetched + 1) maxRowNumber))
    (some entry) before

omit [CatalogEntry ε] in
theorem dataAvailable_iff :
    q.dataAvailable = true ↔ q.executed = true ∧ ∃ entry, q.found[q.fetched]? = some entry := by
  rw [dataAvailable, Bool.and_eq_true, decide_eq_true_eq]
  refine and_congr_right fun _ => ⟨fun h => ⟨_, List.getElem?_eq_getElem h⟩, ?_⟩
  rintro ⟨entry, h⟩
  exact (List.getElem?_eq_some_iff.mp h).1

omit [Network ν] in
/-- A row is announced exactly when the next fetch enters it. -/
theorem dataAvailable_iff_enters
    (hwidth : ∀ entry : ε, (CatalogEntry.values entry).length ≤ 0xFFFF) (c : Connection ν)
    (before : Bindings DataBuffer) :
    q.dataAvailable = true ↔ ∃ entry, q.Enters entry c before := by
  rw [dataAvailable_iff]
  constructor
  · rintro ⟨hexecuted, entry, hentry⟩
    refine ⟨entry, hentry, ?_, ?_⟩
    · rw [fetch_of_entry hexecuted hentry]
    · rw [← hentry]
      exact fetch_hands_out hexecuted hwidth c before
  · rintro ⟨entry, hentry, hquery, -⟩
    refine ⟨?_, entry, hentry⟩
    cases hexecuted : q.executed with
    | true => rfl
    | false =>
      -- A query that was not run is left as it is, and has not handed a row out.
      rw [fetch_of_unexecuted hexecuted] at hquery
      exact absurd (congrArg CatalogQuery.fetched hquery).symm (Nat.succ_ne_self q.fetched)

omit [Network ν] in
theorem fetch_of_unavailable (h : q.dataAvailable = false) :
    (∀ (c : Connection ν) before, q.fetch c before = ⟨.ok .noData, q, c, before, []⟩) ∨
      ∀ (c : Connection ν) before,
        q.fetch c before = ⟨.error .queryNotExecuted, q, c, before, []⟩ := by
  cases hexecuted : q.executed with
  | false => exact .inr fun c before => fetch_of_unexecuted hexecuted c before
  | true =>
    refine .inl fun c before => fetch_of_ended hexecuted ?_ c before
    cases hentry : q.found[q.fetched]? with
    | none => rfl
    | some entry => cases h.symm.trans (dataAvailable_iff.mpr ⟨hexecuted, entry, hentry⟩)

omit [Network ν] in
theorem ended_of_noData {c : Connection ν} {before : Bindings DataBuffer}
    (h : (q.fetch c before).result = .ok .noData) :
    (q.fetch c before).query = q ∧ q.dataAvailable = false ∧
      ∀ (c : Connection ν) before, q.fetch c before = ⟨.ok .noData, q, c, before, []⟩ := by
  cases hexecuted : q.executed with
  | false =>
    rw [fetch_of_unexecuted hexecuted] at h
    cases h
  | true =>
    cases hentry : q.found[q.fetched]? with
    | none =>
      have hended := fetch_of_ended (ν := ν) hexecuted hentry
      refine ⟨by rw [hended], ?_, hended⟩
      rw [← Bool.not_eq_true, dataAvailable_iff]
      rintro ⟨-, entry, hsome⟩
      cases hentry.symm.trans hsome
    | some entry =>
      rw [fetch_of_entry hexecuted hentry] at h
      exact absurd h (ColumnSink.putRow_ne_noData _ _ before)

theorem fetch_of_failed_execute {c : Connection ν} {e : Error} (h : (q.execute c).1 = .error e)
    (c' : Connection ν) (before : Bindings DataBuffer) :
    (q.execute c).2.1.fetch c' before =
      ⟨.error .queryNotExecuted, (q.execute c).2.1, c', before, []⟩ := by
  rw [query_of_failed_execute h]
  exact fetch_of_unexecuted rfl c' before

end CatalogQuery

/-! ### Queries of any kind -/

namespace Query

/-- Every fetch, over any connection and with any buffers, comes to this result and leaves all as it
is: nothing is sent, and nothing is written. -/
def Repeats (ν : Type) [Network ν] (query : Query) (result : Except Error Outcome) : Prop :=
  ∀ (c : Connection ν) (bound : Bindings DataBuffer),
    query.fetch c bound = ⟨result, query, c, bound, []⟩

/-- What a fetch makes of a query. -/
def FetchStep (ν : Type) [Network ν] (query next : Query) : Prop :=
  ∃ (c : Connection ν) (bound : Bindings DataBuffer), next = (query.fetch c bound).query

/-- What a fetch, a close or a run that fails makes of a query. -/
inductive UnrunStep (ν : Type) [Network ν] (query : Query) : Query → Prop where
  | fetch (c : Connection ν) (bound : Bindings DataBuffer) :
    UnrunStep ν query (query.fetch c bound).query
  | close (c : Connection ν) : UnrunStep ν query (query.close c).2.1
  | execute {c : Connection ν} {parameters : Bindings Parameter} {e : Error}
    (failed : (query.execute parameters c).1 = .error e) :
    UnrunStep ν query (query.execute parameters c).2.1

variable {query next : Query} {result : Except Error Outcome} {c : Connection ν}
  {bound : Bindings DataBuffer}

theorem repeats_data {q : DataQuery}
    (h : ∀ (c : Connection ν) bound, q.fetch c bound = ⟨result, q, c, bound, []⟩) :
    (data q).Repeats ν result := by
  intro c bound
  simp only [fetch, h]

theorem repeats_columns {q : CatalogQuery ColumnMeta}
    (h : ∀ (c : Connection ν) bound, q.fetch c bound = ⟨result, q, c, bound, []⟩) :
    (columns q).Repeats ν result := by
  intro c bound
  simp only [fetch, h]

theorem repeats_tables {q : CatalogQuery TableMeta}
    (h : ∀ (c : Connection ν) bound, q.fetch c bound = ⟨result, q, c, bound, []⟩) :
    (tables q).Repeats ν result := by
  intro c bound
  simp only [fetch, h]

/-- Without a further row a fetch tells so, or tells an error, and does nothing. -/
theorem repeats_of_unavailable (h : query.dataAvailable = false) :
    ∃ result, (result = .ok .noData ∨ ∃ e, result = .error e) ∧ query.Repeats ν result := by
  cases query with
  | data q =>
    cases hcursor : q.cursor with
    | none => exact ⟨_, .inr ⟨_, rfl⟩, repeats_data (DataQuery.fetch_of_unopened hcursor)⟩
    | some cursor =>
      cases hstalled : q.stalled with
      | some place =>
        exact ⟨_, .inr ⟨_, rfl⟩, repeats_data (DataQuery.fetch_of_stalled hcursor hstalled)⟩
      | none =>
        have hend : cursor.hasNext = false := by
          rw [dataAvailable, DataQuery.dataAvailable, hcursor, hstalled] at h
          exact h
        exact ⟨_, .inl rfl, repeats_data (DataQuery.fetch_of_ended hcursor hstalled hend)⟩
  | columns q =>
    rcases CatalogQuery.fetch_of_unavailable h with hended | hunexecuted
    · exact ⟨_, .inl rfl, repeats_columns hended⟩
    · exact ⟨_, .inr ⟨_, rfl⟩, repeats_columns hunexecuted⟩
  | tables q =>
    rcases CatalogQuery.fetch_of_unavailable h with hended | hunexecuted
    · exact ⟨_, .inl rfl, repeats_tables hended⟩
    · exact ⟨_, .inr ⟨_, rfl⟩, repeats_tables hunexecuted⟩
  | foreignKeys q =>
    refine ⟨q.fetch, ?_, fun c bound => rfl⟩
    unfold ForeignKeysQuery.fetch
    split
    · exact .inl rfl
    · exact .inr ⟨_, rfl⟩

/-- A fetch that finds no data leaves the query at its end. -/
theorem repeats_of_noData (h : (query.fetch c bound).result = .ok .noData) :
    (query.fetch c bound).query.dataAvailable = false ∧
      (query.fetch c bound).query.Repeats ν (.ok .noData) := by
  cases query with
  | data q =>
    obtain ⟨cursor, hcursor, hstalled, hend⟩ := DataQuery.ended_of_noData h
    refine ⟨?_, repeats_data (DataQuery.fetch_of_ended hcursor hstalled hend)⟩
    show (q.fetch c bound).query.dataAvailable = false
    rw [DataQuery.dataAvailable, hcursor, hstalled]
    exact hend
  | columns q =>
    obtain ⟨hsame, hunavailable, hended⟩ := CatalogQuery.ended_of_noData h
    show (columns (q.fetch c bound).query).dataAvailable = false ∧
      (columns (q.fetch c bound).query).Repeats ν _
    rw [hsame]
    exact ⟨hunavailable, repeats_columns hended⟩
  | tables q =>
    obtain ⟨hsame, hunavailable, hended⟩ := CatalogQuery.ended_of_noData h
    show (tables (q.fetch c bound).query).dataAvailable = false ∧
      (tables (q.fetch c bound).query).Repeats ν _
    rw [hsame]
    exact ⟨hunavailable, repeats_tables hended⟩
  | foreignKeys q =>
    refine ⟨rfl, fun c' bound' => ?_⟩
    show Fetched.mk q.fetch (foreignKeys q) c' bound' [] = _
    rw [show q.fetch = .ok .noData from h]
    rfl

/-- A query that was closed, whatever came of it, has not been run. -/
theorem repeats_of_close (query : Query) (c : Connection ν) :
    (query.close c).2.1.Repeats ν (.error .queryNotExecuted) := by
  cases query with
  | data q => exact repeats_data (DataQuery.fetch_of_unopened (q.cursor_of_close c))
  | columns q => exact repeats_columns fun c bound => CatalogQuery.fetch_of_unexecuted rfl c bound
  | tables q => exact repeats_tables fun c bound => CatalogQuery.fetch_of_unexecuted rfl c bound
  | foreignKeys q => exact fun c bound => rfl

theorem repeats_of_failed_execute {parameters : Bindings Parameter} {e : Error}
    (h : (query.execute parameters c).1 = .error e) :
    (query.execute parameters c).2.1.Repeats ν (.error .queryNotExecuted) := by
  cases query with
  | data q =>
    exact repeats_data (DataQuery.fetch_of_unopened (DataQuery.cursor_of_failed_execute h))
  | columns q => exact repeats_columns (CatalogQuery.fetch_of_failed_execute h)
  | tables q => exact repeats_tables (CatalogQuery.fetch_of_failed_execute h)
  | foreignKeys q => cases h

/-! ### Runs -/

theorem Repeats.fetchStep (h : query.Repeats ν result) (step : query.FetchStep ν next) :
    next = query := by
  obtain ⟨c, bound, rfl⟩ := step
  rw [h c bound]

/-- A query that repeats itself is the same after any number of fetches. -/
theorem Repeats.fetchSteps (h : query.Repeats ν result)
    (steps : Relation.ReflTransGen (FetchStep ν) query next) : next = query := by
  induction steps with
  | refl => rfl
  | tail _ step ih =>
    subst ih
    exact h.fetchStep step

theorem Repeats.unrunStep (h : query.Repeats ν (.error .queryNotExecuted))
    (step : query.UnrunStep ν next) : next.Repeats ν (.error .queryNotExecuted) := by
  cases step with
  | fetch c bound =>
    rw [h.fetchStep ⟨c, bound, rfl⟩]
    exact h
  | close c => exact query.repeats_of_close c
  | execute failed => exact repeats_of_failed_execute failed

/-- Nothing but a run that goes well ends that a query has not been run. -/
theorem Repeats.unrunSteps (h : query.Repeats ν (.error .queryNotExecuted))
    (steps : Relation.ReflTransGen (UnrunStep ν) query next) :
    next.Repeats ν (.error .queryNotExecuted) := by
  induction steps with
  | refl => exact h
  | tail _ step ih => exact ih.unrunStep step

/-- Once a fetch has found no data, every later one finds none and does nothing, until the query is
run again or closed. Once it is closed every fetch is told that it was not run. -/
theorem end_of_data_absorbs (ν : Type) [Network ν] (query : Query) :
    (query.dataAvailable = false → ∃ result, (result = .ok .noData ∨ ∃ e, result = .error e) ∧
      query.Repeats ν result) ∧
    (∀ (c : Connection ν) (bound : Bindings DataBuffer),
      (query.fetch c bound).result = .ok .noData → ∀ later,
        Relation.ReflTransGen (FetchStep ν) (query.fetch c bound).query later →
          later.dataAvailable = false ∧ later.Repeats ν (.ok .noData)) ∧
    (∀ (c : Connection ν) (later : Query),
      Relation.ReflTransGen (UnrunStep ν) (query.close c).2.1 later →
        later.Repeats ν (.error .queryNotExecuted)) ∧
    (∀ (q : CatalogQuery ColumnMeta) (c : Connection ν) (bound : Bindings DataBuffer),
      query = .columns q → (query.dataAvailable = true ↔ ∃ entry, q.Enters entry c bound)) ∧
    (∀ (q : CatalogQuery TableMeta) (c : Connection ν) (bound : Bindings DataBuffer),
      query = .tables q → (query.dataAvailable = true ↔ ∃ entry, q.Enters entry c bound)) := by
  refine ⟨repeats_of_unavailable, ?_, ?_, ?_, ?_⟩
  · intro c bound h later steps
    obtain ⟨hunavailable, hrepeats⟩ := repeats_of_noData h
    cases hrepeats.fetchSteps steps
    exact ⟨hunavailable, hrepeats⟩
  · exact fun c later steps => (query.repeats_of_close c).unrunSteps steps
  · rintro q c bound rfl
    exact CatalogQuery.dataAvailable_iff_enters
      (fun entry => by rw [entry.length_values]; decide) c bound
  · rintro q c bound rfl
    exact CatalogQuery.dataAvailable_iff_enters
      (fun entry => by rw [entry.length_values]; decide) c bound

/-- A query in SQL whose only page has no row, before and after it is closed, and a catalog query
with a row to come. -/
theorem end_of_data_absorbs_empty_page :
    let c : Connection ScriptedPeer :=
      { channel := ⟨⟨none, ScriptedPeer.pageScript 5 [[]], [], false, [], []⟩, []⟩, isOpen := true }
    let query : Query := .data { sql := "", cursor := some (.opened 5) }
    let ended := (query.fetch c {}).query
    let closed := (query.close c).2.1
    let q : CatalogQuery TableMeta := ⟨.tablesMeta "" "" "" "", [⟨"", "", "T", ""⟩], true, 0⟩
    (query.fetch c {}).result = .ok .noData ∧ ended.dataAvailable = false ∧
      ended.Repeats ScriptedPeer (.ok .noData) ∧
      (∃ result, (result = .ok .noData ∨ ∃ e, result = .error e) ∧
        ended.Repeats ScriptedPeer result) ∧
      closed.UnrunStep ScriptedPeer (closed.fetch c {}).query ∧
      (closed.fetch c {}).query.Repeats ScriptedPeer (.error .queryNotExecuted) ∧
      (tables q).dataAvailable = true ∧ ∃ entry, q.Enters entry c {} := by
  intro c query ended closed q
  have hserved : ServesPages 5 c [[]] := ScriptedPeer.servesPages rfl rfl (by decide)
  have hawaits : DataQuery.Awaits { sql := "", cursor := some (.opened 5) } 5 [] 0 c :=
    ⟨⟨_, rfl, .opened (List.cons_ne_nil _ _) hserved (by simp [Countable]) rfl⟩, rfl, rfl⟩
  have hnoData : (query.fetch c {}).result = .ok .noData := (hawaits.takes {}).1.1
  obtain ⟨hunavailable, hrepeats⟩ :=
    (end_of_data_absorbs ScriptedPeer query).2.1 c {} hnoData _ .refl
  have hstep : closed.UnrunStep ScriptedPeer (closed.fetch c {}).query := .fetch c {}
  exact ⟨hnoData, hunavailable, hrepeats,
    (end_of_data_absorbs ScriptedPeer ended).1 hunavailable, hstep,
    (end_of_data_absorbs ScriptedPeer query).2.2.1 c _ (.single hstep), rfl,
    ((end_of_data_absorbs ScriptedPeer (tables q)).2.2.2.2 q c {} rfl).mp rfl⟩

end Query

end GridClient
