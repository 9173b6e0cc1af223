import GridClient.Proofs.CursorDiscipline
import GridClient.Proofs.RoundTrip
import GridClient.Query.Basic

/-!
What queries send. Every operation of a query takes the cursor that the query holds to the one that
it holds afterwards, by requests that the discipline of cursors allows. Once the stream has been
given up nothing is sent, and it does not matter any more what a query still holds.
-/
namespace GridClient

/-- Requests and answers spelled out as bytes, on a stream that was open or not and still is or
not. Only the last request can be without a whole answer, and then the stream was given up. -/
inductive Spelled : Bool → List Trip → List Transfer → Bool → Prop where
  | nil (isOpen : Bool) : Spelled isOpen [] [] isOpen
  | answered {request : Request} {payload answer : Bytes} {trips : List Trip}
    {transfers : List Transfer} {isOpen : Bool} (built : request.encode = .ok payload)
    (short : answer.length < 0x80000000) (rest : Spelled true trips transfers isOpen) :
    Spelled true (⟨request, some answer⟩ :: trips)
      (Frame.sent payload ++ Frame.got answer ++ transfers) isOpen
  | broken {request : Request} {payload cut part : Bytes} (built : request.encode = .ok payload)
    (off : Frame.BrokenOff payload cut part) :
    Spelled true [⟨request, none⟩] (cut.map .sent ++ part.map .got) false

theorem Spelled.append {isOpen isOpen₁ isOpen₂ : Bool} {trips trips' : List Trip}
    {transfers transfers' : List Transfer} (h : Spelled isOpen trips transfers isOpen₁)
    (h' : Spelled isOpen₁ trips' transfers' isOpen₂) :
    Spelled isOpen (trips ++ trips') (transfers ++ transfers') isOpen₂ := by
  induction h with
  | nil => exact h'
  | answered built short _ ih =>
    rw [List.append_assoc]
    exact .answered built short (ih h')
  | broken built off =>
    cases h' with
    | nil =>
      rw [List.append_nil, List.append_nil]
      exact .broken built off

namespace Connection

variable {ν : Type} {α : Type} {c c₁ c₂ : Connection (Recorded ν)}
  {cursor cursor₁ cursor₂ : Option QueryId} {trips : List Trip}

/-- The record of one connection is that of the other and these requests with their answers. -/
def Exchanges (c : Connection (Recorded ν)) (trips : List Trip) (c' : Connection (Recorded ν)) :
    Prop :=
  ∃ transfers, c'.transcript = c.transcript ++ transfers ∧
    Spelled c.isOpen trips transfers c'.isOpen

/-- Requests that lead from one open cursor to another, unless the stream has been given up. -/
def Keeps (c : Connection (Recorded ν)) (cursor : Option QueryId) (c' : Connection (Recorded ν))
    (cursor' : Option QueryId) : Prop :=
  ∃ trips reached, c.Exchanges trips c' ∧ CursorPath cursor trips reached ∧
    (c'.isOpen = true → reached = cursor')

theorem exchanges_nil (ht : c₁.transcript = c.transcript) (ho : c₁.isOpen = c.isOpen) :
    c.Exchanges [] c₁ := by
  refine ⟨[], ?_, ?_⟩
  · rw [ht, List.append_nil]
  · rw [ho]
    exact .nil _

/-- A request that was answered on record. -/
theorem exchanges_answered {request : Request} {payload answer : Bytes} (ho : c.isOpen = true)
    (ho₁ : c₁.isOpen = true) (hbuilt : request.encode = .ok payload)
    (hshort : answer.length < 0x80000000)
    (ht : c₁.transcript = c.transcript ++ (Frame.sent payload ++ Frame.got answer)) :
    c.Exchanges [⟨request, some answer⟩] c₁ := by
  refine ⟨_, ht, ?_⟩
  have hs := Spelled.answered hbuilt hshort (.nil true)
  rw [ho, ho₁]
  rwa [List.append_nil] at hs

/-- A request that broke off on record. -/
theorem exchanges_broken {request : Request} {payload cut part : Bytes} (ho : c.isOpen = true)
    (ho₁ : c₁.isOpen = false) (hbuilt : request.encode = .ok payload)
    (hoff : Frame.BrokenOff payload cut part)
    (ht : c₁.transcript = c.transcript ++ (cut.map .sent ++ part.map .got)) :
    c.Exchanges [⟨request, none⟩] c₁ := by
  refine ⟨_, ht, ?_⟩
  rw [ho, ho₁]
  exact .broken hbuilt hoff

theorem Exchanges.append {trips' : List Trip} (h : c.Exchanges trips c₁)
    (h' : c₁.Exchanges trips' c₂) : c.Exchanges (trips ++ trips') c₂ := by
  obtain ⟨transfers, ht, hs⟩ := h
  obtain ⟨transfers', ht', hs'⟩ := h'
  exact ⟨transfers ++ transfers', by rw [ht', ht, List.append_assoc], hs.append hs'⟩

theorem Keeps.refl (c : Connection (Recorded ν)) (cursor : Option QueryId) :
    c.Keeps cursor c cursor :=
  ⟨[], cursor, exchanges_nil rfl rfl, .nil _, fun _ => rfl⟩

/-- More requests behind some others. Over a stream that was given up there are none. -/
theorem Keeps.extends {reached : Option QueryId} (h' : c₁.Keeps cursor₁ c₂ cursor₂)
    (hexchanges : c.Exchanges trips c₁) (hpath : CursorPath cursor trips reached)
    (hreached : c₁.isOpen = true → reached = cursor₁) :
    ∃ last reached', c.Exchanges (trips ++ last) c₂ ∧
      CursorPath cursor (trips ++ last) reached' ∧ (c₂.isOpen = true → reached' = cursor₂) := by
  obtain ⟨last, reached', hlast, hpath', hreached'⟩ := h'
  have hexchanges := hexchanges.append hlast
  obtain ⟨transfers', ht', hs'⟩ := hlast
  by_cases ho : c₁.isOpen = true
  · cases hreached ho
    exact ⟨last, reached', hexchanges, hpath.append hpath', hreached'⟩
  · have hclosed : c₁.isOpen = false := by simpa using ho
    rw [hclosed] at hs'
    generalize c₂.isOpen = isOpen₂ at hs' ⊢
    cases hs' with
    | nil =>
      refine ⟨[], reached, hexchanges, ?_, fun h => by cases h⟩
      rwa [List.append_nil]

theorem Keeps.trans (h : c.Keeps cursor c₁ cursor₁) (h' : c₁.Keeps cursor₁ c₂ cursor₂) :
    c.Keeps cursor c₂ cursor₂ := by
  obtain ⟨trips, reached, hexchanges, hpath, hreached⟩ := h
  obtain ⟨last, reached', hlast⟩ := h'.extends hexchanges hpath hreached
  exact ⟨trips ++ last, reached', hlast⟩

/-- What an exchange about a request comes to. -/
inductive Asked (c : Connection (Recorded ν)) (request : Request)
    (decode : Bytes → Except Error α) : Except Error α → Connection (Recorded ν) → Prop where
  /-- Nothing was sent. -/
  | silent {e : Error} {c' : Connection (Recorded ν)} (exchanges : c.Exchanges [] c')
    (unbuilt : c'.isOpen = true → ∃ e, request.encode = .error e) :
    Asked c request decode (.error e) c'
  | answered {answer : Bytes} {c' : Connection (Recorded ν)}
    (exchanges : c.Exchanges [⟨request, some answer⟩] c') :
    Asked c request decode (decode answer) c'
  | broken {e : Error} {c' : Connection (Recorded ν)}
    (exchanges : c.Exchanges [⟨request, none⟩] c') (closed : c'.isOpen = false) :
    Asked c request decode (.error e) c'

theorem asked_exchange [Network ν] (c : Connection (Recorded ν)) (request : Request)
    (decode : Bytes → Except Error α) :
    c.Asked request decode (c.exchange request.write decode).1
      (c.exchange request.write decode).2 := by
  obtain ⟨h, _, _⟩ := exchange_recorded request.write decode c
  obtain ⟨⟨result, c'⟩, hr⟩ : ∃ r, c.exchange request.write decode = r := ⟨_, rfl⟩
  rw [hr] at h ⊢
  cases h with
  | closed hclosed =>
    exact .silent (exchanges_nil rfl rfl) fun h => by cases hclosed.symm.trans h
  | unsent _ hunbuilt =>
    exact .silent (exchanges_nil rfl rfl) fun _ => ⟨_, Request.encode_of_write_error hunbuilt⟩
  | answered hopen hbuilt hopen' _ hshort htranscript =>
    exact .answered (exchanges_answered hopen hopen' (Request.write_eq_ok_iff.mp hbuilt) hshort
      htranscript)
  | broken hopen hbuilt hclosed _ hoff htranscript =>
    exact .broken (exchanges_broken hopen hclosed (Request.write_eq_ok_iff.mp hbuilt) hoff
      htranscript) hclosed

/-- A request that has the same effect on the cursor whatever the answer. -/
theorem Asked.keeps {request : Request} {decode : Bytes → Except Error α} {result : Except Error α}
    (h : c.Asked request decode result c₁)
    (hstep : ∀ answer, CursorStep cursor ⟨request, answer⟩ cursor₁)
    (hbuilt : cursor = cursor₁ ∨ ∃ payload, request.encode = .ok payload) :
    c.Keeps cursor c₁ cursor₁ := by
  cases h with
  | silent exchanges unbuilt =>
    refine ⟨[], cursor, exchanges, .nil _, fun hopen => ?_⟩
    obtain ⟨e, he⟩ := unbuilt hopen
    rcases hbuilt with heq | ⟨payload, hp⟩
    · exact heq
    · cases he.symm.trans hp
  | answered exchanges => exact ⟨_, cursor₁, exchanges, .single (hstep _), fun _ => rfl⟩
  | broken exchanges => exact ⟨_, cursor₁, exchanges, .single (hstep _), fun _ => rfl⟩

/-- A request to execute a query, which opens a cursor if its answer can be decoded. -/
theorem Asked.keeps_executed {sql : String} {distributedJoins : Bool} {pageSize : Int32}
    {args : List WireValue} {result : Except Error ExecuteResult}
    (h : c.Asked (.execute sql distributedJoins pageSize args) Decoder.executeResult.decode result
      c₁) : c.Keeps none c₁ (result.toOption.map (·.id)) := by
  cases h with
  | silent exchanges => exact ⟨[], none, exchanges, .nil _, fun _ => rfl⟩
  | answered exchanges => exact ⟨_, _, exchanges, .single (.ofQuery rfl), fun _ => rfl⟩
  | broken exchanges => exact ⟨_, _, exchanges, .single (.ofQuery rfl), fun _ => rfl⟩

end Connection

/-! ### Queries in SQL -/

namespace DataQuery

variable {ν : Type} [Network ν]

/-- A query that is closed gives its cursor up, whatever comes of it. -/
theorem close_keeps (q : DataQuery) (c : Connection (Recorded ν)) :
    (q.close c).2.1.cursor = none ∧ c.Keeps q.id? (q.close c).2.2 none := by
  unfold close
  cases hq : q.cursor with
  | none =>
    refine ⟨hq, ?_⟩
    rw [id?, hq]
    exact .refl c none
  | some cursor =>
    have hasked := c.asked_exchange (.close cursor.id) Decoder.closedCursor.decode
    have hkeeps := hasked.keeps (.close cursor.id) (.inr ⟨_, rfl⟩)
    rw [id?, hq, Option.map_some]
    obtain ⟨⟨result, c'⟩, hr⟩ : ∃ r,
      c.exchange (Request.close cursor.id).write Decoder.closedCursor.decode = r := ⟨_, rfl⟩
    rw [hr] at hkeeps
    simp only [hr]
    cases result <;> exact ⟨rfl, hkeeps⟩

/-- A query that is run without a cursor holds the one that the node has opened, if it has. -/
theorem run_keeps {q : DataQuery} (hq : q.cursor = none) (parameters : Bindings Parameter)
    (c : Connection (Recorded ν)) :
    c.Keeps none (q.run parameters c).2.2 (q.run parameters c).2.1.id? := by
  have hid : q.id? = none := by rw [id?, hq, Option.map_none]
  unfold run
  cases parameters.arguments with
  | error e =>
    show c.Keeps none c q.id?
    rw [hid]
    exact .refl c none
  | ok args =>
    have hkeeps := (c.asked_exchange
      (.execute q.sql c.options.distributedJoins c.options.pageSize args)
      Decoder.executeResult.decode).keeps_executed
    obtain ⟨⟨result, c'⟩, hr⟩ : ∃ r, c.exchange
      (Request.execute q.sql c.options.distributedJoins c.options.pageSize args).write
      Decoder.executeResult.decode = r := ⟨_, rfl⟩
    rw [hr] at hkeeps
    simp only [hr]
    cases result with
    | error e =>
      show c.Keeps none c' q.id?
      rw [hid]
      exact hkeeps
    | ok result => exact hkeeps

theorem execute_keeps (q : DataQuery) (parameters : Bindings Parameter)
    (c : Connection (Recorded ν)) :
    c.Keeps q.id? (q.execute parameters c).2.2 (q.execute parameters c).2.1.id? := by
  obtain ⟨hnone, hkeeps⟩ := q.close_keeps c
  unfold execute
  obtain ⟨⟨result, q', c'⟩, hr⟩ : ∃ r, q.close c = r := ⟨_, rfl⟩
  rw [hr] at hnone hkeeps
  simp only [hr]
  cases result with
  | error e =>
    show c.Keeps q.id? c' q'.id?
    rw [id?, id?, hnone]
    exact hkeeps
  | ok outcome => exact hkeeps.trans (run_keeps hnone parameters c')

end DataQuery

namespace Cursor

variable {ν : Type} [Network ν]

theorem id_of_takePage {cursor cursor' : Cursor} {page : ResultPage}
    (h : cursor.takePage page = .ok cursor') : cursor'.id = cursor.id := by
  unfold takePage at h
  split at h
  · cases h
  · split at h
    · cases h
      rfl
    · cases h

/-- A page is asked for under the identity of the cursor. -/
theorem fetch_keeps {id : QueryId} {pageSize : Int32} {c c' : Connection (Recorded ν)}
    {result : Except Error ResultPage}
    (h : c.exchange (Request.fetch id pageSize).write Decoder.resultPage.decode = (result, c')) :
    c.Keeps (some id) c' (some id) := by
  have hkeeps := (c.asked_exchange (.fetch id pageSize) Decoder.resultPage.decode).keeps
    (.fetch id pageSize) (.inl rfl)
  rwa [h] at hkeeps

/-- Pages are only asked for, however many. -/
theorem loadPage_keeps (cursor : Cursor) (c : Connection (Recorded ν)) :
    (cursor.loadPage c).2.1.id = cursor.id ∧
      c.Keeps (some cursor.id) (cursor.loadPage c).2.2 (some cursor.id) := by
  fun_induction loadPage cursor c with
  | case1 cursor c _ e c' h => exact ⟨rfl, fetch_keeps h⟩
  | case2 cursor c _ page c' h => exact ⟨rfl, fetch_keeps h⟩
  | case3 cursor c _ page c' h => exact ⟨rfl, fetch_keeps h⟩
  | case4 cursor c _ page c' h _ cursor' htake _ ih =>
    have hid := id_of_takePage htake
    rw [hid] at ih
    exact ⟨ih.1, (fetch_keeps h).trans ih.2⟩
  | case5 cursor c _ page c' h _ cursor' htake => exact ⟨id_of_takePage htake, fetch_keeps h⟩
  | case6 cursor c => exact ⟨rfl, .refl c _⟩

/-- Entering a row leaves the identity of the cursor as it is. -/
theorem id_of_increment (cursor : Cursor) :
    match cursor.increment with
    | .ok _ cursor' => cursor'.id = cursor.id
    | .error _ cursor' => cursor'.id = cursor.id := by
  have hattempted := cursor.attempted_increment
  generalize cursor.increment = result at hattempted
  cases hattempted <;> rfl

end Cursor

namespace DataQuery

variable {ν : Type}

theorem id?_deliverRow (q : DataQuery) (cursor : Cursor) (row : Row) (c : Connection ν)
    (columns : Bindings DataBuffer) :
    (q.deliverRow cursor row c columns).query.id? = some cursor.id ∧
      (q.deliverRow cursor row c columns).connection = c := by
  unfold deliverRow
  split
  · exact ⟨rfl, rfl⟩
  · obtain ⟨⟨result, row', sink⟩, hr⟩ :
        ∃ r, row.deliver q.rowNumber row.size 1 { columns } = r := ⟨_, rfl⟩
    simp only [hr]
    rcases result with ⟨_ | _⟩ | _ <;> exact ⟨rfl, rfl⟩

theorem id?_enterRow (q : DataQuery) (cursor : Cursor) (c : Connection ν)
    (columns : Bindings DataBuffer) :
    (q.enterRow cursor c columns).query.id? = some cursor.id ∧
      (q.enterRow cursor c columns).connection = c := by
  have hid := cursor.id_of_increment
  unfold enterRow
  cases hi : cursor.increment with
  | error e cursor' =>
    rw [hi] at hid
    exact ⟨congrArg some hid, rfl⟩
  | ok entered cursor' =>
    rw [hi] at hid
    cases entered with
    | false => exact ⟨congrArg some hid, rfl⟩
    | true =>
      cases hrow : cursor'.currentRow with
      | none =>
        simp only [hrow]
        exact ⟨congrArg some hid, trivial⟩
      | some row =>
        simp only [hrow]
        have hdeliver :=
          id?_deliverRow { q with rowNumber := q.rowNumber + 1 } cursor' row c columns
        rwa [show cursor'.id = cursor.id from hid] at hdeliver

/-- A fetch goes on with the cursor that the query holds. -/
theorem fetch_keeps [Network ν] (q : DataQuery) (c : Connection (Recorded ν))
    (columns : Bindings DataBuffer) :
    (q.fetch c columns).query.id? = q.id? ∧
      c.Keeps q.id? (q.fetch c columns).connection q.id? := by
  unfold fetch
  cases hq : q.cursor with
  | none => exact ⟨rfl, .refl c _⟩
  | some cursor =>
    have hid : q.id? = some cursor.id := by rw [id?, hq, Option.map_some]
    rw [hid]
    cases q.stalled with
    | some stalled => exact ⟨hid, .refl c _⟩
    | none =>
      by_cases hnext : cursor.hasNext = true
      · obtain ⟨hload, hkeeps⟩ := cursor.loadPage_keeps c
        obtain ⟨⟨result, cursor', c'⟩, hr⟩ : ∃ r, cursor.loadPage c = r := ⟨_, rfl⟩
        rw [hr] at hload hkeeps
        simp only [hnext, if_true, hr]
        have hsome : some cursor'.id = some cursor.id := congrArg some hload
        rcases result with e | (_ | _)
        · exact ⟨hsome, hkeeps⟩
        · exact ⟨hsome, hkeeps⟩
        · obtain ⟨henter, hconnection⟩ := q.id?_enterRow cursor' c' columns
          simp only [henter, hconnection]
          exact ⟨hsome, hkeeps⟩
      · simp only [hnext]
        exact ⟨hid, .refl c _⟩

end DataQuery

end GridClient
