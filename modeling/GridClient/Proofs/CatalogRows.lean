import GridClient.Proofs.RequestReading
import GridClient.Proofs.ResponseReading
import GridClient.Proofs.RoundTrip
import GridClient.Query.Catalog

/-!
Catalog queries from the request to the last row. The node is asked once, and each entry that it
answers with becomes the next row, also behind a row that was not delivered whole.
-/

namespace GridClient

/-! ### One round trip -/

namespace Connection

variable {ν : Type} [Network ν] {α : Type}

/-- The answer is decoded when the round trip is over. -/
theorem exchange_eq (c : Connection ν) (encode : Encoder) (decode : Bytes → Except Error α) :
    c.exchange encode decode =
      match c.exchange encode (Except.ok : Bytes → Except Error Bytes) with
      | (.ok answer, c') => (decode answer, c')
      | (.error e, c') => (.error e, c') := by
  unfold exchange
  split
  · split
    · rfl
    · split
      · rfl
      · split <;> rfl
  · rfl

/-- A round trip that goes well leaves the request and its answer on record, and nothing else. -/
theorem Answers.recorded {c c' : Connection ν} {request answer : Bytes}
    (h : c.Answers request answer c') :
    ∃ c₁, c.recorded.Answers request answer c₁ ∧ c₁.plain = c' ∧
      c₁.transcript = Frame.sent request ++ Frame.got answer := by
  obtain ⟨hopen, sent, received, hsent, hreceived, rfl, rfl⟩ := h
  obtain ⟨taken, hsends, hsend⟩ := Recorded.send_eq request c.recorded.channel
  have hplain : Recorded.plain c.recorded.channel = c.channel := rfl
  rw [hplain, hsent] at hsends hsend
  obtain rfl := hsends.taken_prefix.2 rfl
  obtain ⟨bytes, hreceive, hgot, -⟩ := Recorded.receive_eq
    ⟨c.recorded.channel.stream.note sent.stream ((Frame.encode request).map .sent), sent.inbox⟩
  have hplain' : Recorded.plain ⟨c.recorded.channel.stream.note sent.stream
      ((Frame.encode request).map .sent), sent.inbox⟩ = sent := rfl
  rw [hplain', hreceived] at hreceive hgot
  obtain ⟨-, rfl⟩ := hgot rfl
  exact ⟨_, ⟨hopen, _, _, hsend, hreceive, rfl, rfl⟩, rfl, rfl⟩

end Connection

/-! ### Rows -/

/-- The fetch handed this entry out as the row of this number. Without one, it found no data and
left the bound buffers alone. -/
def Fetched.HandsOut {ν ε : Type} [CatalogEntry ε] (f : Fetched (CatalogQuery ε) ν) (number : Int32)
    (next : Option ε) (before : Bindings DataBuffer) : Prop :=
  match next with
  | some entry =>
    Delivered number (CatalogEntry.values entry) before f.result f.columns f.warnings
  | none => f.result = .ok .noData ∧ f.columns = before ∧ f.warnings = []

theorem ColumnMeta.length_values (entry : ColumnMeta) : (CatalogEntry.values entry).length = 12 :=
  rfl

theorem TableMeta.length_values (entry : TableMeta) : (CatalogEntry.values entry).length = 5 :=
  rfl

namespace CatalogQuery

variable {ν ε : Type} [CatalogEntry ε] {q : CatalogQuery ε} {before : Bindings DataBuffer}
  {entry : ε}

theorem fetch_of_ended (hexecuted : q.executed = true) (hend : q.found[q.fetched]? = none)
    (c : Connection ν) (before : Bindings DataBuffer) :
    q.fetch c before = ⟨.ok .noData, q, c, before, []⟩ := by
  simp only [fetch, hexecuted, hend, if_true]

theorem fetch_of_unexecuted (hexecuted : q.executed = false) (c : Connection ν)
    (before : Bindings DataBuffer) :
    q.fetch c before = ⟨.error .queryNotExecuted, q, c, before, []⟩ := by
  simp [fetch, hexecuted]

/-- The entry is used up whatever becomes of its row. -/
theorem fetch_of_entry (hexecuted : q.executed = true) (hentry : q.found[q.fetched]? = some entry)
    (c : Connection ν) (before : Bindings DataBuffer) :
    q.fetch c before =
      let (result, sink) := ColumnSink.putRow (Int32.ofNat (min (q.fetched + 1) maxRowNumber))
        (CatalogEntry.values entry) before
      ⟨result, { q with fetched := q.fetched + 1 }, c, sink.columns, sink.warnings⟩ := by
  simp only [fetch, hexecuted, hentry, if_true]

theorem fetch_hands_out (hexecuted : q.executed = true)
    (hwidth : ∀ entry : ε, (CatalogEntry.values entry).length ≤ 0xFFFF) (c : Connection ν)
    (before : Bindings DataBuffer) :
    (q.fetch c before).HandsOut (Int32.ofNat (min (q.fetched + 1) maxRowNumber))
      q.found[q.fetched]? before := by
  cases hentry : q.found[q.fetched]? with
  | none =>
    rw [fetch_of_ended hexecuted hentry]
    exact ⟨rfl, rfl, rfl⟩
  | some entry =>
    rw [fetch_of_entry hexecuted hentry]
    exact ColumnSink.putRow_delivers _ before (hwidth entry)

/-- Fetches once for each set of bound columns. -/
def fetches : CatalogQuery ε → Connection ν → List (Bindings DataBuffer) →
    List (Fetched (CatalogQuery ε) ν)
  | _, _, [] => []
  | q, c, columns :: calls =>
    let f := q.fetch c columns
    f :: fetches f.query f.connection calls

variable [Network ν] {c c₁ : Connection ν} {request answer : Bytes} {entries : List ε}

/-- The query, run over the connection, sends one request and takes this answer, and then hands out
these entries, one for each fetch and each under the number of its place, whatever is bound. Behind
the last of them there is no data. None of the fetches uses the connection. -/
structure Finds (q : CatalogQuery ε) (c : Connection ν) (asked : Request) (answer : Bytes)
    (entries : List ε) (c₁ : Connection ν) : Prop where
  trip : ∃ request, Decoder.request.decode request = .ok asked ∧
    (q.execute c.recorded).2.2.plain = c₁ ∧
    (q.execute c.recorded).2.2.transcript = Frame.sent request ++ Frame.got answer
  rows : ∃ executed, q.execute c = (.ok .success, executed, c₁) ∧
    ∀ (calls : List (Bindings DataBuffer)) (n : Nat) (before : Bindings DataBuffer),
      calls[n]? = some before → ∃ f, (executed.fetches c₁ calls)[n]? = some f ∧
        f.connection = c₁ ∧ f.HandsOut (Int32.ofNat (n + 1)) entries[n]? before

/-- Why a run of the query comes to nothing. -/
inductive Fault (q : CatalogQuery ε) (c : Connection ν) : Error → Prop where
  /-- No answer came: there was nothing to send, or the stream was closed or failed. -/
  | unanswered {e : Error} {c' : Connection ν}
    (exchanged : c.exchange q.request.write (Except.ok : Bytes → Except Error Bytes) =
      (.error e, c')) : Fault q c e
  /-- The answer is no list of entries: it tells a failure of the node, or is malformed. -/
  | undecodable {e : Error} {answer : Bytes} {c' : Connection ν}
    (exchanged : c.exchange q.request.write (Except.ok : Bytes → Except Error Bytes) =
      (.ok answer, c'))
    (refused : (CatalogEntry.response : Decoder (List ε)).decode answer = .error e) : Fault q c e

/-- The run fails with this error and leaves no row to fetch, whatever the query held before. -/
structure Fails (q : CatalogQuery ε) (c : Connection ν) (e : Error) : Prop where
  result_eq : (q.execute c).1 = .error e
  unavailable : (q.execute c).2.1.dataAvailable = false
  fetches : ∀ (later : Connection ν) (calls : List (Bindings DataBuffer)) (n : Nat)
    (before : Bindings DataBuffer), calls[n]? = some before →
      ((q.execute c).2.1.fetches later calls)[n]? =
        some ⟨.error .queryNotExecuted, (q.execute c).2.1, later, before, []⟩

/-- A run that fails drops the entries of an earlier one. -/
theorem query_of_failed_execute {e : Error} (h : (q.execute c).1 = .error e) :
    (q.execute c).2.1 = q.close := by
  unfold execute at h ⊢
  obtain ⟨⟨result, c'⟩, hr⟩ : ∃ r, c.exchange q.request.write
    (CatalogEntry.response : Decoder (List ε)).decode = r := ⟨_, rfl⟩
  simp only [hr] at h ⊢
  cases result with
  | error e => rfl
  | ok found => cases h

theorem Fault.execute {e : Error} (h : q.Fault c e) : (q.execute c).1 = .error e := by
  cases h with
  | unanswered exchanged => rw [CatalogQuery.execute, Connection.exchange_eq, exchanged]
  | undecodable exchanged refused =>
    rw [CatalogQuery.execute, Connection.exchange_eq, exchanged]
    simp only [refused]

end CatalogQuery

end GridClient
