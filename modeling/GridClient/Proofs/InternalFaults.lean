import GridClient.Proofs.DecodeFailureReports
import GridClient.Proofs.EndOfData
import GridClient.Proofs.RowSafety

/-!
Faults of the library's own. An exchange, a page, a row and a conversion can each fail, but only for
what the stream, the node or the caller has done: a fetch reports no state that the library does not
get into.
-/
namespace GridClient

/-- The library itself is at fault. -/
inductive Error.Internal : Error → Prop where
  | fault (detail : String) : Internal (.internalFault detail)

variable {e : Error}

theorem Error.Malformed.not_internal (h : e.Malformed) : ¬ e.Internal := by
  cases h <;> exact nofun

/-! ### Exchanges -/

namespace Channel

variable {σ : Type} [ByteStream σ] {channel channel' : Channel σ} {payload : Bytes}

theorem not_internal_of_send (h : channel.send payload = (.error e, channel')) :
    ¬ e.Internal := by
  unfold send at h
  split at h
  · rename_i hheader
    unfold Frame.encodeHeader at hheader
    split at hheader
    · cases hheader
    · cases hheader
      cases h
      exact nofun
  -- With a header to send, only the stream can fail: at the header, at the payload or at the end.
  · split at h
    · cases h
      exact nofun
    · split at h
      · cases h
        exact nofun
      · split at h
        · cases h
          exact nofun
        · cases h

theorem not_internal_of_receive (h : channel.receive = (.error e, channel')) : ¬ e.Internal := by
  unfold receive at h
  split at h
  · cases h
    exact nofun
  · cases h
    exact nofun
  · rename_i header s _
    split at h
    · rename_i hsize
      unfold Frame.decodeSize at hsize
      split at hsize
      · cases hsize
      · cases hsize
        cases h
        exact nofun
    · unfold receivePayload at h
      split at h
      all_goals cases h
      all_goals exact nofun

end Channel

namespace Decoder

variable {r r' : Reader}

/-- The status tells what the node has reported, unless it cannot be read. -/
theorem not_internal_of_status (h : status r = .error e r') : ¬ e.Internal := by
  rcases bind_fails.mp h with hcode | ⟨code, r₁, _, hrest⟩
  · exact (failsOnMalformed_uint8 _ _ _ hcode).not_internal
  · split at hrest
    · cases hrest
    · rcases bind_fails.mp hrest with hmessage | ⟨message, r₂, _, hthrow⟩
      · unfold Decoder.optional at hmessage
        split at hmessage <;> cases hmessage
      · cases hthrow
        exact nofun

theorem failsOnMalformed_remaining : FailsOnMalformed remaining := by
  rintro _ _ _ ⟨⟩

theorem not_internal_of_resultPage {bytes : Bytes} (h : resultPage.decode bytes = .error e) :
    ¬ e.Internal := by
  have hpage {r r' : Reader} (hfail : resultPage r = .error e r') : ¬ e.Internal := by
    rcases bind_fails.mp hfail with hstatus | ⟨_, r₁, _, hrest⟩
    · exact not_internal_of_status hstatus
    · have hfields : FailsOnMalformed (do
          let id ← int64
          let last ← bool
          let rowCount ← int32
          if rowCount < 0 then throw .invalidPacket
          else
            let data ← remaining
            pure (⟨id, last, rowCount, data⟩ : ResultPage)) := by
        refine failsOnMalformed_int64.bind fun id => failsOnMalformed_uint8.map.bind fun last =>
          failsOnMalformed_int32.bind fun rowCount => ?_
        split
        · exact failsOnMalformed_throw .invalidPacket
        · exact failsOnMalformed_remaining.bind fun data => failsOnMalformed_pure _
      exact (hfields _ _ _ hrest).not_internal
  unfold decode at h
  split at h
  · cases h
  · rename_i hfail
    cases h
    exact hpage hfail

end Decoder

section Network

variable {ν : Type} [Network ν] {α : Type} {c c' : Connection ν}

theorem Connection.not_internal_of_exchange {encode : Encoder} {decode : Bytes → Except Error α}
    (hencode : ∀ e outbox, encode [] = (.error e, outbox) → ¬ e.Internal)
    (hdecode : ∀ e bytes, decode bytes = .error e → ¬ e.Internal)
    (h : c.exchange encode decode = (.error e, c')) : ¬ e.Internal := by
  unfold exchange at h
  split at h
  · split at h
    · rename_i hencoded
      cases h
      exact hencode _ _ hencoded
    · split at h
      · rename_i hsend
        cases h
        exact Channel.not_internal_of_send hsend
      · split at h
        · rename_i hreceive
          cases h
          exact Channel.not_internal_of_receive hreceive
        · exact hdecode _ _ (congrArg Prod.fst h)
  · cases h
    exact nofun

/-- A request for a page can always be built. -/
theorem Connection.not_internal_of_request {id : QueryId} {size : Int32}
    (h : c.exchange (Request.fetch id size).write Decoder.resultPage.decode = (.error e, c')) :
    ¬ e.Internal := by
  refine not_internal_of_exchange (fun e outbox hwrite => ?_)
    (fun e bytes hdecode => Decoder.not_internal_of_resultPage hdecode) h
  cases Request.encode_of_write_error hwrite

end Network

/-! ### Rows and pages -/

namespace Row

variable {row behind : Row}

theorem Refuses.not_internal (h : row.Refuses e) : ¬ e.Internal := by
  cases h with
  | exhausted => exact nofun
  | undecodable undecodable => exact undecodable.malformed.not_internal

theorem not_internal_of_skipColumns {n : Nat} (h : row.skipColumns n = .error e behind) :
    ¬ e.Internal := by
  induction n generalizing row with
  | zero => cases h
  | succ n ih =>
    replace h : EStateM.bind (EStateM.bind readColumn fun _ => pure ()) (fun _ => skipColumns n)
      row = .error e behind := h
    rw [EStateM.bind, EStateM.bind] at h
    rcases readColumn_cases row with ⟨value, row', hread⟩ | ⟨e', hrefuses, hread⟩
    · rw [hread] at h
      exact ih h
    · rw [hread] at h
      cases h
      exact hrefuses.not_internal

theorem not_internal_of_next (h : Row.next row = .error e behind) : ¬ e.Internal := by
  replace h : EStateM.bind (skipColumns (row.size - row.position)) (fun _ => enter) row =
    .error e behind := h
  rw [EStateM.bind] at h
  cases hskip : skipColumns (row.size - row.position) row with
  | ok _ stop =>
    rw [hskip] at h
    rw [(enter_fails h).1]
    exact nofun
  | error e' stop =>
    rw [hskip] at h
    cases h
    exact not_internal_of_skipColumns hskip

end Row

namespace Cursor

variable {ν : Type} [Network ν] {cursor cursor' : Cursor} {c c' : Connection ν}

theorem not_internal_of_takePage {page : ResultPage} (h : cursor.takePage page = .error e) :
    ¬ e.Internal := by
  cases (takePage_of_unusable (takePage_rejects_iff.mp ⟨e, h⟩)).symm.trans h
  exact nofun

theorem not_internal_of_loadPage (h : cursor.loadPage c = (.error e, cursor', c')) :
    ¬ e.Internal := by
  fun_induction loadPage cursor c with
  | case1 _ _ _ _ _ hexchange =>
    cases h
    exact Connection.not_internal_of_request hexchange
  | case2 =>
    cases h
    rintro ⟨⟩
  | case3 _ _ _ _ _ _ _ _ htake =>
    cases h
    exact not_internal_of_takePage htake
  | case4 _ _ _ _ _ _ _ _ _ _ ih => exact ih h
  | case5 => cases h
  | case6 => cases h

theorem not_internal_of_increment (h : cursor.increment = .error e cursor') : ¬ e.Internal := by
  have hattempted := cursor.attempted_increment
  rw [h] at hattempted
  cases hattempted with
  | stuck _ _ _ hnext => exact Row.not_internal_of_next hnext

/-- A cursor that has entered a row holds it. -/
theorem currentRow_of_increment (h : cursor.increment = .ok true cursor') :
    ∃ row, cursor'.currentRow = some row := by
  have hattempted := cursor.attempted_increment
  rw [h] at hattempted
  cases hattempted with
  | first hrow => exact ⟨_, hrow⟩
  | next => exact ⟨_, rfl⟩

end Cursor

/-! ### Fetches -/

theorem Conversion.not_internal_of_report {conversion : Conversion} {row : Int32} {column : UInt16}
    (h : conversion.report row column = .error e) : ¬ e.Internal := by
  cases conversion
  all_goals cases h
  all_goals exact nofun

/-- A column is refused for what its conversion reports. -/
theorem ColumnSink.report_of_put {number : Int32} {column : UInt16} {value : ColumnValue}
    {sink sink' : ColumnSink} (h : sink.put number column value = (.error e, sink')) :
    ∃ conversion : Conversion, conversion.report number column = .error e := by
  unfold put at h
  split at h
  · cases h
  · simp only at h
    split at h
    · cases h
    · rename_i hreport
      cases h
      exact ⟨_, hreport⟩

theorem Row.report_of_deliver {number : Int32} {n : Nat} {column : UInt16} {row behind : Row}
    {sink sink' : ColumnSink}
    (h : row.deliver number n column sink = (.error (.refused e), behind, sink')) :
    ∃ (conversion : Conversion) (column : UInt16),
      conversion.report number column = .error e := by
  induction n generalizing column row sink with
  | zero => cases h
  | succ n ih =>
    rw [deliver] at h
    split at h
    · cases h
    · rename_i value row' _
      obtain ⟨⟨result, sink₁⟩, hput⟩ : ∃ r, sink.put number column value = r := ⟨_, rfl⟩
      rw [hput] at h
      cases result with
      | ok _ => exact ih h
      | error e' =>
        cases h
        obtain ⟨conversion, hreport⟩ := ColumnSink.report_of_put hput
        exact ⟨conversion, column, hreport⟩

namespace DataQuery

variable {ν : Type} [Network ν] {q : DataQuery} {cursor : Cursor} {row : Row} {c : Connection ν}
  {columns : Bindings DataBuffer}

omit [Network ν] in
theorem not_internal_of_deliverRow (h : (q.deliverRow cursor row c columns).result = .error e) :
    ¬ e.Internal := by
  unfold deliverRow at h
  split at h
  · cases h
    exact nofun
  · obtain ⟨⟨result, behind, sink⟩, hdeliver⟩ : ∃ r, row.deliver q.rowNumber row.size 1
      { columns } = r := ⟨_, rfl⟩
    rw [hdeliver] at h
    rcases result with fault | _
    · cases fault with
      | undecodable column =>
        cases h
        exact nofun
      | refused e' =>
        cases h
        obtain ⟨_, _, hreport⟩ := Row.report_of_deliver hdeliver
        exact Conversion.not_internal_of_report hreport
    · cases h

omit [Network ν] in
theorem not_internal_of_enterRow (h : (q.enterRow cursor c columns).result = .error e) :
    ¬ e.Internal := by
  unfold enterRow at h
  cases hincrement : cursor.increment with
  | error e' cursor' =>
    rw [hincrement] at h
    cases h
    exact Cursor.not_internal_of_increment hincrement
  | ok entered cursor' =>
    rw [hincrement] at h
    cases entered with
    | false => cases h
    | true =>
      obtain ⟨row, hrow⟩ := Cursor.currentRow_of_increment hincrement
      simp only [hrow] at h
      exact not_internal_of_deliverRow h

/-- However the stream and the node behave and whatever is bound, no fetch is the library's own
fault. -/
theorem not_internal_of_fetch (h : (q.fetch c columns).result = .error e) : ¬ e.Internal := by
  unfold fetch at h
  split at h
  · cases h
    exact nofun
  · rename_i cursor _
    split at h
    · cases h
      exact nofun
    · split at h
      · obtain ⟨⟨result, cursor', c'⟩, hload⟩ : ∃ r, cursor.loadPage c = r := ⟨_, rfl⟩
        rw [hload] at h
        rcases result with e' | more
        · cases h
          exact Cursor.not_internal_of_loadPage hload
        · cases more with
          | false => cases h
          | true => exact not_internal_of_enterRow h
      · cases h

end DataQuery

end GridClient
