import GridClient.Proofs.Accepting
import GridClient.Proofs.PageCursor

/-!
Responses as the node writes them. Each is read back as what was sent, with whatever follows it
left alone; a list that is read has as many entries as its count says, whatever the bytes; and a
failure is reported with its status, whichever response was asked for.
-/
namespace GridClient

/-! ### What a node sends -/

/-- The descriptor of a column as a node sends it, where any name can be missing. -/
structure SentColumn where
  schema : Option String
  table : Option String
  column : Option String
  typeName : Option String
  tag : UInt8

/-- The descriptor of a table as a node sends it, where any name can be missing. -/
structure SentTable where
  catalog : Option String
  schema : Option String
  table : Option String
  tableType : Option String

namespace SentColumn

/-- The names, each a text or the null marker, and the tag. -/
def encode (c : SentColumn) : Except Error Bytes := do
  let names ← encodeAll encodeOptionalString [c.schema, c.table, c.column, c.typeName]
  pure (names ++ [c.tag])

/-- What the client makes of it. A missing name is empty. -/
def received (c : SentColumn) : ColumnMeta :=
  ⟨c.schema.getD "", c.table.getD "", c.column.getD "", c.typeName.getD "", c.tag⟩

end SentColumn

namespace SentTable

/-- The names, each a text or the null marker. -/
def encode (t : SentTable) : Except Error Bytes :=
  encodeAll encodeOptionalString [t.catalog, t.schema, t.table, t.tableType]

/-- What the client makes of it. A missing name is empty. -/
def received (t : SentTable) : TableMeta :=
  ⟨t.catalog.getD "", t.schema.getD "", t.table.getD "", t.tableType.getD ""⟩

end SentTable

/-- A count and that many entries. -/
def encodeEntries {ε : Type} (encode : ε → Except Error Bytes) (entries : List ε) :
    Except Error Bytes := do
  let count ← Request.encodeCount entries.length
  let body ← encodeAll encode entries
  pure (count ++ body)

/-- What the text of a failure is read as: the text that stands first in these bytes, or the fixed
one when they do not begin with a text. -/
inductive FailureText : Bytes → String → Prop where
  | stated {text : String} {bytes : Bytes} (trailing : Bytes)
    (written : encodeString text = .ok bytes) : FailureText (bytes ++ trailing) text
  | unstated {body : Bytes}
    (none : ∀ text bytes trailing, encodeString text = .ok bytes → body ≠ bytes ++ trailing) :
    FailureText body Decoder.unknownFailure

namespace Decoder

variable {α ε : Type} {bytes : Bytes}

/-! ### Reading what was sent -/

theorem reads_null : Reads string [TypeTag.null.code] none := by
  refine Reads.atomically (Reads.tagged ?_)
  simp only [TypeTag.ofCode?_code]
  exact reads_pure none

theorem reads_optionalString {text? : Option String} (h : encodeOptionalString text? = .ok bytes) :
    Reads string bytes text? := by
  cases text? with
  | none =>
    cases h
    exact reads_null
  | some text =>
    obtain ⟨hlen, rfl⟩ := encodeString_eq_ok h
    exact reads_string hlen

/-- A name takes a byte at least, the null marker no more than that. -/
theorem reads_name {name? : Option String} (h : encodeOptionalString name? = .ok bytes) :
    Reads name bytes (name?.getD "") ∧ 1 ≤ bytes.length := by
  refine ⟨(reads_optionalString h).map, ?_⟩
  cases name? with
  | none =>
    cases h
    exact Nat.le_refl 1
  | some text =>
    obtain ⟨_, rfl⟩ := encodeString_eq_ok h
    exact Nat.succ_le_succ (Nat.zero_le _)

/-- A descriptor of a column without any name is as short as one can be. -/
theorem reads_columnMeta {c : SentColumn} (h : c.encode = .ok bytes) :
    Reads columnMeta bytes c.received ∧ ColumnMeta.minSize ≤ bytes.length := by
  simp only [SentColumn.encode, bind_eq_ok, encodeAll_cons_eq_ok] at h
  obtain ⟨_, ⟨schema, hschema, _, ⟨table, htable, _, ⟨column, hcolumn, _, ⟨typeName, htype, _, ⟨⟩,
    rfl⟩, rfl⟩, rfl⟩, rfl⟩, ⟨⟩⟩ := h
  obtain ⟨hschema, hschemaLen⟩ := reads_name hschema
  obtain ⟨htable, htableLen⟩ := reads_name htable
  obtain ⟨hcolumn, hcolumnLen⟩ := reads_name hcolumn
  obtain ⟨htype, htypeLen⟩ := reads_name htype
  simp only [List.append_assoc, List.nil_append]
  refine ⟨hschema.bind <| htable.bind <| hcolumn.bind <| htype.bind <|
    (reads_uint8 c.tag).map (f := ColumnMeta.mk _ _ _ _), ?_⟩
  simp only [ColumnMeta.minSize, List.length_append, List.length_singleton]
  omega

theorem reads_tableMeta {t : SentTable} (h : t.encode = .ok bytes) :
    Reads tableMeta bytes t.received ∧ TableMeta.minSize ≤ bytes.length := by
  simp only [SentTable.encode, encodeAll_cons_eq_ok] at h
  obtain ⟨catalog, hcatalog, _, ⟨schema, hschema, _, ⟨table, htable, _, ⟨tableType, htype, _, ⟨⟩,
    rfl⟩, rfl⟩, rfl⟩, rfl⟩ := h
  obtain ⟨hcatalog, hcatalogLen⟩ := reads_name hcatalog
  obtain ⟨hschema, hschemaLen⟩ := reads_name hschema
  obtain ⟨htable, htableLen⟩ := reads_name htable
  obtain ⟨htype, htypeLen⟩ := reads_name htype
  rw [List.append_nil]
  refine ⟨hcatalog.bind <| hschema.bind <| htable.bind <|
    htype.map (f := TableMeta.mk _ _ _), ?_⟩
  simp only [TableMeta.minSize, List.length_append]
  omega

section

variable {encode : ε → Except Error Bytes} {entry : Decoder α} {received : ε → α}
  {es : List ε} {minSize : Nat}

theorem length_of_encodeAll (hmin : ∀ e bytes, encode e = .ok bytes → minSize ≤ bytes.length)
    (h : encodeAll encode es = .ok bytes) : es.length * minSize ≤ bytes.length := by
  induction es generalizing bytes with
  | nil => simp
  | cons e es ih =>
    obtain ⟨first, hfirst, rest, hrest, rfl⟩ := encodeAll_cons_eq_ok.mp h
    have hle := hmin e first hfirst
    have hrestLen := ih hrest
    simp only [List.length_cons, List.length_append, Nat.succ_mul]
    omega

/-- A count is refused only when the bytes behind it cannot hold so many entries, so a list that was
written is always read. -/
theorem reads_entries (hpos : 0 < minSize)
    (hentry : ∀ e bytes, encode e = .ok bytes →
      Reads entry bytes (received e) ∧ minSize ≤ bytes.length)
    (h : encodeEntries encode es = .ok bytes) :
    Reads (entries minSize entry) bytes (es.map received) := by
  simp only [encodeEntries, bind_eq_ok, Request.encodeCount_eq_ok] at h
  obtain ⟨_, ⟨hcount, rfl⟩, body, hbody, ⟨⟩⟩ := h
  have htimes : Reads (times es.length entry) body (es.map received) :=
    reads_times (fun e bytes h => (hentry e bytes h).1) hbody
  have hle := length_of_encodeAll (fun e bytes h => (hentry e bytes h).2) hbody
  refine (reads_length hcount).bind ?_
  intro position rest
  have hguard : ¬ (body ++ rest).length / minSize < es.length := by
    rw [Nat.not_lt, Nat.le_div_iff_mul_le hpos, List.length_append]
    omega
  have ht := htimes position rest
  show EStateM.bind remaining _ _ = _
  simp only [EStateM.bind, remaining, hguard, if_false]
  exact ht

end

theorem Reads.decode_append {d : Decoder α} {a : α} (h : Reads d bytes a) (trailing : Bytes) :
    d.decode (bytes ++ trailing) = .ok a := by
  rw [Decoder.decode, Reader.ofBytes, h 0 trailing]

/-! ### What was read -/

variable {r r' : Reader}

theorem rest_of_status (h : status r = .ok () r') : r.rest = 0 :: r'.rest := by
  obtain ⟨code, r₁, hcode, hcheck⟩ := bind_accepts.mp h
  have hrest := rest_of_uint8 hcode
  by_cases hzero : code = 0
  · rw [if_pos hzero] at hcheck
    cases hcheck
    rw [hrest, hzero]
  · rw [if_neg hzero] at hcheck
    obtain ⟨_, _, _, hthrow⟩ := bind_accepts.mp hcheck
    cases hthrow

/-- A list that was read has as many entries as were announced in front of it. -/
theorem rest_of_entries {minSize : Nat} {entry : Decoder α} {found : List α}
    (h : entries minSize entry r = .ok found r') :
    ∃ body, r.rest = LittleEndian.encode 4 found.length ++ body ∧ found.length < 0x80000000 := by
  obtain ⟨count, r₁, hlength, h₁⟩ := bind_accepts.mp h
  obtain ⟨hrest, hcount⟩ := rest_of_length hlength
  obtain ⟨rest, r₂, hremaining, h₂⟩ := bind_accepts.mp h₁
  split at h₂
  · cases h₂
  · have hfound := length_of_times h₂
    rw [hfound]
    exact ⟨r₁.rest, hrest, hcount⟩

/-- The text of a failure is looked for behind its status, and that always comes to something. -/
theorem optional_string (position : Nat) (body : Bytes) :
    ∃ text? r', optional string ⟨position, body⟩ = .ok text? r' ∧
      FailureText body ((text?.getD none).getD unknownFailure) := by
  have hunstated : (∀ text r', string ⟨position, body⟩ ≠ .ok (some text) r') →
      FailureText body unknownFailure := by
    intro hnone
    refine .unstated fun text bytes trailing hwritten hbody => ?_
    obtain ⟨hlen, rfl⟩ := encodeString_eq_ok hwritten
    exact hnone text _ (hbody ▸ reads_string hlen position trailing)
  rw [optional]
  cases hs : string ⟨position, body⟩ with
  | error e r' => exact ⟨none, r', rfl, hunstated fun _ _ h => by cases hs.symm.trans h⟩
  | ok text? r' =>
    cases text? with
    | none => exact ⟨some none, r', rfl, hunstated fun _ _ h => by cases hs.symm.trans h⟩
    | some text =>
      obtain ⟨bytes, hwritten, rfl : body = bytes ++ r'.rest⟩ := rest_of_string hs
      exact ⟨some (some text), r', rfl, .stated r'.rest hwritten⟩

/-- A status other than zero ends whatever was to be read behind it. -/
theorem decode_failure {code : UInt8} (h : code ≠ 0) (body : Bytes) :
    ∃ message, FailureText body message ∧ ∀ {α : Type} (f : Unit → Decoder α),
      (status >>= f).decode (code :: body) = .error (.server code message) := by
  obtain ⟨text?, r', hoptional, hmessage⟩ := optional_string (0 + [code].length) body
  refine ⟨_, hmessage, fun f => ?_⟩
  have hstatus : status (.ofBytes (code :: body)) =
      .error (.server code ((text?.getD none).getD unknownFailure)) r' := by
    refine ((reads_uint8 code).bind_apply 0 body).trans ?_
    rw [if_neg h]
    show EStateM.bind (optional string) _ _ = _
    rw [EStateM.bind, hoptional]
    rfl
  have hbind : (status >>= f) (.ofBytes (code :: body)) =
      .error (.server code ((text?.getD none).getD unknownFailure)) r' := by
    show EStateM.bind status f _ = _
    rw [EStateM.bind, hstatus]
  rw [decode, hbind]

/-! ### The lists of the responses -/

theorem reads_columnEntries {columns : List SentColumn}
    (h : encodeEntries SentColumn.encode columns = .ok bytes) :
    Reads (entries ColumnMeta.minSize columnMeta) bytes (columns.map SentColumn.received) :=
  reads_entries (by decide) (fun _ _ => reads_columnMeta) h

theorem reads_tableEntries {tables : List SentTable}
    (h : encodeEntries SentTable.encode tables = .ok bytes) :
    Reads (entries TableMeta.minSize tableMeta) bytes (tables.map SentTable.received) :=
  reads_entries (by decide) (fun _ _ => reads_tableMeta) h

/-- The payload is a success with these fields, and then announces so many entries. -/
def Announces (fields : Bytes) (count : Nat) (payload : Bytes) : Prop :=
  count < 0x80000000 ∧ ∃ body, payload = 0 :: (fields ++ (LittleEndian.encode 4 count ++ body))

theorem announces_of_decode_entries {minSize : Nat} {entry : Decoder α} {payload : Bytes}
    {found : List α}
    (h : (status >>= fun _ => entries minSize entry).decode payload = .ok found) :
    Announces [] found.length payload := by
  obtain ⟨r', hr⟩ := decode_eq_ok.mp h
  obtain ⟨_, r₁, hstatus, hentries⟩ := bind_accepts.mp hr
  obtain ⟨body, hrest, hlen⟩ := rest_of_entries hentries
  have hpayload : payload = _ := rest_of_status hstatus
  exact ⟨hlen, body, by rw [hpayload, hrest, List.nil_append]⟩

theorem announces_of_decode_executeResult {payload : Bytes} {result : ExecuteResult}
    (h : executeResult.decode payload = .ok result) :
    Announces (encodeInt64 result.id) result.columns.length payload := by
  obtain ⟨r', hr⟩ := decode_eq_ok.mp h
  obtain ⟨_, r₁, hstatus, h₁⟩ := bind_accepts.mp hr
  obtain ⟨id, r₂, hid, h₂⟩ := bind_accepts.mp h₁
  obtain ⟨columns, r₃, hentries, ⟨⟩⟩ := bind_accepts.mp h₂
  obtain ⟨body, hrest, hlen⟩ := rest_of_entries hentries
  have hpayload : payload = _ := rest_of_status hstatus
  exact ⟨hlen, body, by rw [hpayload, rest_of_int64 hid, hrest]⟩

/-- Every response of the documented format is read as what was sent, and what follows it is left
alone. A list from any bytes has as many entries as they announce, and a status other than zero is a
failure for all five decoders. -/
theorem responses_read_back :
    (∀ (id : QueryId) (columns : List SentColumn) (bytes trailing : Bytes),
      encodeEntries SentColumn.encode columns = .ok bytes →
        executeResult.decode (0 :: (encodeInt64 id ++ (bytes ++ trailing))) =
          .ok ⟨id, columns.map SentColumn.received⟩ ∧
        columnMetas.decode (0 :: (bytes ++ trailing)) = .ok (columns.map SentColumn.received)) ∧
    (∀ (tables : List SentTable) (bytes trailing : Bytes),
      encodeEntries SentTable.encode tables = .ok bytes →
        tableMetas.decode (0 :: (bytes ++ trailing)) = .ok (tables.map SentTable.received)) ∧
    (∀ page : ResultPage, 0 ≤ page.rowCount → resultPage.decode page.encode = .ok page) ∧
    (∀ (id : QueryId) (trailing : Bytes),
      closedCursor.decode (0 :: (encodeInt64 id ++ trailing)) = .ok id) ∧
    (∀ payload result, executeResult.decode payload = .ok result →
      Announces (encodeInt64 result.id) result.columns.length payload) ∧
    (∀ payload columns, columnMetas.decode payload = .ok columns →
      Announces [] columns.length payload) ∧
    (∀ payload tables, tableMetas.decode payload = .ok tables →
      Announces [] tables.length payload) ∧
    (∀ (code : UInt8) (body : Bytes), code ≠ 0 → ∃ message, FailureText body message ∧
      executeResult.decode (code :: body) = .error (.server code message) ∧
      resultPage.decode (code :: body) = .error (.server code message) ∧
      closedCursor.decode (code :: body) = .error (.server code message) ∧
      columnMetas.decode (code :: body) = .error (.server code message) ∧
      tableMetas.decode (code :: body) = .error (.server code message)) := by
  refine ⟨fun id columns bytes trailing h => ⟨?_, ?_⟩, fun tables bytes trailing h => ?_,
    fun page h => page.decode_encode (Int32.not_lt.mpr h), fun id trailing => ?_,
    fun _ _ => announces_of_decode_executeResult, fun _ _ => announces_of_decode_entries,
    fun _ _ => announces_of_decode_entries, fun code body h => ?_⟩
  · have hr : Reads executeResult ([0] ++ (encodeInt64 id ++ bytes)) _ :=
      reads_status.bind <| (reads_int64 id).bind <|
        (reads_columnEntries h).map (f := ExecuteResult.mk id)
    have hd := hr.decode_append trailing
    simp only [List.append_assoc] at hd
    exact hd
  · exact (reads_status.bind (reads_columnEntries h)).decode_append trailing
  · exact (reads_status.bind (reads_tableEntries h)).decode_append trailing
  · exact (reads_status.bind (reads_int64 id)).decode_append trailing
  · obtain ⟨message, hmessage, hfailure⟩ := decode_failure h body
    exact ⟨message, hmessage, hfailure _, hfailure _, hfailure _, hfailure _, hfailure _⟩

/-- The shortest entries there are, which leave the guards nothing to spare, an empty page, and a
failure without a text. -/
theorem responses_read_back_unnamed :
    let executed : Bytes := [0, 7, 0, 0, 0, 0, 0, 0, 0, 1, 0, 0, 0, 101, 101, 101, 101, 3]
    executeResult.decode executed = .ok ⟨7, [⟨"", "", "", "", 3⟩]⟩ ∧
      Announces (encodeInt64 7) 1 executed ∧
      tableMetas.decode [0, 1, 0, 0, 0, 101, 101, 101, 101] = .ok [⟨"", "", "", ""⟩] ∧
      resultPage.decode (ResultPage.encode ⟨7, true, 0, []⟩) = .ok ⟨7, true, 0, []⟩ ∧
      ∃ message, FailureText [] message ∧ closedCursor.decode [2] = .error (.server 2 message) := by
  obtain ⟨hcolumns, htables, hpage, -, hexecuted, -, -, hfailure⟩ := responses_read_back
  obtain ⟨hread, -⟩ := hcolumns 7 [⟨none, none, none, none, 3⟩]
    [1, 0, 0, 0, 101, 101, 101, 101, 3] [] rfl
  obtain ⟨message, hmessage, -, -, hclosed, -⟩ := hfailure 2 [] (by decide)
  exact ⟨hread, hexecuted _ _ hread,
    htables [⟨none, none, none, none⟩] [1, 0, 0, 0, 101, 101, 101, 101] [] rfl,
    hpage _ (by decide), message, hmessage, hclosed⟩

end Decoder

end GridClient
