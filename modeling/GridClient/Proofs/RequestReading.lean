import GridClient.Proofs.Writing

/-!
Requests as the node reads them. One decoder takes every request off the bytes that were written
for it and stops right behind, so no two requests share their bytes, and none begins another.
-/
namespace GridClient

namespace Decoder

/-- What a length counts. -/
def byteString : Decoder Bytes := do
  take (← length)

/-- A tagged text that has to be there. -/
def presentString : Decoder String := do
  match ← string with
  | some text => pure text
  | none => throw .invalidPacket

/-- A tagged value of any kind that can be written. -/
def wireValue : Decoder WireValue := do
  let tag ← uint8
  match TypeTag.ofCode? tag with
  | some .null => pure .null
  | some .byte => .byte <$> int8
  | some .short => .short <$> int16
  | some .char => .char <$> uint16
  | some .int => .int <$> int32
  | some .long => .long <$> int64
  | some .float => .float <$> binary32
  | some .double => .double <$> binary64
  | some .bool => .bool <$> bool
  | some .string => .string <$> text
  | some .uuid =>
    let most ← int64
    let least ← int64
    pure (.uuid ⟨most, least⟩)
  | some .byteArray => .byteArray <$> byteString
  | _ => throw (.unsupportedTag tag)

/-- A request: the command byte tells which fields follow. -/
def request : Decoder Request := do
  let code ← uint8
  match Command.ofCode? code with
  | some .execute =>
    let distributedJoins ← bool
    let sql ← presentString
    let pageSize ← int32
    let count ← length
    let args ← times count wireValue
    pure (.execute sql distributedJoins pageSize args)
  | some .fetch =>
    let id ← int64
    let pageSize ← int32
    pure (.fetch id pageSize)
  | some .close => .close <$> int64
  | some .columnsMeta =>
    let schema ← presentString
    let table ← presentString
    let column ← presentString
    pure (.columnsMeta schema table column)
  | some .tablesMeta =>
    let catalog ← presentString
    let schema ← presentString
    let table ← presentString
    let tableType ← presentString
    pure (.tablesMeta catalog schema table tableType)
  | none => throw .invalidPacket

end Decoder

/-! ### What can be written -/

/-- A text or a byte string is short enough for its length field. -/
def WireValue.Writable : WireValue → Prop
  | .string text => (Utf8.encode text).length < 0x80000000
  | .byteArray bytes => bytes.length < 0x80000000
  | _ => True

/-- Every length and every count of the request fits its signed word. -/
def Request.Writable : Request → Prop
  | .execute sql _ _ args =>
    (Utf8.encode sql).length < 0x80000000 ∧ args.length < 0x80000000 ∧ ∀ v ∈ args, v.Writable
  | .fetch _ _ | .close _ => True
  | .columnsMeta schema table column =>
    ∀ text ∈ [schema, table, column], (Utf8.encode text).length < 0x80000000
  | .tablesMeta catalog schema table tableType =>
    ∀ text ∈ [catalog, schema, table, tableType], (Utf8.encode text).length < 0x80000000

section

variable {text : String} {bytes : Bytes}

theorem exists_lengthPrefixed_iff :
    (∃ written, lengthPrefixed bytes = .ok written) ↔ bytes.length < 0x80000000 := by
  simp only [lengthPrefixed_eq_ok, exists_and_left, exists_eq', and_true]

theorem exists_encodeString_iff :
    (∃ written, encodeString text = .ok written) ↔ (Utf8.encode text).length < 0x80000000 := by
  simp only [encodeString, map_eq_ok, lengthPrefixed_eq_ok]
  constructor
  · rintro ⟨_, _, ⟨h, _⟩, _⟩
    exact h
  · intro h
    exact ⟨_, _, ⟨h, rfl⟩, rfl⟩

theorem WireValue.exists_encode_iff {v : WireValue} :
    (∃ bytes, v.encode = .ok bytes) ↔ v.Writable := by
  have hpayload : (∃ bytes, v.encode = .ok bytes) ↔ ∃ bytes, v.payload = .ok bytes := by
    simp only [encode, map_eq_ok]
    constructor
    · rintro ⟨_, payload, h, _⟩
      exact ⟨payload, h⟩
    · rintro ⟨payload, h⟩
      exact ⟨_, payload, h, rfl⟩
  rw [hpayload]
  cases v with
  | string text => exact exists_lengthPrefixed_iff
  | byteArray bytes => exact exists_lengthPrefixed_iff
  | _ => exact iff_of_true ⟨_, rfl⟩ trivial

end

namespace Request

theorem encodeValues_eq (vs : List WireValue) :
    encodeValues vs = encodeAll WireValue.encode vs := by
  induction vs with
  | nil => rfl
  | cons v vs ih => rw [encodeValues, encodeAll, ih]

theorem encodeStrings_eq (texts : List String) :
    encodeStrings texts = encodeAll encodeString texts := by
  induction texts with
  | nil => rfl
  | cons text texts ih => rw [encodeStrings, encodeAll, ih]

theorem exists_encodeStrings_iff {texts : List String} :
    (∃ bytes, encodeStrings texts = .ok bytes) ↔
      ∀ text ∈ texts, (Utf8.encode text).length < 0x80000000 := by
  simp only [encodeStrings_eq, exists_encodeAll_iff, exists_encodeString_iff]

variable {sql : String} {distributedJoins : Bool} {pageSize : Int32} {args : List WireValue}
  {bytes : Bytes}

/-- The fields of a query in SQL stand in their order, the arguments behind their count. -/
theorem encodeFields_execute_eq_ok :
    (execute sql distributedJoins pageSize args).encodeFields = .ok bytes ↔
      ∃ text, encodeString sql = .ok text ∧ args.length < 0x80000000 ∧
        ∃ values, encodeAll WireValue.encode args = .ok values ∧
          encodeBool distributedJoins ++ (text ++ (encodeInt32 pageSize ++
            (LittleEndian.encode 4 args.length ++ values))) = bytes := by
  simp only [encodeFields, bind_eq_ok, encodeCount_eq_ok, encodeValues_eq]
  constructor
  · rintro ⟨text, htext, _, ⟨hcount, rfl⟩, values, hvalues, ⟨⟩⟩
    exact ⟨text, htext, hcount, values, hvalues, by simp only [List.append_assoc]⟩
  · rintro ⟨text, htext, hcount, values, hvalues, rfl⟩
    exact ⟨text, htext, _, ⟨hcount, rfl⟩, values, hvalues,
      congrArg _ (by simp only [List.append_assoc])⟩

/-- A request can be written exactly when its lengths and counts can. -/
theorem exists_encode_iff {r : Request} : (∃ bytes, r.encode = .ok bytes) ↔ r.Writable := by
  have hfields : (∃ bytes, r.encode = .ok bytes) ↔ ∃ bytes, r.encodeFields = .ok bytes := by
    simp only [encode, map_eq_ok]
    constructor
    · rintro ⟨_, fields, h, _⟩
      exact ⟨fields, h⟩
    · rintro ⟨fields, h⟩
      exact ⟨_, fields, h, rfl⟩
  rw [hfields]
  cases r with
  | execute sql distributedJoins pageSize args =>
    simp only [Writable, ← exists_encodeString_iff, ← WireValue.exists_encode_iff,
      ← exists_encodeAll_iff, encodeFields_execute_eq_ok]
    constructor
    · rintro ⟨_, text, htext, hcount, values, hvalues, _⟩
      exact ⟨⟨text, htext⟩, hcount, values, hvalues⟩
    · rintro ⟨⟨text, htext⟩, hcount, values, hvalues⟩
      exact ⟨_, text, htext, hcount, values, hvalues, rfl⟩
  | fetch id pageSize => exact iff_of_true ⟨_, rfl⟩ trivial
  | close id => exact iff_of_true ⟨_, rfl⟩ trivial
  | columnsMeta schema table column => exact exists_encodeStrings_iff
  | tablesMeta catalog schema table tableType => exact exists_encodeStrings_iff

end Request

/-! ### Reading back what was written -/

namespace Decoder

variable {bytes rest : Bytes}

theorem reads_byteString {value : Bytes} (h : lengthPrefixed value = .ok bytes) :
    Reads byteString bytes value := by
  obtain ⟨hlen, rfl⟩ := lengthPrefixed_eq_ok.mp h
  exact (reads_length hlen).bind (reads_take value)

theorem reads_presentString {text : String} (h : encodeString text = .ok bytes) :
    Reads presentString bytes text := by
  obtain ⟨hlen, rfl⟩ := encodeString_eq_ok h
  exact (reads_string hlen).check (reads_pure text)

/-- Every kind of value has its own tag, and every payload tells its own length. -/
theorem reads_wireValue {v : WireValue} (h : v.encode = .ok bytes) : Reads wireValue bytes v := by
  obtain ⟨payload, hp, rfl⟩ := map_eq_ok.mp h
  refine Reads.tagged ?_
  simp only [TypeTag.ofCode?_code]
  cases v with
  | string text =>
    obtain ⟨hlen, rfl⟩ := lengthPrefixed_eq_ok.mp hp
    exact (reads_text hlen).map
  | byteArray value => exact (reads_byteString hp).map
  | null =>
    cases hp
    exact reads_pure _
  | byte v =>
    cases hp
    exact (reads_int8 v).map
  | short v =>
    cases hp
    exact (reads_int16 v).map
  | char v =>
    cases hp
    exact (reads_uint16 v).map
  | int v =>
    cases hp
    exact (reads_int32 v).map
  | long v =>
    cases hp
    exact (reads_int64 v).map
  | float v =>
    cases hp
    exact (reads_binary32 v).map
  | double v =>
    cases hp
    exact (reads_binary64 v).map
  | bool v =>
    cases hp
    exact (reads_bool v).map
  | uuid v =>
    cases hp
    exact (reads_int64 v.most).bind
      ((reads_int64 v.least).map (f := fun least => WireValue.uuid ⟨v.most, least⟩))

theorem reads_request {r : Request} (h : r.encode = .ok bytes) : Reads request bytes r := by
  obtain ⟨fields, hf, rfl⟩ := map_eq_ok.mp h
  refine Reads.tagged ?_
  simp only [Command.ofCode?_code]
  cases r with
  | execute sql distributedJoins pageSize args =>
    obtain ⟨text, htext, hcount, values, hvalues, rfl⟩ := Request.encodeFields_execute_eq_ok.mp hf
    have hargs : Reads (times args.length wireValue) values args := by
      have hr := reads_times (f := id) (fun _ _ h => reads_wireValue h) hvalues
      rwa [List.map_id] at hr
    exact (reads_bool distributedJoins).bind <| (reads_presentString htext).bind <|
      (reads_int32 pageSize).bind <| (reads_length hcount).bind <|
        hargs.map (f := Request.execute sql distributedJoins pageSize)
  | fetch id pageSize =>
    cases hf
    exact (reads_int64 id).bind ((reads_int32 pageSize).map (f := Request.fetch id))
  | close id =>
    cases hf
    exact (reads_int64 id).map
  | columnsMeta schema table column =>
    simp only [Request.encodeFields, Request.encodeStrings_eq, encodeAll_cons_eq_ok] at hf
    obtain ⟨_, hschema, _, ⟨_, htable, _, ⟨_, hcolumn, _, ⟨⟩, rfl⟩, rfl⟩, rfl⟩ := hf
    exact (reads_presentString hschema).bind <| (reads_presentString htable).bind <|
      (reads_presentString hcolumn).bind <| reads_pure _
  | tablesMeta catalog schema table tableType =>
    simp only [Request.encodeFields, Request.encodeStrings_eq, encodeAll_cons_eq_ok] at hf
    obtain ⟨_, hcatalog, _, ⟨_, hschema, _, ⟨_, htable, _, ⟨_, htype, _, ⟨⟩, rfl⟩, rfl⟩, rfl⟩,
      rfl⟩ := hf
    exact (reads_presentString hcatalog).bind <| (reads_presentString hschema).bind <|
      (reads_presentString htable).bind <| (reads_presentString htype).bind <| reads_pure _

/-- What reads one thing off the beginning of some bytes reads nothing else off them. -/
theorem Reads.unique {α : Type} {d : Decoder α} {a a' : α} {bytes bytes' : Bytes}
    (h : Reads d bytes a) (h' : Reads d bytes' a') (hp : bytes' <+: bytes) :
    a' = a ∧ bytes' = bytes := by
  obtain ⟨rest, rfl⟩ := hp
  have hr := h 0 []
  rw [List.append_nil, h' 0 rest] at hr
  obtain ⟨ha, -, rfl⟩ : a' = a ∧ _ ∧ rest = [] := by
    simpa only [EStateM.Result.ok.injEq, Reader.mk.injEq] using hr
  exact ⟨ha, (List.append_nil _).symm⟩

end Decoder

/-- A request whose lengths and counts can be written is read back from its bytes, command and
fields, in front of anything else. Its bytes are those of no other request, and neither begin the
bytes of another request nor begin with them. -/
theorem Request.encoding_unambiguous {r : Request} (h : r.Writable) :
    ∃ bytes, r.encode = .ok bytes ∧ Decoder.request.Reads bytes r ∧
      ∀ r' bytes', r'.encode = .ok bytes' → bytes' <+: bytes ∨ bytes <+: bytes' →
        r' = r ∧ bytes' = bytes := by
  obtain ⟨bytes, hbytes⟩ := exists_encode_iff.mpr h
  refine ⟨bytes, hbytes, Decoder.reads_request hbytes, fun r' bytes' hbytes' hp => ?_⟩
  have hr := Decoder.reads_request hbytes
  have hr' := Decoder.reads_request hbytes'
  rcases hp with hp | hp
  · exact hr.unique hr' hp
  · obtain ⟨hreq, hb⟩ := hr'.unique hr hp
    exact ⟨hreq.symm, hb.symm⟩

/-- A text, a byte string and a null among the arguments. -/
theorem Request.encoding_unambiguous_of_arguments :
    let r : Request := .execute "SELECT ?" true 1024 [.string "é", .byteArray [1, 0], .null]
    r.Writable ∧ ∃ bytes, r.encode = .ok bytes ∧ Decoder.request.Reads bytes r ∧
      ∀ r' bytes', r'.encode = .ok bytes' → bytes' <+: bytes ∨ bytes <+: bytes' →
        r' = r ∧ bytes' = bytes := by
  have h : (Request.execute "SELECT ?" true 1024
      [.string "é", .byteArray [1, 0], .null]).Writable := by
    refine ⟨by decide, by decide, ?_⟩
    simp only [List.forall_mem_cons, WireValue.Writable]
    exact ⟨by decide, by decide, trivial, by simp⟩
  exact ⟨h, encoding_unambiguous h⟩

end GridClient
