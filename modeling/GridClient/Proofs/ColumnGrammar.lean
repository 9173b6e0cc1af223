import GridClient.Proofs.Accepting
import GridClient.Proofs.Page

/-!
The grammar of a column. A column is read off a page exactly where the page goes on with the bytes
of one, whatever follows them, and just those bytes are used up.
-/

namespace GridClient

/-- The kinds of fixed width: the tag, how many bytes follow it, and what the number in them says,
least significant byte first. -/
inductive Primitive : UInt8 → Nat → (Nat → ColumnValue) → Prop where
  | byte : Primitive 1 1 fun n => .byte (Int8.ofNat n)
  | short : Primitive 2 2 fun n => .short (Int16.ofNat n)
  | int : Primitive 3 4 fun n => .int (Int32.ofNat n)
  | long : Primitive 4 8 fun n => .long (Int64.ofNat n)
  | float : Primitive 5 4 fun n => .float ⟨UInt32.ofNat n⟩
  | double : Primitive 6 8 fun n => .double ⟨UInt64.ofNat n⟩
  /-- A UTF-16 unit is an integer of its width. -/
  | char : Primitive 7 2 fun n => .short (Int16.ofNat n)
  | bool : Primitive 8 1 fun n => .bool (UInt8.ofNat n != 0)

/-- The bytes of a column and the value that they denote. -/
inductive SpellsColumn : Bytes → ColumnValue → Prop where
  | null : SpellsColumn [101] .null
  | primitive {tag : UInt8} {width : Nat} {value : Nat → ColumnValue} {payload : Bytes}
    (kind : Primitive tag width value) (length_eq : payload.length = width) :
    SpellsColumn (tag :: payload) (value (LittleEndian.decode payload))
  /-- The length is a signed word, and the bytes that it counts are those of a text. -/
  | string {text : String} (short : (Utf8.encode text).length < 0x80000000) :
    SpellsColumn
      (9 :: (LittleEndian.encode 4 (Utf8.encode text).length ++ Utf8.encode text)) (.string text)
  | uuid (g : Guid) : SpellsColumn (10 :: (encodeInt64 g.most ++ encodeInt64 g.least)) (.guid g)
  /-- The length in the header is that of the whole object, the sixteen bytes of the header
  included. -/
  | object {header : ObjectHeader} {body : Bytes} (tag_eq : header.tag = 103)
    (version_eq : header.version = 1) (length_eq : header.length.toInt = 16 + body.length) :
    SpellsColumn (header.encode ++ body) (.object (header.encode ++ body))

/-- Some bytes begin with those of a column. -/
def BeginsColumn (bytes : Bytes) : Prop :=
  ∃ column value rest, SpellsColumn column value ∧ bytes = column ++ rest

/-- A column value as one that can be written. Objects are only read. -/
def ColumnValue.wireValue? : ColumnValue → Option WireValue
  | null => some .null
  | byte v => some (.byte v)
  | short v => some (.short v)
  | int v => some (.int v)
  | long v => some (.long v)
  | float v => some (.float v)
  | double v => some (.double v)
  | bool v => some (.bool v)
  | string v => some (.string v)
  | guid v => some (.uuid v)
  | object _ => none

theorem ObjectHeader.length_encode (header : ObjectHeader) : header.encode.length = 16 := by
  simp only [encode, List.length_append, List.length_cons, LittleEndian.length_encode,
    length_encodeInt32]

namespace Decoder

/-! ### Columns that are there are read -/

section

variable {tag : UInt8} {width : Nat} {value : Nat → ColumnValue} {payload body : Bytes}
  {header : ObjectHeader}

theorem reads_payload (h : payload.length = width) :
    Reads (word width) payload (LittleEndian.decode payload) := by
  subst h
  exact (reads_take payload).map

theorem reads_primitive (kind : Primitive tag width value) (h : payload.length = width) :
    Reads columnValue (tag :: payload) (value (LittleEndian.decode payload)) := by
  have hw := reads_payload h
  cases kind with
  | byte => exact Reads.consumed .byte rfl hw.map.map.map
  | short => exact Reads.consumed .short rfl hw.map.map.map
  | int => exact Reads.consumed .int rfl hw.map.map.map
  | long => exact Reads.consumed .long rfl hw.map.map.map
  | float => exact Reads.consumed .float rfl hw.map.map.map
  | double => exact Reads.consumed .double rfl hw.map.map.map
  | char => exact Reads.consumed .char rfl hw.map.map.map
  | bool => exact Reads.consumed .bool rfl hw.map.map.map

theorem reads_objectHeaderFields (header : ObjectHeader) :
    Reads objectHeaderFields header.encode header := by
  have h : Reads objectHeaderFields
      ([header.tag] ++ ([header.version] ++ (LittleEndian.encode 2 header.flags.toNat ++
        (encodeInt32 header.typeId ++ (encodeInt32 header.hashCode ++
          encodeInt32 header.length))))) header :=
    (reads_uint8 header.tag).bind <| (reads_uint8 header.version).bind <|
      (reads_uint16 header.flags).bind <| (reads_int32 header.typeId).bind <|
        (reads_int32 header.hashCode).bind <|
          (reads_int32 header.length).map (f := ObjectHeader.mk _ _ _ _ _)
  simpa only [ObjectHeader.encode, List.cons_append, List.nil_append, List.append_assoc] using h

theorem peek_opensObject (htag : header.tag = 103) (hversion : header.version = 1)
    (position : Nat) (more : Bytes) :
    peek opensObject ⟨position, header.encode ++ more⟩ =
      .ok true ⟨position, header.encode ++ more⟩ := by
  have hreads : Reads opensObject [103, 1] true :=
    Reads.tagged ((reads_uint8 1).map (f := (· == ObjectHeader.protocolVersion)))
  have hstart : ∃ fields, header.encode ++ more = [103, 1] ++ fields := by
    obtain ⟨tag, version, flags, typeId, hashCode, length⟩ := header
    subst htag hversion
    exact ⟨_, rfl⟩
  obtain ⟨fields, hfields⟩ := hstart
  rw [hfields, peek, hreads position fields]

/-- Looking at a header goes back to its first byte. -/
theorem peekObjectHeader_encode (htag : header.tag = 103) (hversion : header.version = 1)
    (position : Nat) (more : Bytes) :
    peekObjectHeader ⟨position, header.encode ++ more⟩ =
      .ok (some header) ⟨position, header.encode ++ more⟩ := by
  have hfields := reads_objectHeaderFields header position more
  have hinner : EStateM.bind (peek opensObject)
      (fun opens => if opens then some <$> objectHeaderFields else pure none)
      ⟨position, header.encode ++ more⟩ =
        .ok (some header) ⟨position + header.encode.length, more⟩ := by
    rw [EStateM.bind, peek_opensObject htag hversion]
    show EStateM.map some objectHeaderFields ⟨position, header.encode ++ more⟩ = _
    rw [EStateM.map, hfields]
  show peek (EStateM.bind (peek opensObject) _) _ = _
  rw [peek, hinner]

theorem reads_object (htag : header.tag = 103) (hversion : header.version = 1)
    (hlength : header.length.toInt = 16 + body.length) :
    Reads object (header.encode ++ body) (header.encode ++ body) := by
  intro position rest
  have hpeek := peekObjectHeader_encode htag hversion position (body ++ rest)
  have hnot : ¬ header.length.toInt < ObjectHeader.size := by
    rw [hlength, ObjectHeader.size]
    omega
  have hsize : header.length.toInt.toNat = (header.encode ++ body).length := by
    rw [hlength, List.length_append, header.length_encode]
    omega
  have htake := reads_take (header.encode ++ body) position rest
  rw [← List.append_assoc] at hpeek
  show EStateM.bind peekObjectHeader _ _ = _
  rw [EStateM.bind, hpeek]
  simp only [hnot, if_false, hsize]
  exact htake

/-- The bytes of a column are read as the value that they denote, whatever follows them. -/
theorem reads_spelled {bytes : Bytes} {value : ColumnValue} (h : SpellsColumn bytes value) :
    Reads columnValue bytes value := by
  cases h with
  | null => exact Reads.consumed .null rfl (reads_pure _)
  | primitive kind length_eq => exact reads_primitive kind length_eq
  | string short => exact Reads.peeked .string rfl (reads_string short).map
  | uuid g => exact Reads.peeked .uuid rfl (reads_guid g).map
  | object tag_eq version_eq length_eq =>
    rename_i header body
    have hobject := (reads_object tag_eq version_eq length_eq).map (f := ColumnValue.object)
    obtain ⟨tag, version, flags, typeId, hashCode, length⟩ := header
    subst tag_eq
    exact Reads.peeked .object rfl hobject

end

/-! ### What is read is a column -/

section

variable {α β : Type} {r r' r₁ : Reader} {tag : UInt8} {width : Nat}

/-- Whenever it succeeds, the decoder takes so many bytes. -/
def Takes (d : Decoder α) (width : Nat) : Prop :=
  ∀ r a r', d r = .ok a r' →
    ∃ payload : Bytes, payload.length = width ∧ r.rest = payload ++ r'.rest

theorem takes_word (width : Nat) : Takes (word width) width := by
  intro r n r' h
  obtain ⟨payload, htake, _⟩ := map_accepts.mp h
  obtain ⟨hrest, hlen⟩ := rest_of_take htake
  exact ⟨payload, hlen, hrest⟩

theorem Takes.map {d : Decoder α} {f : α → β} (h : Takes d width) : Takes (f <$> d) width := by
  intro r b r' hb
  obtain ⟨a, ha, _⟩ := map_accepts.mp hb
  exact h r a r' ha

theorem beginsColumn_of_primitive {value : Nat → ColumnValue} {d : Decoder ColumnValue}
    {result : ColumnValue} (kind : Primitive tag width value) (hd : Takes d width)
    (htag : r.rest = tag :: r₁.rest) (h : d r₁ = .ok result r') : BeginsColumn r.rest := by
  obtain ⟨payload, hlen, hrest⟩ := hd _ _ _ h
  exact ⟨_, _, r'.rest, .primitive kind hlen, by rw [htag, hrest]; rfl⟩

theorem beginsColumn_of_string {text? : Option String} (h : string r = .ok text? r') :
    BeginsColumn r.rest := by
  obtain ⟨bytes, hwritten, hrest⟩ := rest_of_optionalString h
  cases text? with
  | none =>
    cases hwritten
    exact ⟨_, _, r'.rest, .null, hrest⟩
  | some text =>
    obtain ⟨hlen, rfl⟩ := encodeString_eq_ok hwritten
    exact ⟨_, _, r'.rest, .string hlen, hrest⟩

theorem beginsColumn_of_guid {g? : Option Guid} (h : guid r = .ok g? r') :
    BeginsColumn r.rest := by
  have hrest := rest_of_optionalGuid h
  cases g? with
  | none => exact ⟨_, _, r'.rest, .null, hrest⟩
  | some g => exact ⟨_, _, r'.rest, .uuid g, hrest⟩

theorem rest_of_opensObject (h : opensObject r = .ok true r') :
    r.rest = 103 :: 1 :: r'.rest := by
  obtain ⟨tag, r₁, htag, h₁⟩ := bind_accepts.mp h
  have hrest := rest_of_uint8 htag
  split at h₁
  · rename_i heq
    obtain ⟨version, r₂, hversion, h₂⟩ := bind_accepts.mp h₁
    obtain ⟨hone, rfl⟩ := pure_accepts.mp h₂
    rw [hrest, heq, rest_of_uint8 hversion, eq_of_beq hone]
    rfl
  · cases h₁

theorem rest_of_objectHeaderFields {header : ObjectHeader}
    (h : objectHeaderFields r = .ok header r') : r.rest = header.encode ++ r'.rest := by
  obtain ⟨tag, r₁, htag, h₁⟩ := bind_accepts.mp h
  obtain ⟨version, r₂, hversion, h₂⟩ := bind_accepts.mp h₁
  obtain ⟨flags, r₃, hflags, h₃⟩ := bind_accepts.mp h₂
  obtain ⟨typeId, r₄, htypeId, h₄⟩ := bind_accepts.mp h₃
  obtain ⟨hashCode, r₅, hhashCode, h₅⟩ := bind_accepts.mp h₄
  obtain ⟨length, r₆, hlength, h₆⟩ := bind_accepts.mp h₅
  obtain ⟨rfl, rfl⟩ := pure_accepts.mp h₆
  rw [rest_of_uint8 htag, rest_of_uint8 hversion, rest_of_uint16 hflags, rest_of_int32 htypeId,
    rest_of_int32 hhashCode, rest_of_int32 hlength]
  simp only [ObjectHeader.encode, List.cons_append, List.append_assoc]

theorem rest_of_peekObjectHeader {header : ObjectHeader}
    (h : peekObjectHeader r = .ok (some header) r') :
    r' = r ∧ header.tag = 103 ∧ header.version = 1 ∧ ∃ more, r.rest = header.encode ++ more := by
  obtain ⟨rfl, r₁, h₁⟩ := peek_accepts.mp h
  obtain ⟨opens, r₂, hpeek, h₂⟩ := bind_accepts.mp h₁
  obtain ⟨rfl, r₃, hopens⟩ := peek_accepts.mp hpeek
  cases opens with
  | false => cases h₂
  | true =>
    obtain ⟨fields, hfields, ⟨⟩⟩ := map_accepts.mp h₂
    have hstart := rest_of_opensObject hopens
    have hrest := rest_of_objectHeaderFields hfields
    -- Both looked at the same two bytes.
    have hsame := hstart.symm.trans hrest
    simp only [ObjectHeader.encode, List.cons_append, List.cons.injEq] at hsame
    exact ⟨rfl, hsame.1.symm, hsame.2.1.symm, _, hrest⟩

theorem rest_of_object {bytes : Bytes} (h : object r = .ok bytes r') :
    r.rest = bytes ++ r'.rest ∧ ∃ (header : ObjectHeader) (body : Bytes),
      bytes = header.encode ++ body ∧ header.tag = 103 ∧ header.version = 1 ∧
        header.length.toInt = 16 + body.length := by
  obtain ⟨header?, r₁, hpeek, h₁⟩ := bind_accepts.mp h
  cases header? with
  | none => cases h₁
  | some header =>
    obtain ⟨rfl, htag, hversion, more, hmore⟩ := rest_of_peekObjectHeader hpeek
    dsimp only at h₁
    split at h₁
    · cases h₁
    · rename_i hsize
      rw [ObjectHeader.size] at hsize
      obtain ⟨hrest, hlen⟩ := rest_of_take h₁
      have hheader := header.length_encode
      have hbytes : bytes = header.encode ++ bytes.drop 16 := by
        have htake := congrArg (List.take 16) (hmore.symm.trans hrest)
        rw [List.take_left' hheader, List.take_append_of_le_length (by omega)] at htake
        rw [htake, List.take_append_drop]
      have hlength : header.length.toInt = 16 + (bytes.drop 16).length := by
        rw [List.length_drop]
        omega
      exact ⟨hrest, header, _, hbytes, htag, hversion, hlength⟩

theorem beginsColumn_of_object {bytes : Bytes} (h : object r = .ok bytes r') :
    BeginsColumn r.rest := by
  obtain ⟨hrest, header, body, rfl, htag, hversion, hlength⟩ := rest_of_object h
  exact ⟨_, _, r'.rest, .object htag hversion hlength, hrest⟩

theorem columnHeader_accepts : columnHeader r = .ok tag r' ↔ ∃ r₁, uint8 r = .ok tag r₁ ∧
    r' = if (TypeTag.ofCode? tag).any TypeTag.isConsumedOnPeek then r₁ else r := by
  rw [columnHeader]
  cases uint8 r with
  | error e r₁ => simp
  | ok first r₁ =>
    by_cases hc : (TypeTag.ofCode? first).any TypeTag.isConsumedOnPeek = true
    · simp only [hc, if_true]
      constructor
      · rintro ⟨⟩
        exact ⟨_, rfl, (if_pos hc).symm⟩
      · rintro ⟨_, ⟨⟩, rfl⟩
        rw [if_pos hc]
    · simp only [hc]
      constructor
      · rintro ⟨⟩
        exact ⟨_, rfl, (if_neg hc).symm⟩
      · rintro ⟨_, ⟨⟩, rfl⟩
        rw [if_neg hc]
        rfl

theorem rest_of_columnHeader (h : columnHeader r = .ok tag r₁) :
    (∃ rest, r.rest = tag :: rest) ∧
      ((TypeTag.ofCode? tag).any TypeTag.isConsumedOnPeek = true → r.rest = tag :: r₁.rest) ∧
      ((TypeTag.ofCode? tag).any TypeTag.isConsumedOnPeek = false → r₁ = r) := by
  obtain ⟨r₂, hu, rfl⟩ := columnHeader_accepts.mp h
  have hrest := rest_of_uint8 hu
  refine ⟨⟨_, hrest⟩, fun hc => ?_, fun hc => ?_⟩
  · rw [if_pos hc]
    exact hrest
  · rw [hc]
    rfl

/-- Whatever the bytes, a column is read only where one stands. -/
theorem beginsColumn_of_columnValue {value : ColumnValue} (h : columnValue r = .ok value r') :
    BeginsColumn r.rest := by
  obtain ⟨tag, r₁, htag, hvalue⟩ := bind_accepts.mp h
  obtain ⟨⟨rest, hrest⟩, hconsumed, hpeeked⟩ := rest_of_columnHeader htag
  generalize hcode : TypeTag.ofCode? tag = kind at hvalue hconsumed hpeeked
  have hsome {t : TypeTag} (ht : kind = some t) : t.code = tag :=
    TypeTag.code_of_ofCode? (hcode.trans ht)
  split at hvalue
  · cases hsome rfl
    exact beginsColumn_of_primitive .byte (takes_word 1).map.map.map (hconsumed rfl) hvalue
  · cases hsome rfl
    exact beginsColumn_of_primitive .short (takes_word 2).map.map.map (hconsumed rfl) hvalue
  · cases hsome rfl
    exact beginsColumn_of_primitive .char (takes_word 2).map.map.map (hconsumed rfl) hvalue
  · cases hsome rfl
    exact beginsColumn_of_primitive .int (takes_word 4).map.map.map (hconsumed rfl) hvalue
  · cases hsome rfl
    exact beginsColumn_of_primitive .long (takes_word 8).map.map.map (hconsumed rfl) hvalue
  · cases hsome rfl
    exact beginsColumn_of_primitive .float (takes_word 4).map.map.map (hconsumed rfl) hvalue
  · cases hsome rfl
    exact beginsColumn_of_primitive .double (takes_word 8).map.map.map (hconsumed rfl) hvalue
  · cases hsome rfl
    exact beginsColumn_of_primitive .bool (takes_word 1).map.map.map (hconsumed rfl) hvalue
  · cases hsome rfl
    exact ⟨_, _, rest, .null, hrest⟩
  -- The others are left in front of their tag, which their own readers take.
  · cases hpeeked rfl
    obtain ⟨_, hstring, _⟩ := map_accepts.mp hvalue
    exact beginsColumn_of_string hstring
  · cases hpeeked rfl
    obtain ⟨_, hguid, _⟩ := map_accepts.mp hvalue
    exact beginsColumn_of_guid hguid
  · cases hpeeked rfl
    obtain ⟨_, hobject, _⟩ := map_accepts.mp hvalue
    exact beginsColumn_of_object hobject
  · cases hvalue

/-- A column is read off some bytes when they begin with its own, and only then. -/
theorem columnValue_eq_ok_iff {value : ColumnValue} :
    columnValue r = .ok value r' ↔ ∃ bytes rest, SpellsColumn bytes value ∧
      r.rest = bytes ++ rest ∧ r' = ⟨r.position + bytes.length, rest⟩ := by
  have hread {bytes rest : Bytes} {value : ColumnValue} (h : SpellsColumn bytes value)
      (hrest : r.rest = bytes ++ rest) :
      columnValue r = .ok value ⟨r.position + bytes.length, rest⟩ := by
    rw [← reads_spelled h r.position rest, ← hrest]
  constructor
  · intro h
    obtain ⟨bytes, value', rest, hspells, hrest⟩ := beginsColumn_of_columnValue h
    cases h.symm.trans (hread hspells hrest)
    exact ⟨bytes, rest, hspells, hrest, rfl⟩
  · rintro ⟨bytes, rest, hspells, hrest, rfl⟩
    exact hread hspells hrest

end

end Decoder

/-! ### Writing a column again -/

section

variable {tag : UInt8} {width : Nat} {value : Nat → ColumnValue} {payload bytes : Bytes}
  {wire : WireValue}

/-- The number in a payload fits the width, and is written as the same bytes. -/
theorem LittleEndian.encode_of_decode {n : Nat} (h : payload.length = width)
    (hn : n = decode payload % wordCount width) : encode width n = payload := by
  subst h
  rw [hn, Nat.mod_eq_of_lt (decode_lt payload), encode_decode]

theorem Primitive.encode_wireValue (kind : Primitive tag width value)
    (h : payload.length = width) (hchar : tag ≠ 7) (hbool : tag ≠ 8)
    (hwire : (value (LittleEndian.decode payload)).wireValue? = some wire) :
    wire.encode = .ok (tag :: payload) := by
  have hsame {n : Nat} (hn : n = LittleEndian.decode payload % wordCount width) :=
    LittleEndian.encode_of_decode h hn
  cases kind with
  | char => exact absurd rfl hchar
  | bool => exact absurd rfl hbool
  | byte | short | int | long | float | double =>
    cases hwire
    exact congrArg (fun payload => Except.ok (_ :: payload)) (hsame rfl)

/-- A value that was read is written as the bytes that it was read from. Any byte but zero is read
as true, and a UTF-16 unit is not told from an integer, so those two are left out. -/
theorem SpellsColumn.encode_wireValue {value : ColumnValue} (h : SpellsColumn bytes value)
    (hchar : bytes.head? ≠ some 7) (hbool : bytes.head? ≠ some 8)
    (hwire : value.wireValue? = some wire) : wire.encode = .ok bytes := by
  cases h with
  | null =>
    cases hwire
    rfl
  | primitive kind length_eq =>
    refine kind.encode_wireValue length_eq ?_ ?_ hwire
    · exact fun htag => hchar (congrArg some htag)
    · exact fun htag => hbool (congrArg some htag)
  | string short =>
    cases hwire
    exact map_eq_ok.mpr ⟨_, lengthPrefixed_eq_ok.mpr ⟨short, rfl⟩, rfl⟩
  | uuid g =>
    cases hwire
    rfl
  | object => cases hwire

end

namespace Row

variable {row behind : Row} {value : ColumnValue}

theorem readColumn_eq_ok_iff (h : row.position < row.size) :
    row.readColumn = .ok value behind ↔
      ∃ bytes rest, SpellsColumn bytes value ∧ row.reader.rest = bytes ++ rest ∧
        behind = { row with
          position := row.position + 1
          reader := ⟨row.reader.position + bytes.length, rest⟩ } := by
  have hread : row.readColumn = .ok value behind ↔ ∃ reader,
      Decoder.columnValue row.reader = .ok value reader ∧
        behind = { row with reader, position := row.position + 1 } := by
    rw [readColumn, if_neg (Nat.not_le_of_lt h)]
    cases Decoder.columnValue row.reader with
    | ok value reader =>
      constructor
      · rintro ⟨⟩
        exact ⟨reader, rfl, rfl⟩
      · rintro ⟨_, ⟨⟩, rfl⟩
        rfl
    | error e reader => simp
  rw [hread]
  simp only [Decoder.columnValue_eq_ok_iff]
  constructor
  · rintro ⟨_, ⟨bytes, rest, hspells, hrest, rfl⟩, rfl⟩
    exact ⟨bytes, rest, hspells, hrest, rfl⟩
  · rintro ⟨bytes, rest, hspells, hrest, rfl⟩
    exact ⟨_, ⟨bytes, rest, hspells, hrest, rfl⟩, rfl⟩

theorem readColumn_fails_iff (h : row.position < row.size) :
    (∃ e, row.readColumn = .error e row) ↔ ¬ BeginsColumn row.reader.rest := by
  constructor
  · rintro ⟨e, hfails⟩ ⟨bytes, value, rest, hspells, hrest⟩
    cases hfails.symm.trans ((readColumn_eq_ok_iff h).mpr ⟨bytes, rest, hspells, hrest, rfl⟩)
  · intro hnone
    rw [readColumn, if_neg (Nat.not_le_of_lt h)]
    cases hd : Decoder.columnValue row.reader with
    | ok value reader => exact absurd (Decoder.beginsColumn_of_columnValue hd) hnone
    | error e reader => exact ⟨e, rfl⟩

theorem encode_of_readColumn (h : row.position < row.size)
    (hread : row.readColumn = .ok value behind) (hchar : row.reader.rest.head? ≠ some 7)
    (hbool : row.reader.rest.head? ≠ some 8) {wire : WireValue}
    (hwire : value.wireValue? = some wire) :
    ∃ bytes, wire.encode = .ok bytes ∧ row.reader.rest = bytes ++ behind.reader.rest := by
  obtain ⟨bytes, rest, hspells, hrest, rfl⟩ := (readColumn_eq_ok_iff h).mp hread
  have hhead {tag : UInt8} (hne : row.reader.rest.head? ≠ some tag) :
      bytes.head? ≠ some tag := by
    intro heq
    rw [hrest, List.head?_append, heq] at hne
    exact hne rfl
  exact ⟨bytes, hspells.encode_wireValue (hhead hchar) (hhead hbool) hwire, hrest⟩

/-- A column is read exactly where the page goes on with one: its value is the one that its bytes
denote, and just those bytes are used up. Anywhere else the row stays as it is. -/
theorem readColumn_reads_grammar (h : row.position < row.size) :
    (∀ value behind, row.readColumn = .ok value behind ↔
      ∃ bytes rest, SpellsColumn bytes value ∧ row.reader.rest = bytes ++ rest ∧
        behind = { row with
          position := row.position + 1
          reader := ⟨row.reader.position + bytes.length, rest⟩ }) ∧
    ((∃ e, row.readColumn = .error e row) ↔ ¬ BeginsColumn row.reader.rest) ∧
    (∀ value behind, row.readColumn = .ok value behind →
      row.reader.rest.head? ≠ some 7 → row.reader.rest.head? ≠ some 8 →
      (∃ bytes, value = .object bytes) ∨
        ∃ wire bytes, value.wireValue? = some wire ∧ wire.encode = .ok bytes ∧
          row.reader.rest = bytes ++ behind.reader.rest) := by
  refine ⟨fun _ _ => readColumn_eq_ok_iff h, readColumn_fails_iff h, ?_⟩
  intro value behind hread hchar hbool
  cases hwire : value.wireValue? with
  | none =>
    cases value with
    | object bytes => exact .inl ⟨bytes, rfl⟩
    | _ => cases hwire
  | some wire =>
    obtain ⟨bytes, hencode, hrest⟩ := encode_of_readColumn h hread hchar hbool hwire
    exact .inr ⟨wire, bytes, rfl, hencode, hrest⟩

/-- An object of eighteen bytes with a text behind it, the same object with a length past the end of
the page, and the text. -/
theorem readColumn_reads_grammar_object :
    let object : Bytes := [103, 1, 0, 0, 0, 0, 0, 0, 0, 0, 0, 0, 18, 0, 0, 0, 7, 8]
    let text : Bytes := [9, 2, 0, 0, 0, 195, 169]
    let row : Row := ⟨4, 2, 0, ⟨4, object ++ text⟩⟩
    let cut : Row := ⟨4, 1, 0, ⟨4, object.take 17⟩⟩
    let behind : Row := ⟨4, 2, 1, ⟨22, text⟩⟩
    row.position < row.size ∧ row.readColumn = .ok (.object object) behind ∧
      cut.position < cut.size ∧ ¬ BeginsColumn cut.reader.rest ∧
      behind.position < behind.size ∧
      behind.readColumn = .ok (.string "é") ⟨4, 2, 2, ⟨29, []⟩⟩ ∧
      ∃ bytes, (WireValue.string "é").encode = .ok bytes ∧ text = bytes ++ [] := by
  intro object text row cut behind
  have hobject : SpellsColumn object (.object object) :=
    @SpellsColumn.object ⟨103, 1, 0, 0, 0, 18⟩ [7, 8] rfl rfl rfl
  have htext : SpellsColumn text (.string "é") := @SpellsColumn.string "é" (by decide)
  have hrow : row.position < row.size := by decide
  have hcut : cut.position < cut.size := by decide
  have hbehind : behind.position < behind.size := by decide
  have hread : behind.readColumn = .ok (.string "é") ⟨4, 2, 2, ⟨29, []⟩⟩ :=
    ((readColumn_reads_grammar hbehind).1 _ _).mpr
      ⟨text, [], htext, (List.append_nil _).symm, rfl⟩
  refine ⟨hrow, ((readColumn_reads_grammar hrow).1 _ _).mpr ⟨object, text, hobject, rfl, rfl⟩,
    hcut, (readColumn_reads_grammar hcut).2.1.mp ⟨_, rfl⟩, hbehind, hread, ?_⟩
  rcases (readColumn_reads_grammar hbehind).2.2 _ _ hread (by decide) (by decide) with
    ⟨_, ⟨⟩⟩ | ⟨_, bytes, ⟨⟩, hencode, hrest⟩
  exact ⟨bytes, hencode, hrest⟩

end Row

end GridClient
