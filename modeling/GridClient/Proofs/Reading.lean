import GridClient.Wire.Object

/-! What decoders read in front of anything else. None of it says what they do on other bytes. -/
namespace GridClient

/-! ### Words -/

@[simp] theorem length_encodeInt32 (v : Int32) : (encodeInt32 v).length = 4 :=
  LittleEndian.length_encode _ _

@[simp] theorem length_encodeInt64 (v : Int64) : (encodeInt64 v).length = 8 :=
  LittleEndian.length_encode _ _

theorem Utf8.decode?_encode (text : String) : decode? (encode text) = some text := by
  have hv := text.isValidUTF8
  simp only [decode?, encode, String.fromUTF8?, Array.toArray_toList]
  exact dif_pos hv

/-- A text that can be written is short enough for its length field. -/
theorem encodeString_eq_ok {text : String} {bytes : Bytes} (h : encodeString text = .ok bytes) :
    (Utf8.encode text).length < 0x80000000 ∧ bytes = TypeTag.string.code ::
      (LittleEndian.encode 4 (Utf8.encode text).length ++ Utf8.encode text) := by
  unfold encodeString lengthPrefixed at h
  split at h
  · rename_i hlen
    cases h
    exact ⟨hlen, rfl⟩
  · cases h

namespace Decoder

variable {α β : Type} {d : Decoder α} {bytes first second : Bytes} {a : α} {b : β}

/-- On these bytes, whatever follows them, the decoder gives this value and stops right behind. -/
def Reads (d : Decoder α) (bytes : Bytes) (a : α) : Prop :=
  ∀ position rest, d ⟨position, bytes ++ rest⟩ = .ok a ⟨position + bytes.length, rest⟩

theorem reads_pure (a : α) : Reads (pure a) [] a := by
  intro position rest
  rfl

theorem Reads.bind {f : α → Decoder β} (h : Reads d first a) (h' : Reads (f a) second b) :
    Reads (d >>= f) (first ++ second) b := by
  intro position rest
  show EStateM.bind d f _ = _
  rw [List.append_assoc, EStateM.bind, h position (second ++ rest)]
  simp only [h' _ rest, List.length_append, Nat.add_assoc]

/-- A step that only looks at what was read. -/
theorem Reads.check {f : α → Decoder β} (h : Reads d bytes a) (h' : Reads (f a) [] b) :
    Reads (d >>= f) bytes b := by
  have hb := h.bind h'
  rwa [List.append_nil] at hb

theorem Reads.map {f : α → β} (h : Reads d bytes a) : Reads (f <$> d) bytes (f a) := by
  intro position rest
  show EStateM.map f d _ = _
  rw [EStateM.map, h position rest]

theorem Reads.atomically (h : Reads d bytes a) : Reads (atomically d) bytes a := by
  intro position rest
  rw [Decoder.atomically, h position rest]

/-- Bytes that make up all there is are read to the end. -/
theorem Reads.decode (h : Reads d bytes a) : d.decode bytes = .ok a := by
  have hr := h 0 []
  rw [List.append_nil] at hr
  rw [Decoder.decode, Reader.ofBytes, hr]

theorem reads_take (bytes : Bytes) : Reads (take bytes.length) bytes bytes := by
  intro position rest
  rw [take, Bytes.splitFirst?_append]

theorem reads_word {width n : Nat} (h : n < wordCount width) :
    Reads (word width) (LittleEndian.encode width n) n := by
  have ht := (reads_take (LittleEndian.encode width n)).map (f := LittleEndian.decode)
  rwa [LittleEndian.length_encode, LittleEndian.decode_encode_of_lt h] at ht

theorem reads_uint8 (v : UInt8) : Reads uint8 [v] v := by
  have hv := v.toNat_lt
  have hw : Reads (word 1) (LittleEndian.encode 1 v.toNat) v.toNat :=
    reads_word (by simpa [wordCount] using hv)
  have h := hw.map (f := UInt8.ofNat)
  simp only [LittleEndian.encode, UInt8.ofNat_toNat] at h
  exact h

/-- A tag in front of what it calls for. -/
theorem Reads.tagged {f : UInt8 → Decoder β} {tag : UInt8} (h : Reads (f tag) bytes b) :
    Reads (uint8 >>= f) (tag :: bytes) b :=
  (reads_uint8 tag).bind h

theorem reads_int8 (v : Int8) : Reads int8 (LittleEndian.encode 1 v.toUInt8.toNat) v := by
  simp only [LittleEndian.encode, UInt8.ofNat_toNat]
  exact (reads_uint8 v.toUInt8).map (f := UInt8.toInt8)

theorem reads_bool (v : Bool) : Reads bool (encodeBool v) v := by
  have h := (reads_uint8 (if v then 1 else 0)).map (f := (· != 0))
  cases v <;> exact h

theorem reads_uint16 (v : UInt16) : Reads uint16 (LittleEndian.encode 2 v.toNat) v := by
  have hv := v.toNat_lt
  have hw : Reads (word 2) (LittleEndian.encode 2 v.toNat) v.toNat :=
    reads_word (by simpa [wordCount] using hv)
  have h := hw.map (f := UInt16.ofNat)
  rwa [UInt16.ofNat_toNat] at h

theorem reads_int16 (v : Int16) : Reads int16 (LittleEndian.encode 2 v.toUInt16.toNat) v :=
  (reads_uint16 v.toUInt16).map (f := UInt16.toInt16)

theorem reads_uint32 (v : UInt32) : Reads uint32 (LittleEndian.encode 4 v.toNat) v := by
  have hv := v.toNat_lt
  have hw : Reads (word 4) (LittleEndian.encode 4 v.toNat) v.toNat :=
    reads_word (by simpa [wordCount] using hv)
  have h := hw.map (f := UInt32.ofNat)
  rwa [UInt32.ofNat_toNat] at h

theorem reads_int32 (v : Int32) : Reads int32 (encodeInt32 v) v :=
  (reads_uint32 v.toUInt32).map (f := UInt32.toInt32)

theorem reads_uint64 (v : UInt64) : Reads uint64 (LittleEndian.encode 8 v.toNat) v := by
  have hv := v.toNat_lt
  have hw : Reads (word 8) (LittleEndian.encode 8 v.toNat) v.toNat :=
    reads_word (by simpa [wordCount] using hv)
  have h := hw.map (f := UInt64.ofNat)
  rwa [UInt64.ofNat_toNat] at h

theorem reads_int64 (v : Int64) : Reads int64 (encodeInt64 v) v :=
  (reads_uint64 v.toUInt64).map (f := UInt64.toInt64)

theorem reads_binary32 (v : Binary32) :
    Reads binary32 (LittleEndian.encode 4 v.bits.toNat) v :=
  (reads_uint32 v.bits).map (f := Binary32.mk)

theorem reads_binary64 (v : Binary64) :
    Reads binary64 (LittleEndian.encode 8 v.bits.toNat) v :=
  (reads_uint64 v.bits).map (f := Binary64.mk)

/-! ### Lengths, texts and identifiers -/

theorem reads_length {n : Nat} (h : n < 0x80000000) :
    Reads length (LittleEndian.encode 4 n) n := by
  have hw : Reads (word 4) (LittleEndian.encode 4 n) n :=
    reads_word (by simp only [wordCount]; omega)
  have hr : Reads int32 (LittleEndian.encode 4 n) (Int32.ofNat n) :=
    hw.map (f := fun n => (UInt32.ofNat n).toInt32)
  have hi : (Int32.ofNat n).toInt = n := Int32.toInt_ofNat_of_lt h
  have hn : ¬ Int32.ofNat n < 0 := by
    rw [Int32.lt_iff_toInt_lt, hi]
    simp
  refine hr.check ?_
  rw [if_neg hn, hi]
  exact reads_pure n

theorem reads_text {text : String} (h : (Utf8.encode text).length < 0x80000000) :
    Reads Decoder.text (LittleEndian.encode 4 (Utf8.encode text).length ++ Utf8.encode text)
      text := by
  refine (reads_length h).bind ?_
  refine (reads_take (Utf8.encode text)).check ?_
  rw [Utf8.decode?_encode]
  exact reads_pure text

theorem reads_string {text : String} (h : (Utf8.encode text).length < 0x80000000) :
    Reads string (TypeTag.string.code ::
      (LittleEndian.encode 4 (Utf8.encode text).length ++ Utf8.encode text)) (some text) := by
  refine Reads.atomically (Reads.tagged ?_)
  simp only [TypeTag.ofCode?_code]
  exact (reads_text h).map

theorem reads_guid (g : Guid) :
    Reads guid (TypeTag.uuid.code :: (encodeInt64 g.most ++ encodeInt64 g.least)) (some g) := by
  refine Reads.atomically (Reads.tagged ?_)
  simp only [TypeTag.ofCode?_code]
  refine (reads_int64 _).bind ?_
  have hl := (reads_int64 g.least).map (f := fun least => some (Guid.mk g.most least))
  exact hl

end Decoder

end GridClient
