import GridClient.Parameter
import GridClient.Proofs.IntegerWords
import GridClient.Proofs.NumeralReading

/-!
Numbers, identifiers and texts that went whole into a buffer, read back from it as what they were.
-/
namespace GridClient

/-- The bytes that a buffer needs for a value: those of its text and the zero behind it, or else
those of its fixed width. -/
def BindingType.room (type : BindingType) (text : String) (width : Nat) : Nat :=
  match type with
  | .char => (Utf8.encode text).length + 1
  | .wideChar => 2 * (Utf16.encode text).length + 2
  | _ => width

/-! ### Whole numbers -/

theorem toInt64_of_word (v : Int64) :
    (UInt64.ofNat (v.toUInt64.toNat % wordCount 8)).toInt64 = v := by
  have hlt := v.toUInt64.toNat_lt
  rw [Nat.mod_eq_of_lt (by simpa [wordCount] using hlt), UInt64.ofNat_toNat]
  rfl

namespace DataBuffer

variable {b : DataBuffer}

/-- A text that spells a whole number is read as that number. -/
theorem Shows.getInt64_eq {v : Int64} (h : b.Shows (String.ofList (Numeral.ofInt v.toInt))) :
    b.getInt64 = v := by
  have hfloating : looksFloating (Numeral.ofInt v.toInt) = false := by
    unfold looksFloating
    rw [List.any_eq_false]
    exact Numeral.forall_mem_ofInt (by decide) (by decide) v.toInt
  have hchars := h.textChars_eq
  rw [String.toList_ofList] at hchars
  have hnumber : b.getNumber = some (.int64 v) := by
    unfold getNumber
    rcases h.isText with htype | htype
    · rw [htype]
      simp only
      rw [hchars, hfloating, Number.read_ofInt]
    · rw [htype]
      simp only
      rw [hchars, hfloating, Number.read_ofInt]
  rw [getInt64, hnumber]
  rfl

variable {n : Number}

/-- A whole number is read back from a buffer of its own width. -/
theorem putNumber_own (htype : n.ownType? = some b.type) (hcell : b.length.isSome)
    (hroom : n.toBytes.length ≤ b.capacity) :
    ∃ b', b.putNumber n = (.success, b') ∧ b'.isNull = false ∧ b'.getInt64 = n.toInt64 := by
  obtain ⟨f, hf, hwidth, hcontains⟩ := Number.exists_integer?_of_own htype
  have hlength := LittleEndian.length_encode f.bytes n.toInt64.toUInt64.toNat
  have hpos : 0 < (LittleEndian.encode f.bytes n.toInt64.toUInt64.toNat).length := by
    rw [hlength]
    rcases BindingType.bytes_of_integer? hf with h | h | h | h <;> omega
  obtain ⟨b', hput, hholds⟩ := putFixed_holds hcell hpos (by rwa [hlength, hwidth])
  obtain ⟨rest, hslot⟩ := hholds.slot_eq
  refine ⟨b', (putNumber_integer hf n).trans hput, hholds.isNull_eq, ?_⟩
  rw [← Int64.toInt_inj, getInt64_of_low (hholds.type_eq ▸ hf) n.toInt64 hslot]
  exact IntegerFormat.reduce_of_contains hcontains

/-- A text that is written into a buffer for text is shown there. -/
theorem exists_shows {text : String} {width : Nat} (put : Conversion × DataBuffer)
    (htype : b.type = .char ∨ b.type = .wideChar) (hroom : b.type.room text width ≤ b.capacity)
    (hzero : Char.ofNat 0 ∉ text.toList)
    (hchar : b.type = .char → put = b.putText text)
    (hwide : b.type = .wideChar → put = b.putWideText text) :
    ∃ b', put = (.success, b') ∧ b'.Shows text := by
  rcases htype with htype | htype
  · rw [htype] at hroom
    rw [hchar htype]
    exact putText_shows htype hroom hzero
  · rw [htype] at hroom
    rw [hwide htype]
    exact putWideText_shows htype hroom hzero

/-- A whole number is read back from a buffer for text. -/
theorem putNumber_text {width : Nat} (hwhole : n.ownType?.isSome)
    (htype : b.type = .char ∨ b.type = .wideChar)
    (hroom : b.type.room n.text width ≤ b.capacity) :
    ∃ b', b.putNumber n = (.success, b') ∧ b'.isNull = false ∧ b'.getInt64 = n.toInt64 := by
  have htext := n.text_of_whole hwhole
  have hzero : Char.ofNat 0 ∉ n.text.toList := by
    rw [htext, String.toList_ofList]
    intro h
    exact Numeral.forall_mem_ofInt (p := (· ≠ Char.ofNat 0)) (by decide) (by decide) _ _ h rfl
  obtain ⟨b', hput, hshows⟩ := exists_shows (b.putNumber n) htype hroom hzero
    (fun h => by unfold putNumber; rw [h]) (fun h => by unfold putNumber; rw [h])
  rw [htext] at hshows
  exact ⟨b', hput, hshows.isNull_eq, hshows.getInt64_eq⟩

/-- A whole number is read back from a buffer that suits it. -/
theorem putNumber_whole {own : BindingType} (hown : n.ownType? = some own)
    (htype : b.type ∈ [own, .char, .wideChar]) (hcell : b.length.isSome)
    (hroom : b.type.room n.text n.toBytes.length ≤ b.capacity) :
    ∃ b', b.putNumber n = (.success, b') ∧ b'.isNull = false ∧ b'.getInt64 = n.toInt64 := by
  rcases List.mem_cons.mp htype with htype | htype
  · have hwidth : b.type.room n.text n.toBytes.length = n.toBytes.length := by
      rw [htype]
      cases n <;> cases hown <;> rfl
    exact putNumber_own (by rw [htype, hown]) hcell (hwidth ▸ hroom)
  · exact putNumber_text (by rw [hown]; rfl) (by simpa using htype) hroom

/-! ### Identifiers and texts -/

theorem Shows.getGuid_eq {g : Guid} (h : b.Shows g.text) : b.getGuid = some g := by
  have hchars : b.textChars = g.chars := h.textChars_eq.trans (String.toList_ofList)
  unfold getGuid
  rcases h.isText with htype | htype
  · rw [htype]
    simp only
    rw [hchars, Guid.read?_chars]
  · rw [htype]
    simp only
    rw [hchars, Guid.read?_chars]

theorem getChars_of_text (htext : b.type = .char ∨ b.type = .wideChar) :
    b.getChars = b.textChars := by
  unfold getChars
  rcases htext with htype | htype <;> rw [htype]

theorem Shows.getString_eq {text : String} (h : b.Shows text) : b.getString = text := by
  rw [getString, getChars_of_text h.isText, h.textChars_eq, String.ofList_toList]

/-- A parameter that is sent as a text is the text of its buffer. -/
theorem wireValue_varchar (hnull : b.isNull = false) :
    Parameter.wireValue ⟨b, .varchar⟩ = .ok (.string b.getString) := by
  simp only [Parameter.wireValue, hnull]
  rfl

end DataBuffer

namespace Guid

theorem length_toBytes (g : Guid) : g.toBytes.length = 16 := by
  rw [toBytes, List.length_append, BigEndian.length_encode, BigEndian.length_encode]

theorem length_toStructBytes (g : Guid) : g.toStructBytes.length = 16 := by
  rw [toStructBytes]
  simp only [List.length_append, LittleEndian.length_encode, BigEndian.length_encode]

theorem ofBytes_toBytes (g : Guid) : ofBytes g.toBytes = g := by
  have hlength := BigEndian.length_encode 8 g.most.toUInt64.toNat
  rw [ofBytes, toBytes, List.take_left' hlength, List.drop_left' hlength, BigEndian.decode_encode,
    BigEndian.decode_encode, toInt64_of_word, toInt64_of_word]

/-- The four fields of the layout stand one behind the other. -/
theorem ofStructBytes_append {word first second low : Bytes} (hword : word.length = 4)
    (hfirst : first.length = 2) (hsecond : second.length = 2) (hlow : low.length = 8) :
    ofStructBytes (word ++ first ++ second ++ low) =
      ⟨(UInt64.ofNat ((LittleEndian.decode word <<< 32) + (LittleEndian.decode first <<< 16) +
          LittleEndian.decode second)).toInt64,
        (UInt64.ofNat (BigEndian.decode low)).toInt64⟩ := by
  have hsix : (word ++ first).length = 6 := by rw [List.length_append, hword, hfirst]
  have height : (word ++ first ++ second).length = 8 := by rw [List.length_append, hsix, hsecond]
  have hdrop₄ : (word ++ first ++ second ++ low).drop 4 = first ++ (second ++ low) := by
    rw [List.append_assoc, List.append_assoc, List.drop_left' hword]
  have hdrop₆ : (word ++ first ++ second ++ low).drop 6 = second ++ low := by
    rw [List.append_assoc, List.drop_left' hsix]
  have htake : (word ++ first ++ second ++ low).take 4 = word := by
    rw [List.append_assoc, List.append_assoc, List.take_left' hword]
  rw [ofStructBytes, htake, hdrop₄, List.take_left' hfirst, hdrop₆, List.take_left' hsecond,
    List.drop_left' height, List.take_of_length_le (Nat.le_of_eq hlow)]

theorem ofStructBytes_toStructBytes (g : Guid) : ofStructBytes g.toStructBytes = g := by
  have hmost := g.most.toUInt64.toNat_lt
  have hhigh : (g.most.toUInt64.toNat >>> 32 % wordCount 4) <<< 32 +
      (g.most.toUInt64.toNat >>> 16 % wordCount 2) <<< 16 + g.most.toUInt64.toNat % wordCount 2 =
      g.most.toUInt64.toNat := by
    simp only [Nat.shiftLeft_eq, Nat.shiftRight_eq_div_pow, wordCount]
    omega
  rw [toStructBytes, ofStructBytes_append (LittleEndian.length_encode _ _)
    (LittleEndian.length_encode _ _) (LittleEndian.length_encode _ _) (BigEndian.length_encode _ _),
    LittleEndian.decode_encode, LittleEndian.decode_encode, LittleEndian.decode_encode, hhigh,
    BigEndian.decode_encode, toInt64_of_word, UInt64.ofNat_toNat]
  rfl

end Guid

namespace DataBuffer

variable {b : DataBuffer} {g : Guid}

theorem putFixed_guid (htype : b.type = .guid) (hcell : b.length.isSome)
    (hroom : 16 ≤ b.capacity) :
    ∃ b', b.putFixed g.toStructBytes = (.success, b') ∧ b'.isNull = false ∧
      b'.getGuid = some g := by
  have hlength := g.length_toStructBytes
  obtain ⟨b', hput, hholds⟩ :=
    putFixed_holds hcell (by rw [hlength]; decide) (by rwa [hlength])
  refine ⟨b', hput, hholds.isNull_eq, ?_⟩
  have hfixed := hholds.fixed?_eq
  rw [hlength] at hfixed
  rw [getGuid, hholds.type_eq, htype]
  simp only [hfixed, Option.map_some, Guid.ofStructBytes_toStructBytes]

theorem putRaw_guid (htype : b.type = .binary ∨ b.type = .native) (hcell : b.length.isSome)
    (hroom : 16 ≤ b.capacity) :
    ∃ b', b.putRaw g.toBytes = (.success, b') ∧ b'.isNull = false ∧ b'.getGuid = some g := by
  have hlength := g.length_toBytes
  have hle : g.toBytes.length ≤ b.capacity := by rwa [hlength]
  obtain ⟨b', hput, hholds⟩ := putFixed_holds hcell (by rw [hlength]; decide) hle
  refine ⟨b', (putRaw_eq hle).trans hput, hholds.isNull_eq, ?_⟩
  have hbytes : b'.valueBytes = g.toBytes := by
    rw [valueBytes, hholds.type_eq, ← hholds.boundedBytes_eq]
    rcases htype with htype | htype <;> rw [htype]
  unfold getGuid
  rw [hholds.type_eq, hbytes]
  rcases htype with htype | htype
  all_goals
    rw [htype]
    simp only [hlength, if_true, Guid.ofBytes_toBytes]

theorem putGuid_text (htype : b.type = .char ∨ b.type = .wideChar)
    (hroom : b.type.room g.text 16 ≤ b.capacity) :
    ∃ b', b.putGuid g = (.success, b') ∧ b'.isNull = false ∧ b'.getGuid = some g := by
  have hzero : Char.ofNat 0 ∉ g.text.toList := by
    rw [Guid.text, String.toList_ofList]
    intro h
    exact g.forall_mem_chars (p := (· ≠ Char.ofNat 0)) (by decide) (by decide) _ h rfl
  obtain ⟨b', hput, hshows⟩ := exists_shows (b.putGuid g) htype hroom hzero
    (fun h => by simp only [putGuid, h]) (fun h => by simp only [putGuid, h])
  exact ⟨b', hput, hshows.isNull_eq, hshows.getGuid_eq⟩

/-- An identifier is read back from a buffer that suits it. -/
theorem putGuid_suited (htype : b.type ∈ [.guid, .binary, .native, .char, .wideChar])
    (hcell : b.length.isSome) (hroom : b.type.room g.text 16 ≤ b.capacity) :
    ∃ b', b.putGuid g = (.success, b') ∧ b'.isNull = false ∧ b'.getGuid = some g := by
  simp only [List.mem_cons, List.not_mem_nil, or_false] at htype
  rcases htype with htype | htype | htype | htype
  · rw [htype] at hroom
    obtain ⟨b', hput, hread⟩ := putFixed_guid (g := g) htype hcell hroom
    exact ⟨b', by simp only [putGuid, htype, hput], hread⟩
  · rw [htype] at hroom
    obtain ⟨b', hput, hread⟩ := putRaw_guid (g := g) (.inl htype) hcell hroom
    exact ⟨b', by simp only [putGuid, htype, hput], hread⟩
  · rw [htype] at hroom
    obtain ⟨b', hput, hread⟩ := putRaw_guid (g := g) (.inr htype) hcell hroom
    exact ⟨b', by simp only [putGuid, htype, hput], hread⟩
  · exact putGuid_text htype hroom

/-- A text is read back from a buffer for text. -/
theorem putString_suited {text : String} (htype : b.type ∈ [.char, .wideChar])
    (hroom : b.type.room text 0 ≤ b.capacity) (hzero : Char.ofNat 0 ∉ text.toList) :
    ∃ b', b.putString text = (.success, b') ∧ b'.isNull = false ∧ b'.getString = text := by
  have htext : b.type = .char ∨ b.type = .wideChar := by simpa using htype
  obtain ⟨b', hput, hshows⟩ := exists_shows (b.putString text) htext hroom hzero
    (fun h => by simp only [putString, h]) (fun h => by simp only [putString, h])
  exact ⟨b', hput, hshows.isNull_eq, hshows.getString_eq⟩

end DataBuffer

end GridClient
