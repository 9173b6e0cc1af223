import GridClient.Proofs.TextEnd
import GridClient.Proofs.UnsignedNumerals

/-!
Texts that are sent as whole numbers. A text that is put into an integer buffer is tried as a whole
number first, whatever it looks like; the text of a text buffer is looked at for a point or an
exponent before that. Both come to the same number, since no whole numeral has either in it, and
both narrow it to the same bits.
-/
namespace GridClient

/-! ### What a whole numeral is made of -/

namespace Numeral

variable {value n : Nat} {i : Int} {cs : List Char}

theorem digitValue?_of_readFrom? (h : readFrom? value cs = some n) :
    ∀ c ∈ cs, (digitValue? c).isSome := by
  induction cs generalizing value with
  | nil =>
    intro c hc
    cases hc
  | cons d cs ih =>
    rw [readFrom?] at h
    cases hd : digitValue? d with
    | none =>
      rw [hd] at h
      cases h
    | some digit =>
      rw [hd] at h
      intro c hc
      rcases List.mem_cons.mp hc with rfl | hc
      · rw [hd]
        rfl
      · exact ih h c hc

theorem digitValue?_of_read? (h : read? cs = some n) : ∀ c ∈ cs, (digitValue? c).isSome := by
  cases cs with
  | nil => cases h
  | cons c cs => exact digitValue?_of_readFrom? h

/-- A whole numeral is a run of digits with a sign in front of it or none. -/
theorem readInt?_eq_some (h : readInt? cs = some i) :
    ∃ (n : Nat) (ds : List Char), read? ds = some n ∧
      ((cs = '-' :: ds ∧ i = -(n : Int)) ∨ (cs = '+' :: ds ∧ i = n) ∨ (cs = ds ∧ i = n)) := by
  unfold readInt? at h
  split at h
  · rename_i ds
    cases hread : read? ds with
    | none =>
      rw [hread] at h
      cases h
    | some n =>
      rw [hread] at h
      exact ⟨n, ds, hread, .inl ⟨rfl, (Option.some.inj h).symm⟩⟩
  · rename_i ds
    cases hread : read? ds with
    | none =>
      rw [hread] at h
      cases h
    | some n =>
      rw [hread] at h
      exact ⟨n, ds, hread, .inr (.inl ⟨rfl, (Option.some.inj h).symm⟩)⟩
  · cases hread : read? cs with
    | none =>
      rw [hread] at h
      cases h
    | some n =>
      rw [hread] at h
      exact ⟨n, cs, hread, .inr (.inr ⟨rfl, (Option.some.inj h).symm⟩)⟩

/-- A whole numeral is made of digits and of signs alone. -/
theorem mem_of_readInt? (h : readInt? cs = some i) :
    ∀ c ∈ cs, c = '-' ∨ c = '+' ∨ (digitValue? c).isSome := by
  obtain ⟨n, ds, hread, hcs⟩ := readInt?_eq_some h
  have hdigits := digitValue?_of_read? hread
  intro c hc
  rcases hcs with ⟨rfl, -⟩ | ⟨rfl, -⟩ | ⟨rfl, -⟩
  · exact (List.mem_cons.mp hc).imp_right fun hc => .inr (hdigits c hc)
  · exact .inr ((List.mem_cons.mp hc).imp_right fun hc => hdigits c hc)
  · exact .inr (.inr (hdigits c hc))

theorem looksFloating_of_readInt? (h : readInt? cs = some i) :
    DataBuffer.looksFloating cs = false := by
  have hnone : digitValue? '.' = none ∧ digitValue? 'e' = none ∧ digitValue? 'E' = none := by
    decide
  rw [DataBuffer.looksFloating, List.any_eq_false]
  intro c hc hmark
  simp only [Bool.or_eq_true, decide_eq_true_eq] at hmark
  have hmem := mem_of_readInt? h c hc
  rcases hmark with (rfl | rfl) | rfl
  · simp [hnone.1] at hmem
  · simp [hnone.2.1] at hmem
  · simp [hnone.2.2] at hmem

end Numeral

/-! ### Blanks around a text -/

namespace Text

variable {p : Char → Bool}

theorem any_dropWhile_isBlank (hblank : ∀ c, isBlank c = true → p c = false) (cs : List Char) :
    (cs.dropWhile isBlank).any p = cs.any p := by
  induction cs with
  | nil => rfl
  | cons c cs ih =>
    rw [List.dropWhile_cons]
    split
    · rename_i hc
      rw [ih, List.any_cons, hblank c hc, Bool.false_or]
    · rfl

/-- Trimming a text leaves alone what no blank is. -/
theorem any_trim (hblank : ∀ c, isBlank c = true → p c = false) (cs : List Char) :
    (trim cs).any p = cs.any p := by
  rw [trim, List.any_reverse, any_dropWhile_isBlank hblank, List.any_reverse,
    any_dropWhile_isBlank hblank]

end Text

namespace Number

theorem looksFloating_trim (cs : List Char) :
    DataBuffer.looksFloating (Text.trim cs) = DataBuffer.looksFloating cs := by
  apply Text.any_trim
  intro c hc
  rw [Bool.eq_false_iff]
  intro hmark
  simp only [Bool.or_eq_true, decide_eq_true_eq] at hmark
  rcases hmark with (rfl | rfl) | rfl <;> exact absurd hc (by decide)

/-- A text with a point or an exponent in it would not have been read as a whole number anyway. -/
theorem read_looksFloating (cs : List Char) :
    read (DataBuffer.looksFloating cs) cs = read false cs := by
  cases hmark : DataBuffer.looksFloating cs with
  | false => rfl
  | true =>
    have hwhole : readInt64? (Text.trim cs) = none := by
      cases hint : Numeral.readInt? (Text.trim cs) with
      | none => rw [readInt64?, hint]
      | some i =>
        have hplain := Numeral.looksFloating_of_readInt? hint
        rw [looksFloating_trim, hmark] at hplain
        cases hplain
    simp only [read, hwhole, if_true, Bool.false_eq_true, if_false]

end Number

/-- The integer type that a parameter of an SQL integer type is bound as, and its width. -/
def SqlType.native? : SqlType → Option (BindingType × Nat)
  | tinyInt => some (.signedTinyInt, 1)
  | smallInt => some (.signedShort, 2)
  | integer => some (.signedLong, 4)
  | bigInt => some (.signedBigInt, 8)
  | _ => none

namespace DataBuffer

variable {a b : DataBuffer} {text : String} {sql : SqlType} {type : BindingType} {width : Nat}

/-! ### Buffers that hold a text -/

/-- A buffer of a text type that holds a text. What its length cell leaves of the slot begins with
the text, and there is a zero unit behind it or no whole unit any more. -/
structure HoldsText (b : DataBuffer) (text : String) : Prop where
  isText : b.type = .char ∨ b.type = .wideChar
  isNull_eq : b.isNull = false
  bounded_eq : ∃ rest, b.boundedBytes = b.type.spelling text ++ rest ∧
    (rest.length < b.type.unit ∨ b.type.terminator <+: rest)

theorem beforeZero_of_end {rest : Bytes} (htext : type = .char ∨ type = .wideChar)
    (hend : rest.length < type.unit ∨ type.terminator <+: rest) : type.beforeZero rest = [] := by
  rcases hend with hshort | ⟨tail, rfl⟩
  · rcases htext with rfl | rfl
    · rw [List.length_eq_zero_iff.mp (Nat.lt_one_iff.mp hshort)]
      rfl
    · match rest, hshort with
      | [], _ => rfl
      | [_], _ => rfl
  · exact beforeZero_terminator htext tail

/-- A text without a zero character is shown by every buffer that holds it. -/
theorem HoldsText.shows (h : b.HoldsText text) (hzero : Char.ofNat 0 ∉ text.toList) :
    b.Shows text := by
  obtain ⟨rest, hbounded, hend⟩ := h.bounded_eq
  refine ⟨h.isText, h.isNull_eq, textChars_of_spelling ?_⟩
  rw [valueBytes_of_text h.isText, hbounded, beforeZero_spelling _ hzero,
    beforeZero_of_end h.isText hend, List.append_nil]

/-- What a text buffer shows is read as a whole number where it can be. -/
theorem Shows.getInt64_eq_read (h : a.Shows text) :
    a.getInt64 = (Number.read false text.toList).toInt64 := by
  have hnumber : a.getNumber = some (Number.read false text.toList) := by
    rw [← Number.read_looksFloating, ← h.textChars_eq]
    unfold getNumber
    rcases h.isText with htype | htype <;> rw [htype]
  rw [getInt64, hnumber]
  rfl

/-! ### Parameters of integer types -/

theorem integer?_of_native? (h : sql.native? = some (type, width)) :
    type.integer? = some ⟨width, true⟩ := by
  cases sql <;> cases h <;> rfl

/-- A text goes into the integer type of a parameter as what is left of its number there. -/
theorem putString_native (hnative : sql.native? = some (b.type, width))
    (hroom : width ≤ b.capacity) (text : String) :
    ∃ b', b.putString text = (.success, b') ∧ b'.isNull = false ∧
      b'.getInt64.toInt % wordCount width =
        (Number.read false text.toList).toInt64.toInt % wordCount width := by
  have hinteger := integer?_of_native? hnative
  have hpos : 0 < width := by
    rcases BindingType.bytes_of_integer? hinteger with h | h | h | h <;> simp only at h <;> omega
  obtain ⟨slot, hslot, hcapacity⟩ := exists_slot (Nat.lt_of_lt_of_le hpos hroom)
  generalize hread : Number.read false text.toList = n
  have hlength := LittleEndian.length_encode width n.toInt64.toUInt64.toNat
  have hput := putFixed_of_room hslot (hlength.symm ▸ hcapacity ▸ hroom)
  rw [← putNumber_integer hinteger, ← hread, ← putString_integer hinteger, hread] at hput
  refine ⟨_, hput, ?_, ?_⟩
  · rw [isNull, nullLength]
    cases b.length with
    | none => rfl
    | some length =>
      simp only [Option.map_some, Option.some_beq_some, beq_eq_false_iff_ne]
      omega
  · have hreduce := (IntegerFormat.asRead ⟨width, true⟩).reduce_emod n.toInt64.toInt
    refine Eq.trans (congrArg (· % (wordCount width : Int)) ?_) hreduce
    apply getInt64_of_low
    · exact hinteger
    · rfl

/-- What is sent as an integer is what the width leaves of a buffer's number. -/
theorem wireValue_congr (ha : a.isNull = false) (hb : b.isNull = false)
    (hnative : sql.native? = some (type, width))
    (h : b.getInt64.toInt % wordCount width = a.getInt64.toInt % wordCount width) :
    Parameter.wireValue ⟨b, sql⟩ = Parameter.wireValue ⟨a, sql⟩ := by
  have hbmod : b.getInt64.toInt.bmod (wordCount width) =
      a.getInt64.toInt.bmod (wordCount width) := by
    rw [Int.bmod_def, Int.bmod_def, h]
  simp only [Parameter.wireValue, ha, hb, Bool.false_eq_true, if_false]
  cases sql <;> cases hnative
  · have hint : b.getInt32 = a.getInt32 := by
      rw [← Int32.toInt_inj, getInt32, getInt32, Int64.toInt_toInt32, Int64.toInt_toInt32]
      exact hbmod
    rw [hint]
  · have hshort : b.getInt16 = a.getInt16 := by
      rw [← Int16.toInt_inj, getInt16, getInt16, Int64.toInt_toInt16, Int64.toInt_toInt16]
      exact hbmod
    rw [hshort]
  · have hlong : b.getInt64 = a.getInt64 := by
      have hwhole (v : Int64) : v.toInt.bmod (wordCount 8) = v.toInt :=
        Int64.toInt_bmod v
      rw [← Int64.toInt_inj, ← hwhole b.getInt64, hbmod, hwhole]
    rw [hlong]
  · have hbyte : b.getInt8 = a.getInt8 := by
      rw [← Int8.toInt_inj, getInt8, getInt8, Int64.toInt_toInt8, Int64.toInt_toInt8]
      exact hbmod
    rw [hbyte]

/-- A text without a zero character gives a buffer of an integer type the same number that a text
buffer, once it shows that text, sends as a parameter of that type. -/
theorem integer_text_converts_alike (hzero : Char.ofNat 0 ∉ text.toList) :
    Number.read (looksFloating text.toList) text.toList = Number.read false text.toList ∧
    (∀ a : DataBuffer, a.HoldsText text → a.Shows text) ∧
    ∀ (a b : DataBuffer) (sql : SqlType) (width : Nat), a.Shows text →
      sql.native? = some (b.type, width) → width ≤ b.capacity →
        ∃ b', b.putString text = (.success, b') ∧
          Parameter.wireValue ⟨b', sql⟩ = Parameter.wireValue ⟨a, sql⟩ := by
  refine ⟨Number.read_looksFloating text.toList, fun a ha => ha.shows hzero, ?_⟩
  intro a b sql width ha hnative hroom
  obtain ⟨b', hput, hnull, hvalue⟩ := putString_native hnative hroom text
  refine ⟨b', hput, wireValue_congr ha.isNull_eq hnull hnative ?_⟩
  rw [hvalue, ha.getInt64_eq_read]

/-- A blank, a sign, a point and an exponent, ended by a zero, against a buffer of short words. -/
theorem integer_text_converts_alike_exponent :
    ∃ b', putString ⟨.signedShort, some [9, 9, 9], none⟩ " +4.07e4" = (.success, b') ∧
      Parameter.wireValue ⟨b', .smallInt⟩ = Parameter.wireValue ⟨⟨.char,
        some [0x20, 0x2B, 0x34, 0x2E, 0x30, 0x37, 0x65, 0x34, 0, 9], some (-3)⟩, .smallInt⟩ := by
  have hholds : HoldsText
      ⟨.char, some [0x20, 0x2B, 0x34, 0x2E, 0x30, 0x37, 0x65, 0x34, 0, 9], some (-3)⟩ " +4.07e4" :=
    ⟨.inl rfl, rfl, [0, 9], by decide, .inr ⟨[9], rfl⟩⟩
  obtain ⟨-, hshows, halike⟩ := @integer_text_converts_alike " +4.07e4" (by decide)
  exact halike _ ⟨.signedShort, some [9, 9, 9], none⟩ .smallInt 2 (hshows _ hholds) rfl (by decide)

end DataBuffer

end GridClient
