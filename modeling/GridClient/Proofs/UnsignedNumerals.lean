import GridClient.Proofs.BufferRoundTrip
import GridClient.Proofs.FloatingNumerals

/-!
Unsigned numbers and their numerals. Every number goes through one of 64 bits with a sign, so a
buffer of unsigned words takes and shows the numerals of its words as far as these fit, which all
words of fewer than eight bytes do.
-/
namespace GridClient

namespace DataBuffer

variable {b : DataBuffer} {f : IntegerFormat} {slot : Bytes} {width n : Nat}

/-- A text goes into a buffer of an integer type as the number that is read from it. -/
theorem putString_integer (hf : b.type.integer? = some f) (text : String) :
    b.putString text = b.putNumber (Number.read false text.toList) := by
  unfold putString
  cases htype : b.type <;> rw [htype] at hf <;> cases hf

theorem putString_word (hf : b.type.integer? = some f) (hslot : b.slot = some slot)
    (hroom : f.bytes ≤ slot.length) (text : String) :
    ∃ b', b.putString text = (.success, b') ∧
      b'.slot = some (LittleEndian.encode f.bytes
        (Number.read false text.toList).toInt64.toUInt64.toNat ++ slot.drop f.bytes) := by
  have hlength := LittleEndian.length_encode f.bytes
    (Number.read false text.toList).toInt64.toUInt64.toNat
  have hput := putFixed_of_room hslot (hlength.symm ▸ hroom)
  rw [← putNumber_integer hf, ← putString_integer hf, hlength] at hput
  exact ⟨_, hput, rfl⟩

/-- What stands in a buffer of an integer type is shown as the numeral of the integer that is read
from it. -/
theorem getString_of_word {word : Bytes} (hf : b.type.integer? = some f)
    (hword : b.fixed? f.bytes = some word) :
    b.getString =
      String.ofList (Numeral.ofInt (f.asRead.reduce (LittleEndian.decode word))) := by
  obtain ⟨m, hnumber, hwhole, hvalue⟩ := getNumber_of_word hf hword
  have hchars : b.getChars = (b.getNumber.map fun m => m.text.toList).getD [] := by
    unfold getChars
    cases htype : b.type <;> rw [htype] at hf <;> cases hf
  rw [getString, hchars, hnumber, Option.map_some, Option.getD_some, m.text_of_whole hwhole, hvalue,
    String.toList_ofList]

/-! ### Words that fit, and words that do not -/

theorem putString_numeral_of_fits (hf : b.type.integer? = some f) (hslot : b.slot = some slot)
    (hroom : f.bytes ≤ slot.length) (hfits : n < 0x8000000000000000) :
    ∃ b', b.putString (String.ofList (Numeral.digits n)) = (.success, b') ∧
      b'.slot = some (LittleEndian.encode f.bytes n ++ slot.drop f.bytes) := by
  have hlow : (Int64.ofNat n).toUInt64.toNat = n := by
    show (Int64.ofNat n).toBitVec.toNat = n
    rw [Int64.toBitVec_ofNat', BitVec.toNat_ofNat]
    omega
  obtain ⟨b', hput, hbytes⟩ := putString_word hf hslot hroom (String.ofList (Numeral.digits n))
  rw [String.toList_ofList, Number.read_digits hfits, Number.toInt64, hlow] at hbytes
  exact ⟨b', hput, hbytes⟩

theorem putString_numeral_of_top (hf : b.type.integer? = some f) (hslot : b.slot = some slot)
    (hroom : f.bytes ≤ slot.length) (htop : 0x8000000000000000 ≤ n)
    (hn : n < 0x10000000000000000) :
    ∃ b', b.putString (String.ofList (Numeral.digits n)) = (.success, b') ∧
      b'.slot = some (LittleEndian.encode f.bytes 0x7FFFFFFFFFFFFFFF ++ slot.drop f.bytes) := by
  obtain ⟨b', hput, hbytes⟩ := putString_word hf hslot hroom (String.ofList (Numeral.digits n))
  rw [String.toList_ofList, Number.toInt64_read_digits htop hn] at hbytes
  exact ⟨b', hput, hbytes⟩

/-- A word in a buffer is shown and sent as the numeral of the integer that is read from it. -/
theorem shown_of_take (hf : b.type.integer? = some f) (hslot : b.slot = some slot)
    (hword : slot.take f.bytes = LittleEndian.encode f.bytes n) (hn : n < wordCount f.bytes) :
    b.getString = String.ofList (Numeral.ofInt (f.asRead.reduce n)) ∧
      (b.isNull = false → Parameter.wireValue ⟨b, .varchar⟩ =
        .ok (.string (String.ofList (Numeral.ofInt (f.asRead.reduce n))))) := by
  rw [← List.take_append_drop f.bytes slot, hword] at hslot
  have hfixed := fixed?_of_slot hslot
  rw [LittleEndian.length_encode] at hfixed
  have hstring := getString_of_word hf hfixed
  rw [LittleEndian.decode_encode_of_lt hn] at hstring
  refine ⟨hstring, fun hnull => ?_⟩
  rw [wireValue_varchar hnull, hstring]

end DataBuffer

namespace IntegerFormat

/-- A word that fits is read as itself. -/
theorem reduce_of_fits {width n : Nat} (hn : n < wordCount width)
    (hfits : n < 0x8000000000000000) : (asRead ⟨width, false⟩).reduce n = n := by
  by_cases hwidth : width = 8
  · subst hwidth
    apply reduce_of_contains
    show -((wordCount 8 : Int) / 2) ≤ n ∧ (n : Int) < -((wordCount 8 : Int) / 2) + wordCount 8
    simp only [wordCount]
    omega
  · have hsigned : (asRead ⟨width, false⟩).signed = false := by
      simp only [asRead, Bool.false_or, beq_eq_false_iff_ne]
      exact hwidth
    exact reduce_unsigned hsigned hn

/-- A word of eight bytes that does not fit is read as a number below zero. -/
theorem reduce_of_top {n : Nat} (htop : 0x8000000000000000 ≤ n) (hn : n < 0x10000000000000000) :
    (asRead ⟨8, false⟩).reduce n = (n : Int) - 0x10000000000000000 := by
  have hcount : (asRead ⟨8, false⟩).count = 0x10000000000000000 := by decide
  have hcongr : (n : Int) % (asRead ⟨8, false⟩).count =
      ((n : Int) - 0x10000000000000000) % (asRead ⟨8, false⟩).count := by
    rw [hcount]
    omega
  rw [reduce_congr hcongr]
  apply reduce_of_contains
  show -((wordCount 8 : Int) / 2) ≤ (n : Int) - 0x10000000000000000 ∧
    (n : Int) - 0x10000000000000000 < -((wordCount 8 : Int) / 2) + wordCount 8
  simp only [wordCount]
  omega

end IntegerFormat

/-- The numeral of a word below 2 to the 63rd is stored as that word, and the word is shown and sent
as its numeral. For the other words the greatest number of 64 bits with a sign is stored, and they
are shown and sent as numbers below zero. -/
theorem DataBuffer.unsigned_numeral_converts {b : DataBuffer} {slot : Bytes} {width n : Nat}
    (hf : b.type.integer? = some ⟨width, false⟩) (hslot : b.slot = some slot)
    (hn : n < wordCount width) :
    (n < 0x8000000000000000 →
      (width ≤ slot.length →
        ∃ b', b.putString (String.ofList (Numeral.digits n)) = (.success, b') ∧
          b'.slot = some (LittleEndian.encode width n ++ slot.drop width)) ∧
      (slot.take width = LittleEndian.encode width n →
        b.getString = String.ofList (Numeral.digits n) ∧
        (b.isNull = false → Parameter.wireValue ⟨b, .varchar⟩ =
          .ok (.string (String.ofList (Numeral.digits n)))))) ∧
    (0x8000000000000000 ≤ n →
      (width ≤ slot.length →
        ∃ b', b.putString (String.ofList (Numeral.digits n)) = (.success, b') ∧
          b'.slot = some (LittleEndian.encode width 0x7FFFFFFFFFFFFFFF ++ slot.drop width)) ∧
      (slot.take width = LittleEndian.encode width n →
        b.getString = String.ofList ('-' :: Numeral.digits (0x10000000000000000 - n)) ∧
        (b.isNull = false → Parameter.wireValue ⟨b, .varchar⟩ =
          .ok (.string (String.ofList ('-' :: Numeral.digits (0x10000000000000000 - n))))))) := by
  refine ⟨fun hfits => ⟨fun hroom => putString_numeral_of_fits hf hslot hroom hfits, ?_⟩,
    fun htop => ?_⟩
  · intro hword
    have hnumeral : Numeral.ofInt ((IntegerFormat.asRead ⟨width, false⟩).reduce n) =
        Numeral.digits n := by
      rw [IntegerFormat.reduce_of_fits hn hfits, Numeral.ofInt, if_neg (by omega),
        Int.natAbs_natCast]
    have hshown := shown_of_take hf hslot hword hn
    rwa [hnumeral] at hshown
  · obtain rfl : width = 8 := by
      rcases BindingType.bytes_of_integer? hf with rfl | rfl | rfl | rfl
      all_goals
        simp only [wordCount] at hn
        omega
    refine ⟨fun hroom => putString_numeral_of_top hf hslot hroom htop hn, fun hword => ?_⟩
    have hlt : n < 0x10000000000000000 := hn
    have habs : ((n : Int) - 0x10000000000000000).natAbs = 0x10000000000000000 - n := by omega
    have hnumeral : Numeral.ofInt ((IntegerFormat.asRead ⟨8, false⟩).reduce n) =
        '-' :: Numeral.digits (0x10000000000000000 - n) := by
      rw [IntegerFormat.reduce_of_top htop hlt, Numeral.ofInt, if_pos (by omega), habs]
    have hshown := shown_of_take hf hslot hword hn
    rwa [hnumeral] at hshown

/-- The greatest byte, and the greatest word of eight bytes, which is shown as minus one. -/
theorem DataBuffer.unsigned_numeral_converts_greatest :
    (∃ b', putString ⟨.unsignedTinyInt, some [0], none⟩ "255" = (.success, b') ∧
      b'.slot = some [255]) ∧
    getString ⟨.unsignedTinyInt, some [255], none⟩ = "255" ∧
    getString ⟨.unsignedBigInt, some (List.replicate 8 255), none⟩ = "-1" := by
  have hbyte : String.ofList (Numeral.digits 255) = "255" := by
    have hdigits : Numeral.digits 255 = ['2', '5', '5'] := by decide +kernel
    rw [hdigits]
  have hone : String.ofList ('-' :: Numeral.digits 1) = "-1" := by
    have hdigits : Numeral.digits 1 = ['1'] := by decide +kernel
    rw [hdigits]
  obtain ⟨hwritten, -⟩ := unsigned_numeral_converts (b := ⟨.unsignedTinyInt, some [0], none⟩)
    (n := 255) rfl rfl (by decide)
  obtain ⟨hread, -⟩ := unsigned_numeral_converts (b := ⟨.unsignedTinyInt, some [255], none⟩)
    (n := 255) rfl rfl (by decide)
  obtain ⟨-, htop⟩ := unsigned_numeral_converts
    (b := ⟨.unsignedBigInt, some (List.replicate 8 255), none⟩) (n := 0xFFFFFFFFFFFFFFFF) rfl rfl
    (by decide)
  obtain ⟨hput, -⟩ := hwritten (by decide)
  rw [hbyte] at hput
  refine ⟨hput (by decide), ?_, ?_⟩
  · rw [← hbyte]
    exact ((hread (by decide)).2 (by decide)).1
  · rw [← hone]
    exact ((htop (by decide)).2 (by decide)).1

/-- The numeral of the greatest word of eight bytes is not stored as that word. -/
theorem DataBuffer.greatest_word_not_stored :
    ¬ ∀ (b : DataBuffer) (slot : Bytes) (n : Nat), b.type = .unsignedBigInt → b.slot = some slot →
      slot.length = 8 → n < wordCount 8 →
        (b.putString (String.ofList (Numeral.digits n))).2.slot =
          some (LittleEndian.encode 8 n) := by
  intro hall
  have hwhole :=
    hall ⟨.unsignedBigInt, some (List.replicate 8 0), none⟩ _ 0xFFFFFFFFFFFFFFFF rfl rfl
    rfl (by decide)
  obtain ⟨b', hput, hbytes⟩ := putString_numeral_of_top (n := 0xFFFFFFFFFFFFFFFF)
    (b := ⟨.unsignedBigInt, some (List.replicate 8 0), none⟩) (f := ⟨8, false⟩) rfl rfl (by decide)
    (by decide) (by decide)
  rw [hput, hbytes] at hwhole
  exact absurd hwhole (by decide)

end GridClient
