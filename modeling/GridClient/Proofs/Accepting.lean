import GridClient.Proofs.Writing

/-!
What stood in front of a decoder that succeeded: the converse of reading back what was written, one
lemma for each decoder, over any bytes at all.
-/
namespace GridClient

theorem Utf8.encode_of_decode? {bytes : Bytes} {text : String} (h : decode? bytes = some text) :
    encode text = bytes := by
  unfold decode? String.fromUTF8? at h
  split at h
  · cases h
    rfl
  · cases h

theorem TypeTag.code_of_ofCode? {b : UInt8} {tag : TypeTag} (h : ofCode? b = some tag) :
    tag.code = b := by
  have hb := List.find?_some h
  exact eq_of_beq hb

/-- The bytes of a tagged identifier or of the null marker. -/
def encodeOptionalGuid : Option Guid → Bytes
  | some g => TypeTag.uuid.code :: (encodeInt64 g.most ++ encodeInt64 g.least)
  | none => [TypeTag.null.code]

namespace Decoder

variable {α β : Type} {d : Decoder α} {r r' : Reader} {a : α} {b : β}

theorem pure_accepts {a' : α} : (pure a : Decoder α) r = .ok a' r' ↔ a = a' ∧ r = r' := by
  show EStateM.Result.ok a r = .ok a' r' ↔ _
  rw [EStateM.Result.ok.injEq]

theorem bind_accepts {f : α → Decoder β} :
    (d >>= f) r = .ok b r' ↔ ∃ a r₁, d r = .ok a r₁ ∧ f a r₁ = .ok b r' := by
  show EStateM.bind d f r = _ ↔ _
  rw [EStateM.bind]
  cases d r with
  | ok a r₁ =>
    refine ⟨fun h => ⟨a, r₁, rfl, h⟩, ?_⟩
    rintro ⟨_, _, ⟨⟩, h⟩
    exact h
  | error e r₁ => simp

theorem map_accepts {f : α → β} : (f <$> d) r = .ok b r' ↔ ∃ a, d r = .ok a r' ∧ f a = b := by
  show EStateM.map f d r = _ ↔ _
  rw [EStateM.map]
  cases d r with
  | ok a r₁ =>
    constructor
    · rintro ⟨⟩
      exact ⟨a, rfl, rfl⟩
    · rintro ⟨_, ⟨⟩, rfl⟩
      rfl
  | error e r₁ => simp

theorem peek_accepts : peek d r = .ok a r' ↔ r' = r ∧ ∃ r₁, d r = .ok a r₁ := by
  rw [peek]
  cases d r with
  | ok a₁ r₁ =>
    constructor
    · rintro ⟨⟩
      exact ⟨rfl, r₁, rfl⟩
    · rintro ⟨rfl, _, ⟨⟩⟩
      rfl
  | error e r₁ => simp

theorem decode_eq_ok {bytes : Bytes} :
    d.decode bytes = .ok a ↔ ∃ r', d (.ofBytes bytes) = .ok a r' := by
  rw [decode]
  cases d (.ofBytes bytes) with
  | ok a r' => simp
  | error e r' => simp

theorem rest_of_take {n : Nat} {bytes : Bytes} (h : take n r = .ok bytes r') :
    r.rest = bytes ++ r'.rest ∧ bytes.length = n := by
  unfold take at h
  cases hs : Bytes.splitFirst? n r.rest with
  | none =>
    rw [hs] at h
    cases h
  | some parts =>
    rw [hs] at h
    cases h
    exact Bytes.append_of_splitFirst? hs

theorem rest_of_word {width n : Nat} (h : word width r = .ok n r') :
    r.rest = LittleEndian.encode width n ++ r'.rest ∧ n < wordCount width := by
  obtain ⟨bytes, ht, rfl⟩ := map_accepts.mp h
  obtain ⟨hrest, rfl⟩ := rest_of_take ht
  rw [LittleEndian.encode_decode]
  exact ⟨hrest, LittleEndian.decode_lt bytes⟩

theorem rest_of_uint8 {v : UInt8} (h : uint8 r = .ok v r') : r.rest = v :: r'.rest := by
  obtain ⟨n, hw, rfl⟩ := map_accepts.mp h
  exact (rest_of_word hw).1

theorem rest_of_uint16 {v : UInt16} (h : uint16 r = .ok v r') :
    r.rest = LittleEndian.encode 2 v.toNat ++ r'.rest := by
  obtain ⟨n, hw, rfl⟩ := map_accepts.mp h
  obtain ⟨hrest, hn⟩ := rest_of_word hw
  rw [UInt16.toNat_ofNat_of_lt' hn]
  exact hrest

theorem rest_of_uint32 {v : UInt32} (h : uint32 r = .ok v r') :
    r.rest = LittleEndian.encode 4 v.toNat ++ r'.rest := by
  obtain ⟨n, hw, rfl⟩ := map_accepts.mp h
  obtain ⟨hrest, hn⟩ := rest_of_word hw
  rw [UInt32.toNat_ofNat_of_lt' hn]
  exact hrest

theorem rest_of_uint64 {v : UInt64} (h : uint64 r = .ok v r') :
    r.rest = LittleEndian.encode 8 v.toNat ++ r'.rest := by
  obtain ⟨n, hw, rfl⟩ := map_accepts.mp h
  obtain ⟨hrest, hn⟩ := rest_of_word hw
  rw [UInt64.toNat_ofNat_of_lt' hn]
  exact hrest

theorem rest_of_int32 {v : Int32} (h : int32 r = .ok v r') :
    r.rest = encodeInt32 v ++ r'.rest := by
  obtain ⟨u, hu, rfl⟩ := map_accepts.mp h
  rw [encodeInt32, UInt32.toUInt32_toInt32]
  exact rest_of_uint32 hu

theorem rest_of_int64 {v : Int64} (h : int64 r = .ok v r') :
    r.rest = encodeInt64 v ++ r'.rest := by
  obtain ⟨u, hu, rfl⟩ := map_accepts.mp h
  rw [encodeInt64, UInt64.toUInt64_toInt64]
  exact rest_of_uint64 hu

theorem rest_of_length {n : Nat} (h : length r = .ok n r') :
    r.rest = LittleEndian.encode 4 n ++ r'.rest ∧ n < 0x80000000 := by
  obtain ⟨v, r₁, hv, hcheck⟩ := bind_accepts.mp h
  by_cases hneg : v < 0
  · rw [if_pos hneg] at hcheck
    cases hcheck
  · rw [if_neg hneg] at hcheck
    cases hcheck
    have hle : 0 ≤ v := Int32.not_lt.mp hneg
    have hrest := rest_of_int32 hv
    rw [encodeInt32, Int32.toNat_toUInt32_of_le hle] at hrest
    exact ⟨hrest, v.toNatClampNeg_lt⟩

theorem length_of_times {n : Nat} {as : List α} (h : times n d r = .ok as r') :
    as.length = n := by
  induction n generalizing r as with
  | zero =>
    cases h
    rfl
  | succ n ih =>
    obtain ⟨a, r₁, _, h₁⟩ := bind_accepts.mp h
    obtain ⟨rest, r₂, htimes, hpure⟩ := bind_accepts.mp h₁
    cases hpure
    rw [List.length_cons, ih htimes]

theorem rest_of_text {value : String} (h : text r = .ok value r') :
    ∃ bytes, lengthPrefixed (Utf8.encode value) = .ok bytes ∧ r.rest = bytes ++ r'.rest := by
  obtain ⟨n, r₁, hlength, h₁⟩ := bind_accepts.mp h
  obtain ⟨bytes, r₂, htake, hdecode⟩ := bind_accepts.mp h₁
  obtain ⟨hrest, hn⟩ := rest_of_length hlength
  obtain ⟨hrest₁, rfl⟩ := rest_of_take htake
  cases hd : Utf8.decode? bytes with
  | none =>
    rw [hd] at hdecode
    cases hdecode
  | some decoded =>
    rw [hd] at hdecode
    cases hdecode
    rw [Utf8.encode_of_decode? hd]
    refine ⟨_, lengthPrefixed_eq_ok.mpr ⟨hn, rfl⟩, ?_⟩
    rw [hrest, hrest₁, List.append_assoc]

theorem eq_ok_of_atomically (h : atomically d r = .ok a r') : d r = .ok a r' := by
  unfold atomically at h
  cases hd : d r with
  | ok a₁ r₁ =>
    rw [hd] at h
    exact h
  | error e r₁ =>
    rw [hd] at h
    cases h

theorem rest_of_optionalString {value? : Option String} (h : string r = .ok value? r') :
    ∃ bytes, encodeOptionalString value? = .ok bytes ∧ r.rest = bytes ++ r'.rest := by
  obtain ⟨tag, r₁, htag, hvalue⟩ := bind_accepts.mp (eq_ok_of_atomically h)
  have hrest := rest_of_uint8 htag
  generalize hcode : TypeTag.ofCode? tag = kind at hvalue
  split at hvalue
  · cases hvalue
    rw [← TypeTag.code_of_ofCode? hcode] at hrest
    exact ⟨_, rfl, hrest⟩
  · obtain ⟨value, htext, rfl⟩ := map_accepts.mp hvalue
    obtain ⟨bytes, hbytes, hrest₁⟩ := rest_of_text htext
    refine ⟨TypeTag.string.code :: bytes, ?_, ?_⟩
    · rw [encodeOptionalString, encodeString, hbytes]
      rfl
    · rw [hrest, hrest₁, TypeTag.code_of_ofCode? hcode]
      rfl
  · cases hvalue

theorem rest_of_string {value : String} (h : string r = .ok (some value) r') :
    ∃ bytes, encodeString value = .ok bytes ∧ r.rest = bytes ++ r'.rest :=
  rest_of_optionalString h

theorem rest_of_optionalGuid {g? : Option Guid} (h : guid r = .ok g? r') :
    r.rest = encodeOptionalGuid g? ++ r'.rest := by
  obtain ⟨tag, r₁, htag, hvalue⟩ := bind_accepts.mp (eq_ok_of_atomically h)
  have hrest := rest_of_uint8 htag
  generalize hcode : TypeTag.ofCode? tag = kind at hvalue
  split at hvalue
  · cases hvalue
    rw [hrest, ← TypeTag.code_of_ofCode? hcode]
    rfl
  · obtain ⟨most, r₂, hmost, h₂⟩ := bind_accepts.mp hvalue
    obtain ⟨least, r₃, hleast, h₃⟩ := bind_accepts.mp h₂
    cases h₃
    rw [hrest, rest_of_int64 hmost, rest_of_int64 hleast, ← TypeTag.code_of_ofCode? hcode,
      ← List.append_assoc]
    rfl
  · cases hvalue

end Decoder

end GridClient
