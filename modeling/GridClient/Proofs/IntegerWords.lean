import GridClient.Proofs.BufferReading

/-!
Whole numbers in buffers of integer types. Such a buffer takes the low bytes of a number and gives
back the one integer of its range that is congruent to it.
-/
namespace GridClient

/-- The integers of one type: how many bytes they take, and whether they have a sign. -/
structure IntegerFormat where
  bytes : Nat
  signed : Bool
  deriving DecidableEq, Repr

namespace IntegerFormat

variable (f : IntegerFormat) {i j : Int}

/-- How many integers there are in the range. -/
def count : Int := wordCount f.bytes

/-- The least integer of the range. -/
def least : Int := if f.signed then -(f.count / 2) else 0

def Contains (i : Int) : Prop := f.least ≤ i ∧ i < f.least + f.count

instance : Decidable (f.Contains i) := inferInstanceAs (Decidable (_ ∧ _))

/-- The integer of the range that is congruent to a given one. -/
def reduce (i : Int) : Int := f.least + (i - f.least) % f.count

/-- The integers that are read from buffers of the type. Those of eight bytes are read with a
sign. -/
def asRead : IntegerFormat := { f with signed := f.signed || f.bytes == 8 }

theorem count_pos : 0 < f.count := Int.natCast_pos.mpr (wordCount_pos f.bytes)

theorem contains_reduce (i : Int) : f.Contains (f.reduce i) := by
  have hpos := f.count_pos
  have hlow := Int.emod_nonneg (i - f.least) (Int.ne_of_gt hpos)
  have hhigh := Int.emod_lt_of_pos (i - f.least) hpos
  unfold Contains reduce
  omega

theorem reduce_emod (i : Int) : f.reduce i % f.count = i % f.count := by
  rw [reduce, Int.add_emod, Int.emod_emod, ← Int.add_emod, Int.add_comm, Int.sub_add_cancel]

variable {f}

theorem reduce_of_contains (h : f.Contains i) : f.reduce i = i := by
  obtain ⟨hlow, hhigh⟩ := h
  rw [reduce, Int.emod_eq_of_lt (by omega) (by omega)]
  omega

theorem reduce_congr (h : i % f.count = j % f.count) : f.reduce i = f.reduce j := by
  rw [reduce, reduce, Int.sub_emod, h, ← Int.sub_emod]

/-- With a sign, it is the balanced remainder. -/
theorem reduce_signed (h : f.bytes = 1 ∨ f.bytes = 2 ∨ f.bytes = 4 ∨ f.bytes = 8)
    (hsigned : f.signed = true) (i : Int) : f.reduce i = i.bmod (wordCount f.bytes) := by
  rw [reduce, least, if_pos hsigned, count]
  unfold Int.bmod
  rcases h with h | h | h | h <;> rw [h] <;> simp only [wordCount] <;> omega

theorem reduce_unsigned (hsigned : f.signed = false) {k : Nat} (h : k < wordCount f.bytes) :
    f.reduce k = k := by
  apply reduce_of_contains
  rw [Contains, least, hsigned, count]
  simp only [Bool.false_eq_true, if_false]
  omega

theorem count_dvd {g : IntegerFormat} (h : f.bytes ≤ g.bytes) : f.count ∣ g.count := by
  obtain ⟨more, hmore⟩ := Nat.exists_eq_add_of_le h
  have hdvd (width more : Nat) : wordCount width ∣ wordCount (width + more) := by
    induction more with
    | zero => exact Nat.dvd_refl _
    | succ more ih => exact Nat.dvd_mul_left_of_dvd ih 256
  rw [count, count, hmore]
  exact Int.natCast_dvd_natCast.mpr (hdvd f.bytes more)

end IntegerFormat

/-- The integers of a type, which only the integer types have. -/
def BindingType.integer? : BindingType → Option IntegerFormat
  | signedTinyInt => some ⟨1, true⟩
  | unsignedTinyInt => some ⟨1, false⟩
  | signedShort => some ⟨2, true⟩
  | unsignedShort => some ⟨2, false⟩
  | signedLong => some ⟨4, true⟩
  | unsignedLong => some ⟨4, false⟩
  | signedBigInt => some ⟨8, true⟩
  | unsignedBigInt => some ⟨8, false⟩
  | _ => none

theorem BindingType.bytes_of_integer? {type : BindingType} {f : IntegerFormat}
    (h : type.integer? = some f) : f.bytes = 1 ∨ f.bytes = 2 ∨ f.bytes = 4 ∨ f.bytes = 8 := by
  cases type <;> cases h <;> decide

/-! ### Words -/

theorem LittleEndian.encode_mod (width n : Nat) :
    encode width (n % wordCount width) = encode width n := by
  have hdecode := encode_decode (encode width n)
  rwa [length_encode, decode_encode] at hdecode

/-- The low bytes of a number of 64 bits are what it leaves in their count. -/
theorem low_emod (v : Int64) {f : IntegerFormat}
    (h : f.bytes = 1 ∨ f.bytes = 2 ∨ f.bytes = 4 ∨ f.bytes = 8) :
    ((v.toUInt64.toNat % wordCount f.bytes : Nat) : Int) = v.toInt % f.count := by
  have hv : v.toInt = (v.toUInt64.toNat : Int).bmod 0x10000000000000000 := by
    rw [← Int64.toInt_toBitVec, BitVec.toInt_eq_toNat_bmod]
    rfl
  have hlt := v.toUInt64.toNat_lt
  rw [hv, IntegerFormat.count]
  unfold Int.bmod
  rcases h with h | h | h | h <;> rw [h] <;> simp only [wordCount] <;> split <;> omega

namespace Number

/-- The integer type of the width of a number, which a floating-point one has none of. -/
def ownType? : Number → Option BindingType
  | int8 _ => some .signedTinyInt
  | int16 _ => some .signedShort
  | int32 _ => some .signedLong
  | int64 _ => some .signedBigInt
  | single _ | double _ => none

/-- A whole number is shown as the numeral of its value. -/
theorem text_of_whole {n : Number} (h : n.ownType?.isSome) :
    n.text = String.ofList (Numeral.ofInt n.toInt64.toInt) := by
  cases n with
  | int8 v => rw [text, toInt64, Int8.toInt_toInt64]
  | int16 v => rw [text, toInt64, Int16.toInt_toInt64]
  | int32 v => rw [text, toInt64, Int32.toInt_toInt64]
  | int64 v => rfl
  | single v => cases h
  | double v => cases h

/-- A whole number lies in the range of its own type. -/
theorem exists_integer?_of_own {n : Number} {type : BindingType} (hown : n.ownType? = some type) :
    ∃ f, type.integer? = some f ∧ f.bytes = n.toBytes.length ∧
      f.asRead.Contains n.toInt64.toInt := by
  cases n with
  | int8 v =>
    cases hown
    refine ⟨_, rfl, rfl, ?_⟩
    rw [toInt64, Int8.toInt_toInt64]
    exact ⟨v.le_toInt, v.toInt_lt⟩
  | int16 v =>
    cases hown
    refine ⟨_, rfl, rfl, ?_⟩
    rw [toInt64, Int16.toInt_toInt64]
    exact ⟨v.le_toInt, v.toInt_lt⟩
  | int32 v =>
    cases hown
    refine ⟨_, rfl, rfl, ?_⟩
    rw [toInt64, Int32.toInt_toInt64]
    exact ⟨v.le_toInt, v.toInt_lt⟩
  | int64 v =>
    cases hown
    exact ⟨_, rfl, rfl, v.le_toInt, v.toInt_lt⟩
  | single v => cases hown
  | double v => cases hown

end Number

namespace DataBuffer

variable {b : DataBuffer} {f : IntegerFormat} {word : Bytes}

theorem length_of_fixed? {width : Nat} (h : b.fixed? width = some word) : word.length = width := by
  obtain ⟨_, hsplit, rfl⟩ := Option.map_eq_some_iff.mp h
  exact (Bytes.append_of_splitFirst? hsplit).2

/-- What is read from a buffer of an integer type is the integer of the range that is read from it
whose low bytes are there. -/
theorem getNumber_of_word (hf : b.type.integer? = some f) (hword : b.fixed? f.bytes = some word) :
    ∃ n : Number, b.getNumber = some n ∧ n.ownType?.isSome ∧
      n.toInt64.toInt = f.asRead.reduce (LittleEndian.decode word) := by
  have hlt := LittleEndian.decode_lt word
  rw [length_of_fixed? hword] at hlt
  replace hword : (b.fixed? f.bytes).map LittleEndian.decode = some (LittleEndian.decode word) := by
    rw [hword, Option.map_some]
  generalize LittleEndian.decode word = k at hword hlt ⊢
  have hread {width : Nat} (number : Nat → Number) (hwidth : f.bytes = width)
      (hnumber : b.getNumber = ((b.fixed? width).map LittleEndian.decode).map number) :
      b.getNumber = some (number k) := by
    rw [hnumber, ← hwidth, hword, Option.map_some]
  cases htype : b.type with
  | signedTinyInt =>
    rw [htype] at hf
    cases hf
    refine ⟨_, hread (fun n => .int8 (UInt8.ofNat n).toInt8) rfl (by rw [getNumber, htype]), rfl,
      ?_⟩
    rw [Number.toInt64, Int8.toInt_toInt64, ← Int8.toInt_toBitVec, UInt8.toBitVec_toInt8,
      IntegerFormat.reduce_signed (.inl rfl) rfl]
    exact BitVec.toInt_ofNat k
  | signedShort =>
    rw [htype] at hf
    cases hf
    refine ⟨_, hread (fun n => .int16 (UInt16.ofNat n).toInt16) rfl (by rw [getNumber, htype]),
      rfl, ?_⟩
    rw [Number.toInt64, Int16.toInt_toInt64, ← Int16.toInt_toBitVec, UInt16.toBitVec_toInt16,
      IntegerFormat.reduce_signed (.inr (.inl rfl)) rfl]
    exact BitVec.toInt_ofNat k
  | signedLong =>
    rw [htype] at hf
    cases hf
    refine ⟨_, hread (fun n => .int32 (UInt32.ofNat n).toInt32) rfl (by rw [getNumber, htype]),
      rfl, ?_⟩
    rw [Number.toInt64, Int32.toInt_toInt64, ← Int32.toInt_toBitVec, UInt32.toBitVec_toInt32,
      IntegerFormat.reduce_signed (.inr (.inr (.inl rfl))) rfl]
    exact BitVec.toInt_ofNat k
  | signedBigInt | unsignedBigInt =>
    rw [htype] at hf
    cases hf
    refine ⟨_, hread (fun n => .int64 (UInt64.ofNat n).toInt64) rfl (by rw [getNumber, htype]),
      rfl, ?_⟩
    rw [Number.toInt64, ← Int64.toInt_toBitVec, UInt64.toBitVec_toInt64,
      IntegerFormat.reduce_signed (.inr (.inr (.inr rfl))) rfl]
    exact BitVec.toInt_ofNat k
  | unsignedTinyInt =>
    rw [htype] at hf
    cases hf
    refine ⟨_, hread (fun n => .int16 (Int16.ofNat n)) rfl (by rw [getNumber, htype]), rfl, ?_⟩
    simp only [wordCount] at hlt
    rw [Number.toInt64, Int16.toInt_toInt64, Int16.toInt_ofNat_of_lt (by omega)]
    exact (IntegerFormat.reduce_unsigned rfl hlt).symm
  | unsignedShort =>
    rw [htype] at hf
    cases hf
    refine ⟨_, hread (fun n => .int32 (Int32.ofNat n)) rfl (by rw [getNumber, htype]), rfl, ?_⟩
    simp only [wordCount] at hlt
    rw [Number.toInt64, Int32.toInt_toInt64, Int32.toInt_ofNat_of_lt (by omega)]
    exact (IntegerFormat.reduce_unsigned rfl hlt).symm
  | unsignedLong =>
    rw [htype] at hf
    cases hf
    refine ⟨_, hread (fun n => .int64 (Int64.ofNat n)) rfl (by rw [getNumber, htype]), rfl, ?_⟩
    simp only [wordCount] at hlt
    rw [Number.toInt64, Int64.toInt_ofNat_of_lt (by omega)]
    exact (IntegerFormat.reduce_unsigned rfl hlt).symm
  | _ =>
    rw [htype] at hf
    cases hf

/-- Where the low bytes of a number stand, the integer that is congruent to it is read. -/
theorem getInt64_of_low {rest : Bytes} (hf : b.type.integer? = some f) (v : Int64)
    (hslot : b.slot = some (LittleEndian.encode f.bytes v.toUInt64.toNat ++ rest)) :
    b.getInt64.toInt = f.asRead.reduce v.toInt := by
  have hword : b.fixed? f.bytes = some (LittleEndian.encode f.bytes v.toUInt64.toNat) := by
    have hfixed := fixed?_of_slot hslot
    rwa [LittleEndian.length_encode] at hfixed
  obtain ⟨n, hnumber, -, hvalue⟩ := getNumber_of_word hf hword
  rw [getInt64, hnumber, Option.map_some, Option.getD_some, hvalue, LittleEndian.decode_encode]
  apply IntegerFormat.reduce_congr
  rw [low_emod v (BindingType.bytes_of_integer? hf)]
  exact Int.emod_emod _ _

/-- A number goes into a buffer of an integer type as its low bytes. -/
theorem putNumber_integer (hf : b.type.integer? = some f) (n : Number) :
    b.putNumber n = b.putFixed (LittleEndian.encode f.bytes n.toInt64.toUInt64.toNat) := by
  unfold putNumber
  cases htype : b.type <;> rw [htype] at hf <;> cases hf <;> rfl

end DataBuffer

end GridClient
