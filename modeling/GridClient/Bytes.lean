/-!
Byte strings and the ways of cutting and weighing them. A split succeeds exactly when enough
bytes are there, and its two parts make up the whole.
-/

namespace GridClient

/-- A finite run of octets. -/
abbrev Bytes := List UInt8

namespace Bytes

variable {n : Nat} {bytes head rest : Bytes}

/-- The first `n` bytes and what follows them, or nothing when fewer than `n` are there. -/
def splitFirst? : Nat → Bytes → Option (Bytes × Bytes)
  | 0, bytes => some ([], bytes)
  | _ + 1, [] => none
  | n + 1, b :: bytes =>
    match splitFirst? n bytes with
    | some (head, rest) => some (b :: head, rest)
    | none => none

theorem splitFirst?_append (head rest : Bytes) :
    splitFirst? head.length (head ++ rest) = some (head, rest) := by
  induction head with
  | nil => rfl
  | cons b head ih => simp [splitFirst?, ih]

theorem append_of_splitFirst? (h : splitFirst? n bytes = some (head, rest)) :
    bytes = head ++ rest ∧ head.length = n := by
  induction n generalizing bytes head with
  | zero => simp_all [splitFirst?]
  | succ n ih =>
    cases bytes with
    | nil => simp [splitFirst?] at h
    | cons b bytes =>
      cases hs : splitFirst? n bytes with
      | none => simp [splitFirst?, hs] at h
      | some p =>
        obtain ⟨h1, h2⟩ : b :: p.1 = head ∧ p.2 = rest := by simpa [splitFirst?, hs] using h
        obtain ⟨ih1, ih2⟩ : bytes = p.1 ++ rest ∧ p.1.length = n := ih (by rw [hs, ← h2])
        subst h1
        simp [ih1, ih2]

/-- The first `bytes.length` cells of `slot` replaced by `bytes`; cells past the slot's end are
dropped. -/
def overwrite : Bytes → Bytes → Bytes
  | [], slot => slot
  | _ :: _, [] => []
  | b :: bytes, _ :: slot => b :: overwrite bytes slot

theorem length_overwrite (bytes slot : Bytes) : (overwrite bytes slot).length = slot.length := by
  induction bytes generalizing slot with
  | nil => rfl
  | cons b bytes ih => cases slot <;> simp [overwrite, ih]

end Bytes

/-! ### Words, least significant byte first -/

/-- How many values a word of some bytes has. -/
def wordCount : Nat → Nat
  | 0 => 1
  | width + 1 => 256 * wordCount width

theorem wordCount_pos (width : Nat) : 0 < wordCount width := by
  induction width with
  | zero => exact Nat.one_pos
  | succ width ih => exact Nat.mul_pos (by decide) ih

theorem wordCount_mono {width wider : Nat} (h : width ≤ wider) :
    wordCount width ≤ wordCount wider := by
  induction h with
  | refl => exact Nat.le_refl _
  | step h ih => exact Nat.le_trans ih (Nat.le_mul_of_pos_left _ (by decide))

namespace LittleEndian

/-- The `width` low-order bytes of `n`, least significant first. -/
def encode : Nat → Nat → Bytes
  | 0, _ => []
  | width + 1, n => UInt8.ofNat n :: encode width (n / 256)

/-- The number that a run of bytes denotes. -/
def decode : Bytes → Nat
  | [] => 0
  | b :: bytes => b.toNat + 256 * decode bytes

@[simp] theorem length_encode (width n : Nat) : (encode width n).length = width := by
  induction width generalizing n with
  | zero => rfl
  | succ width ih => simp [encode, ih]

theorem decode_encode (width n : Nat) : decode (encode width n) = n % wordCount width := by
  induction width generalizing n with
  | zero => simp [encode, decode, wordCount, Nat.mod_one]
  | succ width ih =>
    simp only [encode, decode, ih, wordCount, UInt8.toNat_ofNat']
    exact Nat.mod_mul.symm

theorem decode_encode_of_lt {width n : Nat} (h : n < wordCount width) :
    decode (encode width n) = n := by
  rw [decode_encode, Nat.mod_eq_of_lt h]

theorem decode_lt (bytes : Bytes) : decode bytes < wordCount bytes.length := by
  induction bytes with
  | nil => simp [decode, wordCount]
  | cons b bytes ih =>
    have hb := b.toNat_lt
    simp only [decode, List.length_cons, wordCount]
    omega

theorem encode_decode (bytes : Bytes) : encode bytes.length (decode bytes) = bytes := by
  induction bytes with
  | nil => rfl
  | cons b bytes ih =>
    have hb := b.toNat_lt
    have hdiv : (b.toNat + 256 * decode bytes) / 256 = decode bytes := by omega
    have hlow : UInt8.ofNat (b.toNat + 256 * decode bytes) = b := by
      apply UInt8.toNat_inj.mp
      rw [UInt8.toNat_ofNat']
      omega
    simp only [List.length_cons, encode, decode, hdiv, hlow, ih]

theorem decode_append (low high : Bytes) :
    decode (low ++ high) = decode low + wordCount low.length * decode high := by
  induction low with
  | nil => simp [decode, wordCount]
  | cons b low ih =>
    simp only [List.cons_append, decode, ih, List.length_cons, wordCount]
    rw [Nat.mul_add, Nat.mul_assoc, Nat.add_assoc]

end LittleEndian

/-! ### Words, most significant byte first -/

namespace BigEndian

/-- The `width` low-order bytes of `n`, most significant first. -/
def encode (width n : Nat) : Bytes := (LittleEndian.encode width n).reverse

/-- The number that a run of bytes denotes. -/
def decode (bytes : Bytes) : Nat := LittleEndian.decode bytes.reverse

theorem decode_encode (width n : Nat) : decode (encode width n) = n % wordCount width := by
  simp [decode, encode, LittleEndian.decode_encode]

theorem length_encode (width n : Nat) : (encode width n).length = width := by
  rw [encode, List.length_reverse, LittleEndian.length_encode]

theorem encode_decode (bytes : Bytes) : encode bytes.length (decode bytes) = bytes := by
  have h := LittleEndian.encode_decode bytes.reverse
  rw [List.length_reverse] at h
  rw [encode, decode, h, List.reverse_reverse]

theorem decode_cons (b : UInt8) (bytes : Bytes) :
    decode (b :: bytes) = b.toNat * wordCount bytes.length + decode bytes := by
  rw [decode, List.reverse_cons, LittleEndian.decode_append, List.length_reverse, decode,
    LittleEndian.decode, LittleEndian.decode, Nat.mul_zero, Nat.add_zero, Nat.mul_comm,
    Nat.add_comm]

theorem decode_lt (bytes : Bytes) : decode bytes < wordCount bytes.length := by
  have h := LittleEndian.decode_lt bytes.reverse
  rwa [List.length_reverse] at h

theorem decode_eq_zero_iff (bytes : Bytes) : decode bytes = 0 ↔ bytes.all (· == 0) = true := by
  induction bytes with
  | nil => exact iff_of_true rfl rfl
  | cons b bytes ih =>
    have hcount := wordCount_pos bytes.length
    rw [decode_cons, List.all_cons, Bool.and_eq_true, ← ih, beq_iff_eq, ← UInt8.toNat_inj,
      UInt8.toNat_zero, Nat.add_eq_zero_iff, Nat.mul_eq_zero]
    omega

end BigEndian

end GridClient
