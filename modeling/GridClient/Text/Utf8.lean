import GridClient.Bytes

/-!
UTF-8. `encode` and `decode?` are exact; `decodeLossy` reads any bytes, with one replacement
character for each longest run that begins a character and does not complete it.
-/

namespace GridClient.Utf8

/-- The bytes of a text. -/
def encode (text : String) : Bytes := text.toUTF8.data.toList

/-- The text that the bytes spell, when they spell one. -/
def decode? (bytes : Bytes) : Option String := String.fromUTF8? ⟨bytes.toArray⟩

/-- What stands in for bytes that spell nothing. -/
def replacement : Char := Char.ofNat 0xFFFD

/-- What a lead byte promises: its own bits, the range of the byte after it, and how many
continuation bytes follow that one. -/
structure Lead where
  bits : Nat
  low : UInt8
  high : UInt8
  more : Nat

/-- The promise of a byte that opens a character of several bytes. The narrow ranges after `E0`,
`ED`, `F0` and `F4` keep out overlong forms, surrogates and numbers past the last code point. -/
def lead? (b : UInt8) : Option Lead :=
  if 0xC2 ≤ b ∧ b ≤ 0xDF then some ⟨b.toNat - 0xC0, 0x80, 0xBF, 0⟩
  else if b = 0xE0 then some ⟨0, 0xA0, 0xBF, 1⟩
  else if b = 0xED then some ⟨0xD, 0x80, 0x9F, 1⟩
  else if 0xE1 ≤ b ∧ b ≤ 0xEF then some ⟨b.toNat - 0xE0, 0x80, 0xBF, 1⟩
  else if b = 0xF0 then some ⟨0, 0x90, 0xBF, 2⟩
  else if b = 0xF4 then some ⟨4, 0x80, 0x8F, 2⟩
  else if 0xF1 ≤ b ∧ b ≤ 0xF3 then some ⟨b.toNat - 0xF0, 0x80, 0xBF, 2⟩
  else none

/-- Reads `more` continuation bytes onto `code`. Stops in front of the first byte that is none. -/
def continuation : Nat → Nat → Bytes → Option Nat × Bytes
  | 0, code, bytes => (some code, bytes)
  | _ + 1, _, [] => (none, [])
  | more + 1, code, b :: bytes =>
    if 0x80 ≤ b ∧ b ≤ 0xBF then continuation more (64 * code + (b.toNat - 0x80)) bytes
    else (none, b :: bytes)

/-- Reads what a lead byte promises. -/
def sequence (lead : Lead) : Bytes → Option Nat × Bytes
  | [] => (none, [])
  | b :: bytes =>
    if lead.low ≤ b ∧ b ≤ lead.high then
      continuation lead.more (64 * lead.bits + (b.toNat - 0x80)) bytes
    else (none, b :: bytes)

theorem length_continuation_le (more code : Nat) (bytes : Bytes) :
    (continuation more code bytes).2.length ≤ bytes.length := by
  induction more generalizing code bytes with
  | zero => simp [continuation]
  | succ more ih =>
    cases bytes with
    | nil => simp [continuation]
    | cons b bytes =>
      rw [continuation]
      split
      · exact Nat.le_succ_of_le (ih _ _)
      · simp

theorem length_sequence_le (lead : Lead) (bytes : Bytes) :
    (sequence lead bytes).2.length ≤ bytes.length := by
  cases bytes with
  | nil => simp [sequence]
  | cons b bytes =>
    rw [sequence]
    split
    · exact Nat.le_succ_of_le (length_continuation_le _ _ _)
    · simp

/-- The characters of any bytes at all. -/
def decodeLossy : Bytes → List Char
  | [] => []
  | b :: bytes =>
    if b < 0x80 then Char.ofNat b.toNat :: decodeLossy bytes
    else match lead? b with
      | none => replacement :: decodeLossy bytes
      | some lead =>
        let read := sequence lead bytes
        (read.1.map Char.ofNat).getD replacement :: decodeLossy read.2
termination_by bytes => bytes.length
decreasing_by
  all_goals simp_wf
  · have := length_sequence_le lead bytes
    omega

/-- The bytes that a run of characters takes. -/
def size : List Char → Nat
  | [] => 0
  | c :: cs => c.utf8Size + size cs

/-- Whether a byte goes on with a character that an earlier one begins. -/
def isContinuation (b : UInt8) : Bool := 0x80 ≤ b && b ≤ 0xBF

/-- Whether the bytes of a text can be parted at a place: at either end, and in front of a byte that
begins a character. -/
def isBoundary (bytes : Bytes) (place : Nat) : Bool :=
  place = 0 || match bytes[place]? with
    | some b => !isContinuation b
    | none => place = bytes.length

/-- Goes back from a place to the first boundary on the way. Nothing, if it comes below zero. -/
def boundaryBefore? (bytes : Bytes) : Nat → Option Nat
  | 0 => if isBoundary bytes 0 then some 0 else none
  | place + 1 =>
    if isBoundary bytes (place + 1) then some (place + 1) else boundaryBefore? bytes place

end GridClient.Utf8
