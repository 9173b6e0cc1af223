import GridClient.Bytes
import GridClient.Error

/-! Frames: each message is its length in four bytes and then its payload. -/

namespace GridClient.Frame

/-- The bytes that a header takes. -/
def headerSize : Nat := 4

/-- The header of a payload of a given size, which has to fit a signed word. -/
def encodeHeader (size : Nat) : Except Error Bytes :=
  if size < 0x80000000 then .ok (LittleEndian.encode headerSize size) else .error .invalidPacket

/-- The payload size that four bytes announce; one with the sign bit set is none. -/
def decodeSize (header : Bytes) : Except Error Nat :=
  if LittleEndian.decode header < 0x80000000 then .ok (LittleEndian.decode header)
  else .error .invalidPacket

/-- The size that the first bytes of a message announce. -/
def readHeader (bytes : Bytes) : Except Error Nat :=
  match Bytes.splitFirst? headerSize bytes with
  | some (header, _) => decodeSize header
  | none => .error .invalidPacket

/-- A payload behind its header. -/
def encode (payload : Bytes) : Bytes := LittleEndian.encode headerSize payload.length ++ payload

/-- The payload of a whole message that some bytes begin with, and the bytes behind it. -/
def decode? (bytes : Bytes) : Option (Bytes × Bytes) := do
  let (header, rest) ← Bytes.splitFirst? headerSize bytes
  let size ← (decodeSize header).toOption
  Bytes.splitFirst? size rest

theorem header_ne_nil (size : Nat) : LittleEndian.encode headerSize size ≠ [] :=
  List.cons_ne_nil _ _

theorem encodeHeader_of_lt {size : Nat} (h : size < 0x80000000) :
    encodeHeader size = .ok (LittleEndian.encode headerSize size) :=
  if_pos h

theorem decodeSize_encode {size : Nat} (h : size < 0x80000000) :
    decodeSize (LittleEndian.encode headerSize size) = .ok size := by
  have hword : size < wordCount headerSize := by
    simp only [headerSize, wordCount]
    omega
  rw [decodeSize, LittleEndian.decode_encode_of_lt hword, if_pos h]

/-- A message is found in front of whatever follows it. -/
theorem decode?_encode_append (payload rest : Bytes) (h : payload.length < 0x80000000) :
    decode? (encode payload ++ rest) = some (payload, rest) := by
  have hs := Bytes.splitFirst?_append (LittleEndian.encode headerSize payload.length)
    (payload ++ rest)
  rw [LittleEndian.length_encode] at hs
  simp [decode?, encode, List.append_assoc, hs, decodeSize_encode h, Except.toOption,
    Bytes.splitFirst?_append]

end GridClient.Frame
