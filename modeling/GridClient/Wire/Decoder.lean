import GridClient.Bytes
import GridClient.Error
import GridClient.Floating.Basic

/-!
Decoders over a byte string with a position. A decoder that fails may have moved; the words and
the byte runs here do not move unless they succeed, and `atomically` and `peek` put a reader back.
-/

namespace GridClient

/-- A byte string read up to a position: how far, and what is left. -/
structure Reader where
  position : Nat
  rest : Bytes
  deriving DecidableEq, Repr

namespace Reader

/-- A reader in front of all the bytes. -/
def ofBytes (bytes : Bytes) : Reader := ⟨0, bytes⟩

/-- A reader at a position, or at the end of the bytes when they end before it. -/
def startAt (bytes : Bytes) (position : Nat) : Reader :=
  ⟨min position bytes.length, bytes.drop position⟩

def isEmpty (r : Reader) : Bool := r.rest.isEmpty

/-- The reader after a speculative read: where it got, if that is to be kept, or where it was. -/
def settle (saved reached : Reader) (committed : Bool) : Reader :=
  if committed then reached else saved

end Reader

/-- A computation that reads values off a reader and may fail. -/
abbrev Decoder (α : Type) := EStateM Error Reader α

namespace Decoder

variable {α : Type}

/-- Runs a decoder on all the bytes. -/
def decode (d : Decoder α) (bytes : Bytes) : Except Error α :=
  match d (.ofBytes bytes) with
  | .ok a _ => .ok a
  | .error e _ => .error e

/-- The same decoder, back where it started after a failure. -/
def atomically (d : Decoder α) : Decoder α := fun r =>
  match d r with
  | .ok a r' => .ok a r'
  | .error e _ => .error e r

/-- The same decoder, back where it started in any case. -/
def peek (d : Decoder α) : Decoder α := fun r =>
  match d r with
  | .ok a _ => .ok a r
  | .error e _ => .error e r

/-- The same decoder with a failure turned into nothing. -/
def optional (d : Decoder α) : Decoder (Option α) := fun r =>
  match d r with
  | .ok a r' => .ok (some a) r'
  | .error _ r' => .ok none r'

/-- Runs a decoder `n` times. -/
def times : Nat → Decoder α → Decoder (List α)
  | 0, _ => pure []
  | n + 1, d => do
    let a ← d
    let as ← times n d
    pure (a :: as)

/-- The next `n` bytes. -/
def take (n : Nat) : Decoder Bytes := fun r =>
  match Bytes.splitFirst? n r.rest with
  | some (head, rest) => .ok head ⟨r.position + n, rest⟩
  | none => .error .unexpectedEnd r

/-- What is left, without moving. -/
def remaining : Decoder Bytes := fun r => .ok r.rest r

/-- The number in the next `width` bytes. -/
def word (width : Nat) : Decoder Nat := LittleEndian.decode <$> take width

def uint8 : Decoder UInt8 := UInt8.ofNat <$> word 1

def int8 : Decoder Int8 := UInt8.toInt8 <$> uint8

/-- Any byte but zero is true. -/
def bool : Decoder Bool := (· != 0) <$> uint8

def uint16 : Decoder UInt16 := UInt16.ofNat <$> word 2

def int16 : Decoder Int16 := UInt16.toInt16 <$> uint16

def uint32 : Decoder UInt32 := UInt32.ofNat <$> word 4

def int32 : Decoder Int32 := UInt32.toInt32 <$> uint32

def uint64 : Decoder UInt64 := UInt64.ofNat <$> word 8

def int64 : Decoder Int64 := UInt64.toInt64 <$> uint64

def binary32 : Decoder Binary32 := Binary32.mk <$> uint32

def binary64 : Decoder Binary64 := Binary64.mk <$> uint64

/-- A length or a count: a signed word that must not be negative. -/
def length : Decoder Nat := do
  let n ← int32
  if n < 0 then throw .invalidPacket else pure n.toInt.toNat

end Decoder

end GridClient
