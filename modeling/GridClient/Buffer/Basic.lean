import GridClient.Bytes
import GridClient.Types.Binding

/-!
A caller's buffer: a slot of bytes and a length cell, either of which may be missing. Writing never
changes the size of a slot.
-/

namespace GridClient

/-- How a value went into a buffer. -/
inductive Conversion where
  | success
  /-- Only a part fitted; the length cell tells the whole size. -/
  | truncated
  /-- The slot cannot hold a value of the bound type. -/
  | failure
  /-- The bound type cannot hold a value of this kind. -/
  | unsupported
  deriving DecidableEq, Repr

/-- A buffer bound by the caller. -/
structure DataBuffer where
  type : BindingType
  slot : Option Bytes
  length : Option Int
  deriving DecidableEq, Repr

namespace DataBuffer

/-- The length that stands for a null value. -/
def nullLength : Int := -1

/-- The length that stands for a text ended by its first zero. -/
def untilZeroLength : Int := -3

/-- The length of what has none. -/
def unknownLength : Int := -4

variable (b : DataBuffer)

def capacity : Nat := (b.slot.getD []).length

def isNull : Bool := b.length == some nullLength

/-- Sets the length cell, when there is one. -/
def withLength (length : Int) : DataBuffer := { b with length := b.length.map fun _ => length }

/-- Replaces the first bytes of the slot. -/
def withBytes (bytes : Bytes) : DataBuffer :=
  { b with slot := b.slot.map (Bytes.overwrite bytes) }

/-- Writes a value of fixed width, all of it or nothing. A missing slot is room enough. -/
def putFixed (bytes : Bytes) : Conversion × DataBuffer :=
  match b.slot with
  | none => (.success, b.withLength bytes.length)
  | some slot =>
    if bytes.length ≤ slot.length then (.success, (b.withLength bytes.length).withBytes bytes)
    else (.failure, b.withLength bytes.length)

/-- Writes as many bytes as fit. -/
def putRaw (bytes : Bytes) : Conversion × DataBuffer :=
  match b.slot with
  | none => (.success, b.withLength bytes.length)
  | some slot =>
    (if slot.length < bytes.length then .truncated else .success,
      (b.withLength bytes.length).withBytes bytes)

/-- Writes units of `width` bytes with a zero unit at the end, leaving out what does not fit
before it. A slot with no room for the zero unit is left alone. -/
def putTerminated (width : Nat) (units : List Bytes) : Conversion × DataBuffer :=
  let b' := b.withLength (width * units.length : Nat)
  match b.slot with
  | none => (.success, b')
  | some slot =>
    let room := slot.length / width
    let kept := units.take (room - 1) ++ [List.replicate width 0]
    (if units.length < room then .success else .truncated,
      if room = 0 then b' else b'.withBytes kept.flatten)

/-- Writes nothing, and tells by the length that there is nothing to write. -/
def putUnsupported : Conversion × DataBuffer := (.unsupported, b.withLength unknownLength)

/-- Zeroes the slot and reports a null. -/
def putNull : Conversion × DataBuffer :=
  (.success, { b with
    slot := b.slot.map fun slot => List.replicate slot.length 0
    length := b.length.map fun _ => nullLength })

end DataBuffer

end GridClient
