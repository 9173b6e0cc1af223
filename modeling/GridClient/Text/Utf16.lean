import GridClient.Text.Utf8

/-! UTF-16 code units: characters past the basic plane are pairs, unpaired halves read as the
replacement character. -/

namespace GridClient.Utf16

/-- The one or two units of a character. -/
def encodeChar (c : Char) : List UInt16 :=
  let n := c.toNat
  if n < 0x10000 then [UInt16.ofNat n]
  else
    [UInt16.ofNat (0xD800 + (n - 0x10000) / 0x400),
      UInt16.ofNat (0xDC00 + (n - 0x10000) % 0x400)]

/-- The units of a text. -/
def encode (text : String) : List UInt16 := text.toList.flatMap encodeChar

def isHigh (u : UInt16) : Bool := 0xD800 ≤ u && u ≤ 0xDBFF

def isLow (u : UInt16) : Bool := 0xDC00 ≤ u && u ≤ 0xDFFF

/-- The character of a high and a low unit. -/
def pair (high low : UInt16) : Char :=
  Char.ofNat (0x10000 + (high.toNat - 0xD800) * 0x400 + (low.toNat - 0xDC00))

/-- The characters of any units at all. -/
def decodeLossy : List UInt16 → List Char
  | [] => []
  | [u] => [if isHigh u || isLow u then Utf8.replacement else Char.ofNat u.toNat]
  | u :: v :: rest =>
    if isHigh u then
      if isLow v then pair u v :: decodeLossy rest
      else Utf8.replacement :: decodeLossy (v :: rest)
    else if isLow u then Utf8.replacement :: decodeLossy (v :: rest)
    else Char.ofNat u.toNat :: decodeLossy (v :: rest)

/-- Units as bytes, least significant byte first. -/
def toBytes (units : List UInt16) : Bytes :=
  units.flatMap fun u => LittleEndian.encode 2 u.toNat

/-- Byte pairs as units; an odd byte at the end is left out. -/
def ofBytes : Bytes → List UInt16
  | low :: high :: rest => UInt16.ofNat (low.toNat + 256 * high.toNat) :: ofBytes rest
  | _ => []

theorem ofBytes_toBytes (units : List UInt16) : ofBytes (toBytes units) = units := by
  induction units with
  | nil => rfl
  | cons u units ih =>
    have hu := u.toNat_lt
    have hword :
        UInt16.ofNat ((UInt8.ofNat u.toNat).toNat + 256 * (UInt8.ofNat (u.toNat / 256)).toNat)
          = u := by
      apply UInt16.toNat_inj.mp
      simp only [UInt16.toNat_ofNat', UInt8.toNat_ofNat']
      omega
    show ofBytes (UInt8.ofNat u.toNat :: UInt8.ofNat (u.toNat / 256) :: toBytes units) = u :: units
    rw [ofBytes, hword, ih]

end GridClient.Utf16
