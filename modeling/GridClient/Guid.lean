import GridClient.Text.Blank
import GridClient.Text.Hex
import GridClient.Text.Utf8

/-!
Globally unique identifiers: 128 bits in two halves. Their text is five hexadecimal groups, their
bytes are big-endian.
-/

namespace GridClient

/-- A 128-bit identifier as its two signed halves. -/
structure Guid where
  most : Int64
  least : Int64
  deriving DecidableEq, Repr, Inhabited

namespace Guid

/-- The identifier of a 128-bit number. -/
def ofNat (n : Nat) : Guid :=
  ⟨(UInt64.ofNat (n / UInt64.size)).toInt64, (UInt64.ofNat n).toInt64⟩

/-- The 128-bit number of an identifier. -/
def toNat (g : Guid) : Nat := g.most.toUInt64.toNat * UInt64.size + g.least.toUInt64.toNat

/-- The sixteen bytes, most significant first. -/
def toBytes (g : Guid) : Bytes :=
  BigEndian.encode 8 g.most.toUInt64.toNat ++ BigEndian.encode 8 g.least.toUInt64.toNat

/-- The identifier that sixteen bytes hold. -/
def ofBytes (bytes : Bytes) : Guid :=
  ⟨(UInt64.ofNat (BigEndian.decode (bytes.take 8))).toInt64,
    (UInt64.ofNat (BigEndian.decode (bytes.drop 8))).toInt64⟩

/-- The digits of the five groups with hyphens between them, without braces. -/
def chars (g : Guid) : List Char :=
  let most := g.most.toUInt64.toNat
  let least := g.least.toUInt64.toNat
  Hex.numeral 8 (most >>> 32) ++ '-' :: Hex.numeral 4 (most >>> 16) ++
    '-' :: Hex.numeral 4 most ++ '-' :: Hex.numeral 4 (least >>> 48) ++ '-' :: Hex.numeral 12 least

/-- The canonical text, in lower case. -/
def text (g : Guid) : String := String.ofList g.chars

/-- The text inside one pair of braces, or all of it when the pair is not there. -/
def withoutBraces (cs : List Char) : List Char :=
  match cs with
  | '\x7b' :: rest => if rest.getLast? = some '\x7d' then rest.dropLast else cs
  | _ => cs

/-- The number of a run of hexadecimal digits, which may follow a plus sign. -/
def readDigits? : List Char → Option Nat
  | [] => none
  | '+' :: [] => none
  | '+' :: cs => Hex.readFrom? 0 cs
  | cs => Hex.readFrom? 0 cs

/-- Bytes that a run of characters takes as text. -/
def groupSizes : List Nat := [8, 4, 4, 4, 12]

/-- Reads an identifier with or without blanks and braces around it. The groups are told apart by
their sizes in bytes, and only then read, as one number. -/
def read? (cs : List Char) : Option Guid :=
  let groups := Text.splitAt '-' (withoutBraces (Text.trim cs))
  if groups.map Utf8.size = groupSizes then
    (readDigits? groups.flatten).map ofNat
  else none

/-- The identifier that a text spells. -/
def parse? (text : String) : Option Guid := read? text.toList

end Guid

end GridClient
