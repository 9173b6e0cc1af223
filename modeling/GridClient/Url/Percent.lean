import GridClient.Text.Hex
import GridClient.Text.Utf8

/-!
Percent encoding: a character that a part of a URL does not hold as it is stands there as the bytes
of its UTF-8 form, each written as a percent sign and two digits.
-/

namespace GridClient.Url

/-- Whether a character is a control or outside ASCII. No part of a URL holds one. -/
def isControl (c : Char) : Bool := c < ' ' || '\x7f' ≤ c

/-- The characters that a path does not hold. -/
def isEscapedInPath (c : Char) : Bool :=
  isControl c || c ∈ [' ', '"', '#', '<', '>', '?', '\x60', '\x7b', '\x7d']

/-- The characters that a query does not hold. -/
def isEscapedInQuery (c : Char) : Bool := isControl c || c ∈ [' ', '"', '#', '<', '>']

/-- A character as escaped bytes. -/
def escape (c : Char) : List Char :=
  (Utf8.encode (String.singleton c)).flatMap fun b => '%' :: Hex.ofBytes [b]

/-- Escapes the characters that `isEscaped` tells. -/
def percentEncode (isEscaped : Char → Bool) (cs : List Char) : List Char :=
  cs.flatMap fun c => if isEscaped c then escape c else [c]

/-- The byte of two digits. -/
def escapedByte? (high low : UInt8) : Option UInt8 := do
  let high ← Hex.digitValue? (Char.ofNat high.toNat)
  let low ← Hex.digitValue? (Char.ofNat low.toNat)
  pure (UInt8.ofNat (16 * high + low))

/-- Resolves escapes. A percent sign without two digits stands for itself. -/
def percentDecodeBytes : Bytes → Bytes
  | 0x25 :: high :: low :: rest =>
    match escapedByte? high low with
    | some b => b :: percentDecodeBytes rest
    | none => 0x25 :: percentDecodeBytes (high :: low :: rest)
  | b :: rest => b :: percentDecodeBytes rest
  | [] => []

/-- Resolves escapes in a text. What is not UTF-8 then is replaced. -/
def percentDecode (cs : List Char) : List Char :=
  Utf8.decodeLossy (percentDecodeBytes (Utf8.encode (String.ofList cs)))

end GridClient.Url
