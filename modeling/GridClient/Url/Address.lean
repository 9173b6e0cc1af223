import GridClient.Text.Blank
import GridClient.Text.Hex
import GridClient.Text.Numeral

/-! Numeric addresses in the host of a URL, and the one form that each is written in. -/

namespace GridClient.Url

/-! ### Four bytes -/

namespace Ipv4

/-- Reads a run of octal digits from `value` on. -/
def readOctal? : Nat → List Char → Option Nat
  | value, [] => some value
  | value, c :: cs =>
    if '0' ≤ c ∧ c ≤ '7' then readOctal? (8 * value + (c.toNat - '0'.toNat)) cs else none

/-- Reads a part of an address: hexadecimal, octal or decimal, as its first digits tell. -/
def part? : List Char → Option Nat
  | [] => none
  | '0' :: 'x' :: cs | '0' :: 'X' :: cs => Hex.readFrom? 0 cs
  | '0' :: c :: cs => readOctal? 0 (c :: cs)
  | cs => Numeral.read? cs

/-- The parts of a host without the empty one behind a final point. -/
def parts (cs : List Char) : List (List Char) :=
  let parts := Text.splitAt '.' cs
  if 1 < parts.length ∧ parts.getLast? = some [] then parts.dropLast else parts

/-- Whether a host ends in a number, so that it has to be an address. -/
def isMeant (cs : List Char) : Bool :=
  match (parts cs).getLast? with
  | none | some [] => false
  | some last => last.all Char.isDigit || (part? last).isSome

/-- The number of an address from its parts: the last one fills all the bytes that are left. -/
def combine? : Nat → List Nat → Option Nat
  | _, [] => none
  | weight, [last] => if last < weight then some last else none
  | weight, part :: parts =>
    if part < 256 then (combine? (weight / 256) parts).map (part * (weight / 256) + ·) else none

/-- Reads an address of at most four parts. -/
def read? (cs : List Char) : Option Nat := do
  let parts := parts cs
  if 4 < parts.length then none
  else combine? UInt32.size (← parts.mapM part?)

/-- The four bytes in decimal. -/
def text (address : Nat) : List Char :=
  let byte (i : Nat) := Numeral.digits ((address >>> (8 * i)) % 256)
  byte 3 ++ '.' :: byte 2 ++ '.' :: byte 1 ++ '.' :: byte 0

end Ipv4

/-! ### Eight pieces of sixteen bits -/

namespace Ipv6

/-- The pieces read so far. A double colon holds the place of one of them, which is the last one in
front of the gap. -/
structure Pieces where
  values : List Nat := []
  /-- How many pieces stand in front of the gap. -/
  gap : Option Nat := none

namespace Pieces

def push (p : Pieces) (value : Nat) : Pieces := { p with values := p.values ++ [value] }

/-- Marks a gap, of which there is at most one. -/
def openGap? (p : Pieces) : Option Pieces :=
  if p.gap.isSome then none else some ⟨p.values ++ [0], some (p.values.length + 1)⟩

/-- All eight pieces, with zeros in the gap. -/
def close? (p : Pieces) : Option (List Nat) :=
  match p.gap with
  | none => if p.values.length = 8 then some p.values else none
  | some gap =>
    some (p.values.take gap ++ List.replicate (8 - p.values.length) 0 ++ p.values.drop gap)

end Pieces

/-- A decimal byte without leading zeros. -/
def byte? (cs : List Char) : Option Nat := do
  let n ← Numeral.read? cs
  if n < 256 ∧ Numeral.digits n = cs then some n else none

/-- Four decimal bytes as two pieces. -/
def lastPieces? (cs : List Char) : Option (Nat × Nat) :=
  match (Text.splitAt '.' cs).mapM byte? with
  | some [a, b, c, d] => some (256 * a + b, 256 * c + d)
  | _ => none

/-- The digits that a piece begins with, at most four, and their value. -/
def leadingPiece : Nat → Nat → List Char → Nat × List Char
  | 0, value, cs => (value, cs)
  | _ + 1, value, [] => (value, [])
  | width + 1, value, c :: cs =>
    match Hex.digitValue? c with
    | some d => leadingPiece width (16 * value + d) cs
    | none => (value, c :: cs)

theorem length_leadingPiece_le (width value : Nat) (cs : List Char) :
    (leadingPiece width value cs).2.length ≤ cs.length := by
  induction width generalizing value cs with
  | zero => simp [leadingPiece]
  | succ width ih =>
    cases cs with
    | nil => simp [leadingPiece]
    | cons c cs =>
      rw [leadingPiece]
      split
      · exact Nat.le_succ_of_le (ih _ cs)
      · simp

/-- Reads pieces up to the end of the address. -/
def readPieces? (p : Pieces) (cs : List Char) : Option (List Nat) :=
  if cs = [] then p.close?
  else if p.values.length = 8 then none
  else
    let piece := leadingPiece 4 0 cs
    match _h : piece.2 with
    | [] => (p.push piece.1).close?
    | '.' :: _ =>
      if piece.2.length < cs.length ∧ p.values.length ≤ 6 then do
        let (high, low) ← lastPieces? cs
        ((p.push high).push low).close?
      else none
    | ':' :: rest =>
      if piece.2.length = cs.length then do readPieces? (← p.openGap?) rest
      else if rest = [] then none
      else readPieces? (p.push piece.1) rest
    | _ :: _ => none
termination_by cs.length
decreasing_by
  all_goals
    have hl := length_leadingPiece_le 4 0 cs
    have hr := congrArg List.length _h
    simp only [List.length_cons, piece] at hr
    omega

/-- Reads an address. It begins with a piece or with a double colon. -/
def read? : List Char → Option (List Nat)
  | ':' :: ':' :: cs => readPieces? ⟨[0], some 1⟩ cs
  | ':' :: _ => none
  | cs => if cs.length < 2 then none else readPieces? {} cs

/-- The number of zeros that a list begins with. -/
def leadingZeros (pieces : List Nat) : Nat := (pieces.takeWhile (· == 0)).length

/-- Where the longest run of zeros begins, the first one of several, and how long it is. -/
def longestZeros : List Nat → Nat × Nat
  | [] => (0, 0)
  | piece :: pieces =>
    let (start, length) := longestZeros pieces
    let here := leadingZeros (piece :: pieces)
    if length ≤ here then (0, here) else (start + 1, length)

/-- Pieces in hexadecimal, with colons between them. -/
def joined (pieces : List Nat) : List Char :=
  [':'].intercalate (pieces.map fun piece => Nat.toDigits 16 piece)

/-- The address with its longest run of zeros left out, if it is longer than one piece. -/
def text (pieces : List Nat) : List Char :=
  let (start, length) := longestZeros pieces
  if length < 2 then joined pieces
  else joined (pieces.take start) ++ [':', ':'] ++ joined (pieces.drop (start + length))

end Ipv6

end GridClient.Url
