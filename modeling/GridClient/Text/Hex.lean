import GridClient.Bytes

/-! Hexadecimal numerals: digits in either case, fixed-width numbers, and bytes as digit pairs. -/

namespace GridClient.Hex

/-- The lowercase digit of a value below sixteen. -/
def lowerDigit (n : Nat) : Char :=
  if n < 10 then Char.ofNat ('0'.toNat + n) else Char.ofNat ('a'.toNat + (n - 10))

/-- The uppercase digit of a value below sixteen. -/
def upperDigit (n : Nat) : Char :=
  if n < 10 then Char.ofNat ('0'.toNat + n) else Char.ofNat ('A'.toNat + (n - 10))

/-- The value of a digit of either case. -/
def digitValue? (c : Char) : Option Nat :=
  if '0' ≤ c ∧ c ≤ '9' then some (c.toNat - '0'.toNat)
  else if 'a' ≤ c ∧ c ≤ 'f' then some (c.toNat - 'a'.toNat + 10)
  else if 'A' ≤ c ∧ c ≤ 'F' then some (c.toNat - 'A'.toNat + 10)
  else none

/-- The low `width` hexadecimal digits of `n`, most significant first. -/
def numeral : Nat → Nat → List Char
  | 0, _ => []
  | width + 1, n => numeral width (n / 16) ++ [lowerDigit (n % 16)]

/-- The number that a run of digits continues from `value`, refusing anything but digits. -/
def readFrom? : Nat → List Char → Option Nat
  | value, [] => some value
  | value, c :: cs =>
    match digitValue? c with
    | some d => readFrom? (16 * value + d) cs
    | none => none

/-- The digits of a byte string, two uppercase digits a byte. -/
def ofBytes (bytes : Bytes) : List Char :=
  bytes.flatMap fun b => [upperDigit (b.toNat / 16), upperDigit (b.toNat % 16)]

@[simp] theorem length_numeral (width n : Nat) : (numeral width n).length = width := by
  induction width generalizing n with
  | zero => rfl
  | succ width ih => simp [numeral, ih]

end GridClient.Hex
