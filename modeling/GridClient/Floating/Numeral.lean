import GridClient.Floating.Basic

/-!
Reading a floating-point number from text: an optional sign, then a word for what no digits spell,
or digits with an optional point and an optional exponent. At least one digit stands beside the
point, and at least one in an exponent.
-/

namespace GridClient.Binary64

/-- The leading digits of a text, and the rest of it. -/
def spanDigits (cs : List Char) : List Char × List Char := cs.span Char.isDigit

/-- The value of a run of digits. -/
def digitsValue (cs : List Char) : Nat := (Numeral.readFrom? 0 cs).getD 0

/-- The exponent at the end of a numeral: none at all, or a letter and a signed integer. -/
def readExponent? : List Char → Option Int
  | [] => some 0
  | c :: cs => if c = 'e' ∨ c = 'E' then Numeral.readInt? cs else none

/-- A numeral without its sign, as digits times a power of ten. -/
def readDecimal? (cs : List Char) : Option (Nat × Int) :=
  let (whole, rest) := spanDigits cs
  let (places, rest) := match rest with
    | '.' :: rest => spanDigits rest
    | rest => ([], rest)
  if whole.isEmpty && places.isEmpty then none
  else
    match readExponent? rest with
    | some exponent => some (digitsValue (whole ++ places), exponent - places.length)
    | none => none

/-- The words for what digits do not spell, in any case. -/
def readWord? (negative : Bool) (cs : List Char) : Option Binary64 :=
  let word := cs.map Char.toLower
  if word = ['i', 'n', 'f'] ∨ word = ['i', 'n', 'f', 'i', 'n', 'i', 't', 'y'] then
    some ⟨UInt64.ofNat (binary64.signed negative binary64.infinity)⟩
  else if word = ['n', 'a', 'n'] then
    some ⟨UInt64.ofNat (binary64.signed negative binary64.quietNan)⟩
  else none

/-- A number without its sign. -/
def readMagnitude? (negative : Bool) (cs : List Char) : Option Binary64 :=
  match readDecimal? cs with
  | some (mantissa, power) => some (ofDecimal negative mantissa power)
  | none => readWord? negative cs

/-- The number nearest to what the text spells. -/
def read? : List Char → Option Binary64
  | '-' :: cs => readMagnitude? true cs
  | '+' :: cs => readMagnitude? false cs
  | cs => readMagnitude? false cs

end GridClient.Binary64
