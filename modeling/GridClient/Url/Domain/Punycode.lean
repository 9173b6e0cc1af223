/-!
Punycode: a text of any characters in letters, digits and hyphens of ASCII. The characters of ASCII
stand first; then come numbers that tell for each other character, in the order of their code
points, how far it is from the one before, in rounds through the text and places in it.
-/

namespace GridClient.Url.Domain.Punycode

/-- The digit of a value below thirty-six. -/
def digit (n : Nat) : Char :=
  if n < 26 then Char.ofNat ('a'.toNat + n) else Char.ofNat ('0'.toNat + (n - 26))

/-- The value of a digit. Letters are in lowercase. -/
def digitValue? (c : Char) : Option Nat :=
  if 'a' ≤ c ∧ c ≤ 'z' then some (c.toNat - 'a'.toNat)
  else if '0' ≤ c ∧ c ≤ '9' then some (c.toNat - '0'.toNat + 26)
  else none

/-- The least value of a digit that is not the last one of its number. -/
def threshold (bias position : Nat) : Nat := min 26 (max 1 (position - bias))

theorem threshold_bounds (bias position : Nat) :
    1 ≤ threshold bias position ∧ threshold bias position ≤ 26 := by
  simp only [threshold]
  omega

/-- The bias that a small remainder of a number leads to. -/
def settleBias (bias delta : Nat) : Nat :=
  if 455 < delta then settleBias (bias + 36) (delta / 35) else bias + 36 * delta / (delta + 38)
termination_by delta

/-- The bias for the number after `delta`, when the text has come to `length` characters. -/
def nextBias (delta length : Nat) (isFirst : Bool) : Nat :=
  let delta := if isFirst then delta / 700 else delta / 2
  settleBias 0 (delta + delta / length)

/-- The bias for the first number. -/
def firstBias : Nat := 72

/-- The first code point outside ASCII. -/
def firstCode : Nat := 0x80

/-! ### Writing -/

/-- The digits of a number, from the one of least weight on. -/
def writeNumber (bias position n : Nat) : List Char :=
  let t := threshold bias position
  if n < t then [digit n]
  else digit (t + (n - t) % (36 - t)) :: writeNumber bias (position + 36) ((n - t) / (36 - t))
termination_by n
decreasing_by
  obtain ⟨hpos, hle⟩ := threshold_bounds bias position
  have := Nat.div_le_self (n - threshold bias position) (36 - threshold bias position)
  omega

/-- How far the writing has come. -/
structure Progress where
  digits : List Char := []
  /-- The distance from the character written last. -/
  delta : Nat := 0
  bias : Nat := firstBias
  /-- The number of characters written. -/
  length : Nat
  /-- Whether no number has been written. -/
  isFirst : Bool := true

/-- Passes a character in the round of a code point. -/
def Progress.pass (code : Nat) (p : Progress) (c : Char) : Progress :=
  if c.toNat < code then { p with delta := p.delta + 1 }
  else if c.toNat = code then
    { digits := p.digits ++ writeNumber p.bias 36 p.delta
      bias := nextBias p.delta (p.length + 1) p.isFirst
      length := p.length + 1
      isFirst := false }
  else p

/-- Goes through the text for code points in ascending order. -/
def writeCodes (cs : List Char) : Nat → List Nat → Progress → List Char
  | _, [], p => p.digits
  | code, next :: codes, p =>
    let p := { p with delta := p.delta + (next - code) * (p.length + 1) }
    let p := cs.foldl (Progress.pass next) p
    writeCodes cs (next + 1) codes { p with delta := p.delta + 1 }

/-- Writes a text. -/
def encode (cs : List Char) : List Char :=
  let basic := cs.filter fun c => c.toNat < firstCode
  let codes := ((cs.map Char.toNat).filter (firstCode ≤ ·)).eraseDups.mergeSort
  (if basic.isEmpty then [] else basic ++ ['-']) ++
    writeCodes cs firstCode codes { length := basic.length }

/-! ### Reading -/

/-- Reads a number and adds it to `n`. Neither it nor a weight in it may take more than thirty-two
bits. -/
def readNumber? (bias : Nat) : Nat → Nat → Nat → List Char → Option (Nat × List Char)
  | _, _, _, [] => none
  | position, weight, n, c :: cs =>
    match digitValue? c with
    | none => none
    | some d =>
      let n := n + d * weight
      let t := threshold bias position
      if UInt32.size ≤ n then none
      else if d < t then some (n, cs)
      else if UInt32.size ≤ weight * (36 - t) then none
      else readNumber? bias (position + 36) (weight * (36 - t)) n cs

theorem length_readNumber?_lt {bias position weight n m : Nat} {cs rest : List Char}
    (h : readNumber? bias position weight n cs = some (m, rest)) : rest.length < cs.length := by
  induction cs generalizing position weight n with
  | nil => simp [readNumber?] at h
  | cons c cs ih =>
    rw [readNumber?] at h
    split at h
    · simp at h
    · simp only at h
      split at h
      · simp at h
      · split at h
        · simp only [Option.some.injEq, Prod.mk.injEq] at h
          simp [h.2]
        · split at h
          · simp at h
          · exact Nat.lt_succ_of_lt (ih h)

/-- Puts the characters that numbers tell into the text at hand. The counting goes on from a code
point and a place in the text. -/
def readCodes? (code place bias : Nat) (text cs : List Char) : Option (List Char) :=
  if cs = [] then some text
  else match _h : readNumber? bias 36 1 place cs with
    | none => none
    | some (n, rest) =>
      let length := text.length + 1
      let next := code + n / length
      if next.isValidChar then
        readCodes? next (n % length + 1) (nextBias (n - place) length (place == 0))
          (text.take (n % length) ++ Char.ofNat next :: text.drop (n % length)) rest
      else none
termination_by cs.length
decreasing_by exact length_readNumber?_lt _h

/-- Reads a text. What stands before the last hyphen is in ASCII, and the hyphen needs something
before it. -/
def decode? (cs : List Char) : Option (List Char) :=
  let digits := (cs.reverse.takeWhile (· != '-')).reverse
  let basic := cs.take (cs.length - digits.length - 1)
  if digits.length < cs.length ∧ basic = [] then none
  else if basic.all fun c => c.toNat < firstCode then readCodes? firstCode 0 firstBias basic digits
  else none

end GridClient.Url.Domain.Punycode
