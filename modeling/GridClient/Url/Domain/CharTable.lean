import GridClient.Text.Blank
import GridClient.Text.Hex

/-!
Tables of characters by code point, for the properties that Unicode 17 gives them. A table is
written in lines of runs in ascending order, with code points in hexadecimal, and is searched by
halves.
-/

namespace GridClient.Url.Domain

open Text

/-- Consecutive code points, and what is known of them. -/
structure Run (α : Type) where
  first : Nat
  last : Nat
  value : α

/-- Runs in ascending order, none of which overlap. -/
abbrev CharTable (α : Type) := Array (Run α)

namespace CharTable

variable {α : Type}

/-- Looks through `count` runs from `start` on. -/
def search (table : CharTable α) (code start count : Nat) : Option (Run α) :=
  if count ≤ 1 then
    if count = 0 then none
    else table[start]?.filter fun run => run.first ≤ code && code ≤ run.last
  else
    let half := count / 2
    if table[start + half]?.any fun run => run.first ≤ code then
      search table code (start + half) (count - half)
    else search table code start half
termination_by count

/-- The run that holds a character. -/
def find? (table : CharTable α) (c : Char) : Option (Run α) :=
  table.search c.toNat 0 table.size

/-! ### Reading -/

/-- Reads a code point. -/
def readCode? (cs : List Char) : Option Nat := if cs.isEmpty then none else Hex.readFrom? 0 cs

/-- Reads the ends of a run, `300-34E`. A code point alone is both. -/
def readEnds? (cs : List Char) : Option (Nat × Nat) :=
  match splitAt '-' cs with
  | [code] => do
    let code ← readCode? code
    pure (code, code)
  | [first, last] => do
    pure (← readCode? first, ← readCode? last)
  | _ => none

/-- Reads a text, `41+300`. No code points are the empty text. -/
def readText? (cs : List Char) : Option (List Char) :=
  if cs.isEmpty then some []
  else (splitAt '+' cs).mapM fun code => (readCode? code).map Char.ofNat

/-- Reads a run that tells a text of each of its characters, `C0=41+300,41+301`. -/
def readTexts? (cs : List Char) : Option (Run (List (List Char))) :=
  match splitAt '=' cs with
  | [first, texts] => do
    let first ← readCode? first
    let texts ← (splitAt ',' texts).mapM readText?
    pure ⟨first, first + (texts.length - 1), texts⟩
  | _ => none

/-- The table whose runs stand in lines, apart from each other by spaces. -/
def ofLines (read? : List Char → Option (Run α)) (lines : List String) : CharTable α :=
  (lines.flatMap fun line => (splitAt ' ' line.toList).filterMap read?).toArray

end CharTable

/-- A set of characters. -/
abbrev CharSet := CharTable Unit

namespace CharSet

/-- The set of the characters in some runs. -/
def ofLines (lines : List String) : CharSet :=
  CharTable.ofLines (fun cs => (CharTable.readEnds? cs).map fun ends => ⟨ends.1, ends.2, ()⟩) lines

def contains (set : CharSet) (c : Char) : Bool := (set.find? c).isSome

end CharSet

end GridClient.Url.Domain
