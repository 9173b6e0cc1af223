import GridClient.Url.Domain.Composition
import GridClient.Url.Domain.Direction
import GridClient.Url.Domain.Joining
import GridClient.Url.Domain.Punycode
import GridClient.Url.Domain.Mapping

/-!
Domains in any script, and the form in ASCII that stands for them. A domain is mapped and composed
first, so that the ways to write it come together; its labels are checked after that.
-/

namespace GridClient.Url.Domain

open Text

/-- What a label in Punycode begins with. -/
def punycodeMark : List Char := ['x', 'n', '-', '-']

/-- The most characters of a label in Punycode, its mark aside. -/
def maxPunycodeLength : Nat := 2000

/-- The most characters of a label that is not in ASCII. -/
def maxLabelLength : Nat := 1000

def isAscii (c : Char) : Bool := c.toNat < 0x80

/-- The text of a domain once all ways to write it have come together. -/
def normalize? (cs : List Char) : Option (List Char) := (mapText? cs).map compose

/-- Whether characters are in the form that all ways to write them come to. None is left out. -/
def isNormal (cs : List Char) : Bool :=
  cs.all (fun c => mapChar? c == some [c]) && compose cs == cs

/-- Reads a label behind its Punycode mark, which needs a character outside ASCII to tell. -/
def readPunycode? (cs : List Char) : Option (List Char) :=
  if cs.isEmpty ∨ maxPunycodeLength < cs.length ∨ cs.getLast? = some '-' then none
  else (Punycode.decode? cs).filter isNormal

/-- The characters that a label stands for. -/
def readLabel? (label : List Char) : Option (List Char) :=
  if punycodeMark.isPrefixOf label then readPunycode? (label.drop punycodeMark.length)
  else some label

/-- Whether a label can stand in a domain: it begins with no mark and is not too long. -/
def isLabel (label : List Char) : Bool :=
  !label.head?.any isMark && joinersMatter [] label &&
    (label.all isAscii || label.length ≤ maxLabelLength)

/-- The labels of a domain. -/
def labels? (cs : List Char) : Option (List (List Char)) := do
  let labels ← (splitAt '.' (← normalize? cs)).mapM readLabel?
  if labels.all isLabel && keepShapes labels then some labels else none

/-- A label in ASCII. -/
def writeLabel (label : List Char) : List Char :=
  if label.all isAscii then label else punycodeMark ++ Punycode.encode label

/-- A domain in ASCII. -/
def write (labels : List (List Char)) : List Char := ['.'].intercalate (labels.map writeLabel)

end GridClient.Url.Domain
