import GridClient.Text.Blank
import GridClient.Url.Percent

/-! The pairs of names and values that a query holds as a form writes them. -/

namespace GridClient.Url.Form

/-- Reads a name or a value: a plus sign is a space, and escapes are resolved. -/
def decode (cs : List Char) : List Char :=
  percentDecode (cs.map fun c => if c = '+' then ' ' else c)

/-- Reads a pair, whose value is empty if it has none. -/
def pair (cs : List Char) : String × String :=
  let name := cs.takeWhile (· ≠ '=')
  (String.ofList (decode name), String.ofList (decode (cs.drop (name.length + 1))))

/-- Reads the pairs of a query. What is empty is no pair. -/
def pairs (cs : List Char) : List (String × String) :=
  ((Text.splitAt '&' cs).filter (!·.isEmpty)).map pair

end GridClient.Url.Form
