import GridClient.Text.Blank
import GridClient.Url.Percent

/-!
The path of a URL in its one normal form: escaped, and without the segments that stand for the
directory itself or the one above.
-/

namespace GridClient.Url.Path

/-- A segment with escaped points as points. -/
def withPoints : List Char → List Char
  | '%' :: '2' :: 'e' :: cs | '%' :: '2' :: 'E' :: cs => '.' :: withPoints cs
  | c :: cs => c :: withPoints cs
  | [] => []

/-- Whether a segment stands for the directory that it is in. -/
def isHere (segment : List Char) : Bool := withPoints segment = ['.']

/-- Whether a segment stands for the directory above. -/
def isAbove (segment : List Char) : Bool := withPoints segment = ['.', '.']

/-- Whether a segment names a drive, which has nothing above it. -/
def isDrive : List Char → Bool
  | letter :: mark :: cs =>
    letter.isAlpha && (mark = ':' || mark = '|') && (cs.isEmpty || cs.head? = some '\\')
  | _ => false

/-- Leaves the latest of some segments, the latest first. The root stays. -/
def leave : List (List Char) → List (List Char)
  | [] => []
  | segment :: entered => if isDrive segment then segment :: entered else entered

/-- Enters segments one after another from some others, the latest first. A path that ends with a
way up or with the directory itself ends with a slash. -/
def resolve : List (List Char) → List (List Char) → List (List Char)
  | entered, [] => entered.reverse
  | entered, [last] =>
    if isHere last then ([] :: entered).reverse
    else if isAbove last then ([] :: leave entered).reverse
    else (last :: entered).reverse
  | entered, segment :: segments =>
    if isHere segment then resolve entered segments
    else if isAbove segment then resolve (leave entered) segments
    else resolve (segment :: entered) segments

/-- The path of some segments below the root. -/
def ofSegments (segments : List (List Char)) : List Char :=
  '/' :: ['/'].intercalate (resolve [] (segments.map (percentEncode isEscapedInPath)))

/-- The path of a text below the root. -/
def ofRelative (cs : List Char) : List Char := ofSegments (Text.splitAt '/' cs)

end GridClient.Url.Path
