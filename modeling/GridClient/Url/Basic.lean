import GridClient.Url.Form
import GridClient.Url.Host
import GridClient.Url.Path

/-!
URLs, read the way browsers do. Of the user and the fragment no more is kept than that they may
stand there. This and the modules of `Url` are the parser that a program runs with: what holds of
options read off a URL holds whatever the parser is (`Options.readBy`).
-/

namespace GridClient

/-- A URL. -/
structure Url where
  scheme : String
  /-- Empty if there is none. -/
  host : String := ""
  /-- Absent if it is the one that goes without saying for the scheme. -/
  port : Option UInt16 := none
  path : String
  query : Option String := none
  deriving DecidableEq, Repr

namespace Url

/-- How a scheme reads what follows it. -/
inductive SchemeKind where
  | file
  /-- A scheme of the web, which has a host in any case. -/
  | web
  | other
  deriving DecidableEq, Repr

def SchemeKind.ofScheme (scheme : String) : SchemeKind :=
  if scheme = "file" then file
  else if scheme ∈ ["http", "https", "ws", "wss", "ftp"] then web
  else other

/-- The port that goes without saying for a scheme. -/
def defaultPort? (scheme : String) : Option UInt16 :=
  if scheme ∈ ["http", "ws"] then some 80
  else if scheme ∈ ["https", "wss"] then some 443
  else if scheme = "ftp" then some 21
  else none

/-- Whether a character is a slash in URLs of a kind. A backslash is one too, except where a host
is opaque. -/
def SchemeKind.isSlash (kind : SchemeKind) (c : Char) : Bool :=
  c = '/' || (kind ≠ other && c = '\\')

/-- Whether a character ends the authority. -/
def SchemeKind.endsAuthority (kind : SchemeKind) (c : Char) : Bool :=
  kind.isSlash c || c = '?' || c = '#'

/-- Whether a character ends the path. -/
def endsPath (c : Char) : Bool := c = '?' || c = '#'

/-- Splits a text in front of the first character that `ends` tells. -/
def splitBefore (ends : Char → Bool) (cs : List Char) : List Char × List Char :=
  cs.span (!ends ·)

/-- The text without the controls and blanks around it, and without tabs and line ends. -/
def clean (cs : List Char) : List Char :=
  let outer := ((cs.dropWhile (· ≤ ' ')).reverse.dropWhile (· ≤ ' ')).reverse
  outer.filter (· ∉ ['\t', '\n', '\r'])

/-- Splits the scheme off, in lowercase. -/
def splitScheme? (cs : List Char) : Option (String × List Char) :=
  match splitBefore (· = ':') cs with
  | (letter :: scheme, ':' :: rest) =>
    if letter.isAlpha ∧ scheme.all (fun c => c.isAlphanum || c ∈ ['+', '-', '.']) then
      some (String.ofList ((letter :: scheme).map Char.toLower), rest)
    else none
  | _ => none

/-! ### The authority -/

/-- Splits an authority at its last at-sign: the user, if there is one, and the rest. -/
def splitUser (cs : List Char) : Option (List Char) × List Char :=
  match splitBefore (· = '@') cs.reverse with
  | (rest, _ :: user) => (some user.reverse, rest.reverse)
  | (rest, []) => (none, rest.reverse)

/-- Splits a text in front of the first colon outside brackets. -/
def splitHost (inBrackets : Bool) : List Char → List Char × List Char
  | [] => ([], [])
  | c :: cs =>
    if c = ':' ∧ !inBrackets then ([], c :: cs)
    else
      let (host, rest) := splitHost (c = '[' || (inBrackets && c ≠ ']')) cs
      (c :: host, rest)

/-- Reads a port, which may be empty. -/
def readPort (cs : List Char) : Except Fault (Option UInt16) :=
  if cs.isEmpty then .ok none
  else match Numeral.read? cs with
    | some n => if n < UInt16.size then .ok (some (UInt16.ofNat n)) else .error .invalidPort
    | none => .error .invalidPort

/-- What an authority gives: host, port, and what of it belongs to the path already. -/
structure Authority where
  host : List Char
  port : Option UInt16
  rest : List Char

/-- Reads an authority. A port, a user or an at-sign in front of a path calls for a host. -/
def readAuthority (scheme : String) (cs : List Char) (isWhole : Bool) :
    Except Fault Authority := do
  let kind := SchemeKind.ofScheme scheme
  let (user, rest) := splitUser cs
  if user = some [] ∧ rest = [] ∧ !isWhole then throw .emptyHost
  let (hostText, rest) := splitHost false rest
  if kind = .web ∧ hostText = [] then throw .emptyHost
  let host ← if kind = .other then Host.verbatim hostText else Host.domain hostText
  if host = [] ∧ rest ≠ [] then throw .emptyHost
  let (portText, rest) := splitBefore (· = '\\') (rest.drop 1)
  let port ← readPort portText
  if host = [] ∧ user.any (fun u => u ≠ [] ∧ u ≠ [':']) then throw .emptyHost
  pure ⟨host, if port = defaultPort? scheme then none else port, rest⟩

/-! ### The path and what follows it -/

/-- Reads a path below the root. -/
def readPath (kind : SchemeKind) (cs : List Char) : List Char :=
  Path.ofRelative (cs.map fun c => if kind.isSlash c then '/' else c)

/-- Reads a path behind an authority. Only with an opaque host may there be none. -/
def readPathAfterHost (kind : SchemeKind) : List Char → List Char
  | [] => if kind = .other then [] else readPath kind []
  | c :: cs => if kind.isSlash c then readPath kind cs else readPath kind (c :: cs)

/-- Splits a path from the query and the fragment behind it. -/
def splitPath (cs : List Char) : List Char × Option String :=
  match splitBefore endsPath cs with
  | (path, '?' :: rest) =>
    let query := (splitBefore (· = '#') rest).1
    (path, some (String.ofList (percentEncode isEscapedInQuery query)))
  | (path, _) => (path, none)

/-- Reads what follows the slashes in front of an authority. -/
def afterSlashes (scheme : String) (cs : List Char) : Except Fault Url := do
  let kind := SchemeKind.ofScheme scheme
  let (authority, rest) := splitBefore kind.endsAuthority cs
  let authority ← readAuthority scheme authority rest.isEmpty
  let (path, query) := splitPath (authority.rest ++ rest)
  pure
    { scheme
      host := String.ofList authority.host
      port := authority.port
      path := String.ofList (readPathAfterHost kind path)
      query }

/-- Reads a URL that has no authority. -/
def withoutHost (scheme : String) (readPath : List Char → List Char) (cs : List Char) : Url :=
  let (path, query) := splitPath cs
  { scheme, path := String.ofList (readPath path), query }

/-- Reads the host and the path of a file. A drive is no host, and the host of this machine need
not be named. -/
def afterFileSlashes (cs : List Char) : Except Fault Url := do
  let (hostText, rest) := splitBefore SchemeKind.file.endsAuthority cs
  if hostText = [] ∨ (hostText.length = 2 ∧ Path.isDrive hostText) then
    pure (withoutHost "file" (readPathAfterHost .file) cs)
  else
    let host ← Host.domain hostText
    let url := withoutHost "file" (readPathAfterHost .file) rest
    pure { url with host := if host = "localhost".toList then "" else String.ofList host }

/-- Reads a URL of a file. -/
def ofFile (cs : List Char) : Except Fault Url :=
  match cs.span SchemeKind.file.isSlash with
  | (_ :: _ :: slashes, rest) => afterFileSlashes (slashes ++ rest)
  | (_, rest) => .ok (withoutHost "file" (readPath .file) rest)

/-- Reads a URL. A path that does not begin at the root says nothing about a place. -/
def read (text : String) : Except Fault Url :=
  match splitScheme? (clean text.toList) with
  | none => .error .relative
  | some (scheme, rest) =>
    match SchemeKind.ofScheme scheme with
    | .file => ofFile rest
    | .web => afterSlashes scheme (rest.dropWhile SchemeKind.web.isSlash)
    | .other =>
      match rest with
      | '/' :: '/' :: rest => afterSlashes scheme rest
      | '/' :: rest => .ok (withoutHost scheme (readPath .other) rest)
      | rest => .ok (withoutHost scheme (percentEncode isControl) rest)

/-- The pairs of the query. -/
def queryPairs (url : Url) : List (String × String) :=
  match url.query with
  | some query => Form.pairs query.toList
  | none => []

end Url

end GridClient
