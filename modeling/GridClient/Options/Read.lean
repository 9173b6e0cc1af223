import GridClient.Options.FromUrl
import GridClient.Url.Basic

/-! The parser of URLs that options are read with. -/

namespace GridClient

/-- The parts of a URL. A host without characters is none. -/
def Url.parts (url : Url) : UrlParts where
  scheme := url.scheme
  host := if url.host.isEmpty then none else some url.host
  port := url.port
  path := url.path
  pairs := url.queryPairs

/-- Takes a URL apart, or says what is wrong with it. -/
def Url.parse (text : String) : Except String UrlParts :=
  match Url.read text with
  | .ok url => .ok url.parts
  | .error fault => .error fault.message

/-- Reads options. -/
def Options.read (text : String) : Except Error Options := readBy Url.parse text

end GridClient
