import GridClient.Error
import GridClient.Options
import GridClient.Text.Numeral

/-!
Options written as a URL: host, port and cache in their places, and all else in the query, of which
a later pair takes the place of an earlier one. Taking the URL apart is left to a parser.
-/

namespace GridClient

/-- A URL taken apart. -/
structure UrlParts where
  scheme : String
  host : Option String := none
  port : Option UInt16 := none
  path : String
  /-- The pairs of the query, in the order that they stand in. -/
  pairs : List (String × String) := []
  deriving DecidableEq, Repr

namespace Options

/-- Reads a truth value, in lowercase only. -/
def readFlag? (value : String) : Option Bool :=
  if value = "true" then some true else if value = "false" then some false else none

/-- Reads a number of thirty-two bits. -/
def readInt32? (value : String) : Option Int32 := do
  let n ← Numeral.readInt? value.toList
  if -0x80000000 ≤ n ∧ n < 0x80000000 then some (Int32.ofInt n) else none

/-- Reads a natural number of sixty-four bits. -/
def readUInt64? (value : String) : Option UInt64 := do
  let n ← Numeral.readNat? value.toList
  if n < UInt64.size then some (UInt64.ofNat n) else none

/-- The value of a key, or the error that it has none. -/
def valueOf {α : Type} (read? : String → Option α) (key value : String) : Except Error α :=
  match read? value with
  | some a => .ok a
  | none => .error (.badConfiguration ("Invalid value '" ++ value ++ "' for '" ++ key ++ "'"))

/-- Reads the value of a key into the options. -/
def set (o : Options) (key value : String) : Except Error Options :=
  match key with
  | "page_size" => do
    let pageSize ← valueOf readInt32? key value
    if pageSize ≤ 0 then
      throw (.badConfiguration ("page_size must be positive, got " ++ toString pageSize.toInt))
    pure { o with pageSize }
  | "distributed_joins" => do
    pure { o with distributedJoins := ← valueOf readFlag? key value }
  | "tcp_nodelay" => do
    pure { o with tcpNoDelay := ← valueOf readFlag? key value }
  | "read_timeout_ms" => do
    pure { o with readTimeout := some (← valueOf readUInt64? key value) }
  | "write_timeout_ms" => do
    pure { o with writeTimeout := some (← valueOf readUInt64? key value) }
  | _ => .error (.badConfiguration ("Unknown connection option '" ++ key ++ "'"))

/-- The options that the parts of a URL in front of the query give. What it leaves out stays by
default. -/
def ofParts (url : UrlParts) : Options :=
  let byDefault : Options := {}
  { host := url.host.getD byDefault.host
    port := url.port.getD byDefault.port
    cache := match url.path.toList with
      | '/' :: cache => String.ofList cache
      | _ => "" }

/-- Reads the pairs of a query into the options, one after the other. -/
def setAll (o : Options) (pairs : List (String × String)) : Except Error Options :=
  pairs.foldlM (fun o pair => o.set pair.1 pair.2) o

/-- Reads options. The parser takes the text apart, or tells what is wrong with it. -/
def readBy (parse : String → Except String UrlParts) (text : String) : Except Error Options :=
  match parse text with
  | .error fault => .error (.badConfiguration ("Failed to parse Ignite URL: " ++ fault))
  | .ok url =>
    if url.scheme = "ignite" then (ofParts url).setAll url.pairs
    else
      .error (.badConfiguration
        ("Invalid URL scheme '" ++ url.scheme ++ "', expected 'ignite'"))

end Options

end GridClient
