/-! The options of a connection. -/

namespace GridClient

/-- Where a connection goes, and how it behaves. Timeouts are in milliseconds; without one, a
socket waits. -/
structure Options where
  host : String := "127.0.0.1"
  port : UInt16 := 11443
  /-- The cache that queries run against. A connection needs one. -/
  cache : String := ""
  tcpNoDelay : Bool := true
  /-- The rows asked for at a time. -/
  pageSize : Int32 := 1024
  distributedJoins : Bool := false
  readTimeout : Option UInt64 := none
  writeTimeout : Option UInt64 := none
  deriving DecidableEq, Repr

namespace Options

/-- The options of a host, a port and a cache, all else by default. -/
def forCache (host : String) (port : UInt16) (cache : String) : Options := { host, port, cache }

/-- Host and port as diagnostics show them. -/
def serverName (o : Options) : String := o.host ++ ":" ++ toString o.port.toNat

end Options

end GridClient
