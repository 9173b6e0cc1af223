import GridClient.Network.Stream

/-! The network as a client sees it: streams to hosts, one at a time. -/

namespace GridClient

/-- What can be set of a connected socket. Timeouts are in milliseconds. -/
inductive SocketOption where
  | noDelay (enabled : Bool)
  | readTimeout (limit : Option UInt64)
  | writeTimeout (limit : Option UInt64)
  deriving DecidableEq, Repr

/-- Whether the option asks for a timeout of no length, which no socket takes. -/
def SocketOption.isZeroTimeout : SocketOption → Bool
  | readTimeout limit | writeTimeout limit => limit == some 0
  | noDelay _ => false

/-- A network that carries one stream at a time, which its reads and writes are about. -/
class Network (ν : Type) extends ByteStream ν where
  /-- Opens a stream to a host and a port. -/
  connect : String → UInt16 → ν → Except TransportFailure Unit × ν
  /-- Sets an option of the open stream. -/
  configure : SocketOption → ν → Except TransportFailure Unit × ν
  /-- Gives the open stream up. -/
  disconnect : ν → ν

namespace Network

variable {ν : Type} [Network ν]

/-- Sets options of the open stream one after another, up to the first that is refused. -/
def configureAll : List SocketOption → ν → Except TransportFailure Unit × ν
  | [], n => (.ok (), n)
  | option :: options, n =>
    if option.isZeroTimeout then (.error .zeroTimeout, n)
    else match configure option n with
      | (.ok (), n) => configureAll options n
      | (.error failure, n) => (.error failure, n)

end Network

end GridClient
