import GridClient.Diagnostics.State

/-! Why an operation fails, with the text and the state that go with each cause. -/

namespace GridClient

/-- What a transport reports. -/
inductive TransportFailure where
  | brokenPipe
  | connectionReset
  | connectionRefused
  | timedOut
  | wouldBlock
  | unexpectedEnd
  | interrupted
  /-- The stream ended inside a part that has to be read whole. -/
  | cutShort
  /-- The stream took no byte of a part that has to be written whole. -/
  | nothingAccepted
  /-- A timeout of no length is none at all. -/
  | zeroTimeout
  deriving DecidableEq, Repr

namespace TransportFailure

def message : TransportFailure → String
  | brokenPipe => "broken pipe"
  | connectionReset => "connection reset"
  | connectionRefused => "connection refused"
  | timedOut => "timed out"
  | wouldBlock => "operation would block"
  | unexpectedEnd => "unexpected end of file"
  | interrupted => "operation interrupted"
  | cutShort => "failed to fill whole buffer"
  | nothingAccepted => "failed to write whole buffer"
  | zeroTimeout => "cannot set a 0 duration timeout"

end TransportFailure

/-- The cause of a failed operation. -/
inductive Error where
  /-- The node answered with a status other than success. -/
  | server (status : UInt8) (message : String)
  | transport (failure : TransportFailure)
  | cannotConnect (host : String) (port : UInt16) (failure : TransportFailure)
  | alreadyConnected
  | notConnected
  /-- The peer closed inside a message. -/
  | connectionClosed (expected received : Nat)
  | badConfiguration (message : String)
  | invalidPacket
  | unexpectedEnd
  | valueTooLong (size : Nat)
  | unsupportedTag (tag : UInt8)
  | rowExhausted
  | columnRetrieval (row : Int32) (column : UInt16)
  | queryNotPrepared
  | queryNotExecuted
  | unboundParameter (index : UInt16)
  | columnIndexOutOfRange (index : UInt16)
  | unsupportedConversion (detail : String)
  | notImplemented (detail : String)
  /-- A state that the library does not get into. -/
  | internalFault (detail : String)
  deriving DecidableEq, Repr

namespace Error

/-- The whole text of an error. -/
def message : Error → String
  | server status message => "Server Error (status " ++ toString status.toNat ++ "): " ++ message
  | transport failure => "IO error: " ++ failure.message
  | cannotConnect host port failure =>
    "Failed to establish connection with the host " ++ host ++ ":" ++ toString port.toNat ++ ": " ++
      failure.message
  | alreadyConnected => "Already connected."
  | notConnected => "Connection is not open."
  | connectionClosed expected received =>
    "Connection closed by peer after " ++ toString received ++ " of " ++ toString expected ++
      " bytes"
  | badConfiguration message => "Bad config error: " ++ message
  | invalidPacket => "Invalid packet"
  | unexpectedEnd => "Unexpected end of data"
  | valueTooLong size => "Value of " ++ toString size ++ " bytes does not fit an int32 length"
  | unsupportedTag tag => "Unsupported wire type: " ++ toString tag.toNat
  | rowExhausted => "Row has no more columns"
  | columnRetrieval _ _ => "Can not retrieve row column."
  | queryNotPrepared => "Query is not prepared."
  | queryNotExecuted => "Query was not executed."
  | unboundParameter index => "Parameter " ++ toString index.toNat ++ " is not bound."
  | columnIndexOutOfRange index => "Column index " ++ toString index.toNat ++ " is out of range."
  | unsupportedConversion detail =>
    "Conversion to the bound type is not supported: " ++ detail
  | notImplemented detail => "Not implemented: " ++ detail
  | internalFault detail => "Library bug: " ++ detail

/-- The state that a status record reports for an error. -/
def state : Error → SqlState
  | cannotConnect _ _ _ => .cannotConnect
  | alreadyConnected => .alreadyConnected
  | notConnected => .notConnected
  | unsupportedConversion _ | notImplemented _ => .optionalFeatureNotImplemented
  | _ => .generalError

/-- The text of a status record. What the node said stands there verbatim, and the host is left to
the record's own fields. -/
def recordText : Error → String
  | server _ message => message
  | cannotConnect _ _ _ => "Failed to establish connection with the host."
  | badConfiguration message => message
  | error => error.message

end Error

end GridClient
