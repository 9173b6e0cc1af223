import GridClient.Network.Basic
import GridClient.Wire.Frame

/-!
A network of one peer that answers from a script. It waits for a whole message, whatever that says,
and goes on with the next answer; when there is none left it closes the stream. The script runs on
through all the streams that are opened to it.
-/

namespace GridClient

/-- What a peer does about a message. -/
inductive PeerAnswer where
  /-- It sends a message. -/
  | message (payload : Bytes)
  /-- It sends bytes as they are, and closes the stream unless it keeps it. -/
  | raw (bytes : Bytes) (keeps : Bool)
  deriving DecidableEq, Repr

namespace PeerAnswer

/-- The bytes that it sends. -/
def sent : PeerAnswer → Bytes
  | message payload => Frame.encode payload
  | raw bytes _ => bytes

/-- The bytes that some answers send. -/
def scriptLength : List PeerAnswer → Nat
  | [] => 0
  | answer :: answers => answer.sent.length + scriptLength answers

/-- Whether the stream is closed after it. -/
def isFinal : PeerAnswer → Bool
  | message _ => false
  | raw _ keeps => !keeps

end PeerAnswer

/-- A peer, and the stream to it. -/
structure ScriptedPeer where
  /-- The port that it listens on, if it does. -/
  port : Option UInt16
  script : List PeerAnswer
  /-- The messages that it got, the latest one first. -/
  received : List Bytes := []
  isClosed : Bool := true
  /-- The bytes on their way to the peer, not yet a whole message. -/
  outgoing : Bytes := []
  /-- The bytes on their way from the peer. -/
  incoming : Bytes := []
  deriving DecidableEq, Repr

namespace ScriptedPeer

variable (p : ScriptedPeer)

/-- The peer takes a message and does what the script says. -/
def respond (payload : Bytes) : ScriptedPeer :=
  let p := { p with received := payload :: p.received }
  match p.script with
  | [] => { p with isClosed := true }
  | answer :: script =>
    { p with script, incoming := p.incoming ++ answer.sent, isClosed := answer.isFinal }

/-- Takes at most so many of the bytes that are there. When there are none, the stream has ended. -/
def read (limit : Nat) : ReadEvent × ScriptedPeer :=
  (.data (p.incoming.take limit), { p with incoming := p.incoming.drop limit })

/-- Sends bytes, to which the peer responds as soon as they are a message. A closed peer takes no
notice. -/
def write (bytes : Bytes) : WriteEvent × ScriptedPeer :=
  (.accepted bytes.length,
    if p.isClosed then p
    else match Frame.decode? (p.outgoing ++ bytes) with
      | some (payload, rest) => { p with outgoing := rest }.respond payload
      | none => { p with outgoing := p.outgoing ++ bytes })

/-- The bytes that the peer can still send. -/
def patience : Nat := p.incoming.length + PeerAnswer.scriptLength p.script

theorem patience_respond_le (payload : Bytes) : (p.respond payload).patience ≤ p.patience := by
  simp only [respond]
  split
  · simp [patience]
  · rename_i answer script h
    simp only [patience, h, List.length_append, PeerAnswer.scriptLength]
    omega

theorem patience_read_le (limit : Nat) :
    (p.read limit).2.patience + (p.read limit).1.cost ≤ p.patience := by
  simp only [read, patience, ReadEvent.cost, List.length_take, List.length_drop]
  omega

theorem patience_write_le (bytes : Bytes) :
    (p.write bytes).2.patience + (p.write bytes).1.cost ≤ p.patience := by
  unfold write
  simp only [WriteEvent.cost, Nat.add_zero]
  split
  · exact Nat.le_refl _
  · split
    · exact patience_respond_le _ _
    · simp [patience]

instance : ByteStream ScriptedPeer where
  read limit p := p.read limit
  write bytes p := p.write bytes
  flush p := (.ok (), p)
  patience := patience
  length_read_le limit p bytes h := by
    cases h
    simp only [List.length_take]
    omega
  patience_read_le limit p := p.patience_read_le limit
  patience_write_le bytes p := p.patience_write_le bytes
  patience_flush_le _ := Nat.le_refl _

/-- Opens a stream in place of the one at hand, if the peer listens on the port. -/
def connect (port : UInt16) : Except TransportFailure Unit × ScriptedPeer :=
  if p.port = some port then
    (.ok (), { p with isClosed := false, outgoing := [], incoming := [] })
  else (.error .connectionRefused, p)

/-- Gives up the stream, and what is on its way. -/
def disconnect : ScriptedPeer := { p with isClosed := true, outgoing := [], incoming := [] }

instance : Network ScriptedPeer where
  connect _ port p := p.connect port
  configure _ p := (.ok (), p)
  disconnect := disconnect

end ScriptedPeer

end GridClient
