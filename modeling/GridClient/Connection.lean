import GridClient.Diagnostics.Header
import GridClient.Network.Basic
import GridClient.Network.Channel
import GridClient.Wire.Request

/-!
A connection to a node: at most one stream, the options it was opened with, and the diagnostics of
the latest attempt to open or close it. A transport failure gives the stream up at once, so that no
later exchange can read the rest of an earlier answer.
-/

namespace GridClient

/-- Something that builds a payload in a buffer. It finds the buffer empty, and a failure may leave
a part of the payload there. -/
abbrev Encoder := Bytes → Except Error Unit × Bytes

/-- Builds the payload of a request. -/
def Request.write (r : Request) : Encoder := fun buffer =>
  match r.encode with
  | .ok payload => (.ok (), buffer ++ payload)
  | .error e => (.error e, buffer)

theorem Request.write_eq_ok_iff {r : Request} {payload : Bytes} :
    r.write [] = (.ok (), payload) ↔ r.encode = .ok payload := by
  rw [Request.write]
  cases r.encode with
  | ok built => simp
  | error e => simp

theorem Request.encode_of_write_error {r : Request} {e : Error} {outbox : Bytes}
    (h : r.write [] = (.error e, outbox)) : r.encode = .error e := by
  rw [Request.write] at h
  cases he : r.encode with
  | ok built =>
    rw [he] at h
    cases h
  | error e' =>
    rw [he] at h
    cases h
    rfl

/-- A connection, open or not. -/
structure Connection (ν : Type) where
  channel : Channel ν
  /-- The buffer that requests are built in. -/
  outbox : Bytes := []
  isOpen : Bool := false
  options : Options := {}
  diagnostics : Diagnostics := {}

namespace Connection

variable {ν : Type} [Network ν] {α : Type}

/-- A connection that has not been opened. -/
def ofNetwork (network : ν) : Connection ν := { channel := ⟨network, []⟩ }

def network (c : Connection ν) : ν := c.channel.stream

/-- The same connection over another state of the network. -/
def withNetwork (c : Connection ν) (network : ν) : Connection ν :=
  { c with channel := { c.channel with stream := network } }

/-- The socket options that a connection sets, in this order. -/
def socketOptions (o : Options) : List SocketOption :=
  [.noDelay o.tcpNoDelay, .readTimeout o.readTimeout, .writeTimeout o.writeTimeout]

/-- Opens a stream and sets its options. The connection changes only if all of that succeeds; a
stream that could not be set up is given up. -/
def openStream (o : Options) (c : Connection ν) : Except Error Outcome × Connection ν :=
  if c.isOpen then (.error .alreadyConnected, c)
  else if o.cache.isEmpty then (.error (.badConfiguration "Cache is not specified."), c)
  else match Network.connect o.host o.port c.network with
    | (.error failure, n) => (.error (.cannotConnect o.host o.port failure), c.withNetwork n)
    | (.ok (), n) =>
      match Network.configureAll (socketOptions o) n with
      | (.error failure, n) =>
        (.error (.transport failure), c.withNetwork (Network.disconnect n))
      | (.ok (), n) => (.ok .success, { c.withNetwork n with isOpen := true, options := o })

/-- Gives up the stream. -/
def drop (c : Connection ν) : Connection ν :=
  { c.withNetwork (Network.disconnect c.network) with isOpen := false }

/-- Gives up the stream of an open connection. -/
def closeStream (c : Connection ν) : Except Error Outcome × Connection ν :=
  if c.isOpen then (.ok .success, c.drop) else (.error .notConnected, c)

/-- Records how an operation of the connection itself ended. -/
def complete (origin : Options) : Except Error Outcome × Connection ν → Outcome × Connection ν
  | (result, c) =>
    let (outcome, diagnostics) := ({} : Diagnostics).complete result origin
    (outcome, { c with diagnostics })

/-- Opens the connection with some options. -/
def establish (o : Options) (c : Connection ν) : Outcome × Connection ν :=
  complete o (c.openStream o)

/-- Closes the connection. Its options stay known. -/
def release (c : Connection ν) : Outcome × Connection ν := complete c.options c.closeStream

/-- One round trip: builds a payload, sends it and decodes the answer. A payload that could not be
built is not sent; a failure of the stream closes the connection. -/
def exchange (encode : Encoder) (decode : Bytes → Except Error α) (c : Connection ν) :
    Except Error α × Connection ν :=
  if c.isOpen then
    match encode [] with
    | (.error e, outbox) => (.error e, { c with outbox })
    | (.ok (), outbox) =>
      match c.channel.send outbox with
      | (.error e, channel) => (.error e, { c with channel, outbox }.drop)
      | (.ok (), channel) =>
        match channel.receive with
        | (.error e, channel) => (.error e, { c with channel, outbox }.drop)
        | (.ok (), channel) => (decode channel.inbox, { c with channel, outbox })
  else (.error .notConnected, c)

/-- An answer that could be decoded uses up patience. -/
theorem patience_exchange_lt {encode : Encoder} {decode : Bytes → Except Error α}
    {c c' : Connection ν} {a : α} (h : c.exchange encode decode = (.ok a, c')) :
    ByteStream.patience c'.network < ByteStream.patience c.network := by
  unfold exchange at h
  split at h
  · split at h
    · simp at h
    · rename_i outbox _
      have hs := Channel.patience_send_le outbox c.channel
      split at h
      · simp at h
      · rename_i channel hsend
        rw [hsend] at hs
        have hr := Channel.patience_receive_lt channel
        split at h
        · simp at h
        · rename_i channel' hrecv
          rw [hrecv] at hr
          simp only [Prod.mk.injEq] at h
          rw [← h.2]
          exact Nat.lt_of_lt_of_le (hr rfl) hs
  · simp at h

end Connection

end GridClient
