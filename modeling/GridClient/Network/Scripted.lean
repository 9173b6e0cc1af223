import GridClient.Network.Stream

/-!
A stream whose every event is laid down beforehand. Reads come to the end of the stream once the
events are used up, and writes are taken whole.
-/

namespace GridClient

/-- The cost of some events. -/
def ReadEvent.costs : List ReadEvent → Nat
  | [] => 0
  | event :: events => event.cost + costs events

/-- The cost of some events. -/
def WriteEvent.costs : List WriteEvent → Nat
  | [] => 0
  | event :: events => event.cost + costs events

/-- A stream that follows a script. -/
structure ScriptedStream where
  reads : List ReadEvent := []
  writes : List WriteEvent := []
  /-- What every flush fails with, if it fails. -/
  flushFailure : Option TransportFailure := none
  /-- The bytes taken so far. -/
  written : Bytes := []
  deriving DecidableEq, Repr

namespace ScriptedStream

variable (s : ScriptedStream)

/-- Reads at most so many bytes of the next event. The others stay for the next attempt. -/
def read (limit : Nat) : ReadEvent × ScriptedStream :=
  match s.reads with
  | [] => (.data [], s)
  | .data bytes :: reads =>
    if bytes.length ≤ limit then (.data bytes, { s with reads })
    else (.data (bytes.take limit), { s with reads := .data (bytes.drop limit) :: reads })
  | event :: reads => (event, { s with reads })

/-- Takes as many of the bytes as the next event allows. -/
def write (bytes : Bytes) : WriteEvent × ScriptedStream :=
  match s.writes with
  | [] => (.accepted bytes.length, { s with written := s.written ++ bytes })
  | .accepted limit :: writes =>
    (.accepted (min limit bytes.length),
      { s with writes, written := s.written ++ bytes.take limit })
  | event :: writes => (event, { s with writes })

def flush : Except TransportFailure Unit × ScriptedStream :=
  match s.flushFailure with
  | none => (.ok (), s)
  | some failure => (.error failure, s)

/-- The cost of all events to come. -/
def patience : Nat := ReadEvent.costs s.reads + WriteEvent.costs s.writes

theorem length_read_le (limit : Nat) (bytes : Bytes) (h : (s.read limit).1 = .data bytes) :
    bytes.length ≤ limit := by
  unfold read at h
  split at h
  · cases h; simp
  · split at h
    · cases h; assumption
    · cases h; simp only [List.length_take]; omega
  · rename_i event _ hne _
    exact absurd h fun h => hne bytes h

theorem patience_read_le (limit : Nat) :
    (s.read limit).2.patience + (s.read limit).1.cost ≤ s.patience := by
  unfold read
  split
  · simp [ReadEvent.cost]
  · rename_i bytes reads h
    split <;> simp only [patience, h, ReadEvent.cost, ReadEvent.costs,
      List.length_take, List.length_drop] <;> omega
  · rename_i event reads _ h
    simp only [patience, h, ReadEvent.costs]
    omega

theorem patience_write_le (bytes : Bytes) :
    (s.write bytes).2.patience + (s.write bytes).1.cost ≤ s.patience := by
  unfold write
  split
  · simp [WriteEvent.cost, patience]
  · rename_i limit writes h
    simp only [patience, h, WriteEvent.costs, WriteEvent.cost]
    omega
  · rename_i event writes _ h
    simp only [patience, h, WriteEvent.costs]
    omega

theorem patience_flush_le : s.flush.2.patience ≤ s.patience := by
  unfold flush
  split <;> exact Nat.le_refl _

instance : ByteStream ScriptedStream where
  read limit s := s.read limit
  write bytes s := s.write bytes
  flush := flush
  patience := patience
  length_read_le limit s := s.length_read_le limit
  patience_read_le limit s := s.patience_read_le limit
  patience_write_le bytes s := s.patience_write_le bytes
  patience_flush_le := patience_flush_le

end ScriptedStream

end GridClient
