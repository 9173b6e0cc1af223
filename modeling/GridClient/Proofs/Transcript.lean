import GridClient.Connection
import GridClient.Proofs.Reading
import GridClient.Proofs.StreamEvents

/-!
A record of every byte that passes over a stream. Keeping it changes nothing about what is read and
written, so whatever the record shows is true of the stream that is recorded.
-/
namespace GridClient

/-- A byte that passed over a stream. -/
inductive Transfer where
  | sent (byte : UInt8)
  | got (byte : UInt8)
  deriving DecidableEq, Repr

/-- The bytes that an attempt to write took. -/
def WriteEvent.taken (bytes : Bytes) : WriteEvent → Bytes
  | accepted count => bytes.take count
  | interrupted | failed _ => []

/-- A network, and what has passed over its latest stream. -/
structure Recorded (ν : Type) where
  network : ν
  transcript : List Transfer := []

namespace Recorded

variable {ν : Type}

def note (s : Recorded ν) (network : ν) (transfers : List Transfer) : Recorded ν :=
  ⟨network, s.transcript ++ transfers⟩

instance [Network ν] : ByteStream (Recorded ν) where
  read limit s :=
    let (event, network) := ByteStream.read limit s.network
    (event, s.note network (event.bytes.map .got))
  write bytes s :=
    let (event, network) := ByteStream.write bytes s.network
    (event, s.note network ((event.taken bytes).map .sent))
  flush s :=
    let (result, network) := ByteStream.flush s.network
    (result, s.note network [])
  patience s := ByteStream.patience s.network
  length_read_le limit s := ByteStream.length_read_le limit s.network
  patience_read_le limit s := ByteStream.patience_read_le limit s.network
  patience_write_le bytes s := ByteStream.patience_write_le bytes s.network
  patience_flush_le s := ByteStream.patience_flush_le s.network

instance [Network ν] : Network (Recorded ν) where
  connect host port s :=
    let (result, network) := Network.connect host port s.network
    (result, ⟨network, []⟩)
  configure option s :=
    let (result, network) := Network.configure option s.network
    (result, s.note network [])
  disconnect s := s.note (Network.disconnect s.network) []

@[simp] theorem note_network (s : Recorded ν) (network : ν) (transfers : List Transfer) :
    (s.note network transfers).network = network :=
  rfl

theorem note_note (s : Recorded ν) (first second : ν) (before after : List Transfer) :
    (s.note first before).note second after = s.note second (before ++ after) := by
  rw [note, note, note, List.append_assoc]

open ByteStream

variable [Network ν] {n : Nat} {bytes : Bytes} {s : Recorded ν} {network : ν}

theorem read_eq {event : ReadEvent} (h : read n s.network = (event, network)) :
    read n s = (event, s.note network (event.bytes.map .got)) := by
  show (let (event, network) := read n s.network
    (event, s.note network (event.bytes.map .got))) = _
  rw [h]

theorem write_eq {event : WriteEvent} (h : write bytes s.network = (event, network)) :
    write bytes s = (event, s.note network ((event.taken bytes).map .sent)) := by
  show (let (event, network) := write bytes s.network
    (event, s.note network ((event.taken bytes).map .sent))) = _
  rw [h]

theorem flush_eq (s : Recorded ν) :
    flush s = ((flush s.network).1, s.note (flush s.network).2 []) :=
  rfl

/-- All that a reading gives is on record. -/
theorem fill_eq (n : Nat) (s : Recorded ν) :
    fill n s = ((fill n s.network).1, (fill n s.network).2.1,
      s.note (fill n s.network).2.2 ((fill n s.network).2.1.map .got)) := by
  generalize hs : s.network = network
  fun_induction fill n network generalizing s with
  | case1 network =>
    subst hs
    rw [fill_zero, note, List.map_nil, List.append_nil]
  | case2 n network hne network' h =>
    subst hs
    rw [fill_of_ended hne (read_eq h)]
    rfl
  | case3 n network hne b bytes network' h filling more network'' hfill ih =>
    subst hs
    have ih := ih (s.note network' ((b :: bytes).map .got)) rfl
    rw [hfill] at ih
    rw [fill_of_data hne (read_eq h), ReadEvent.bytes, ih, note_note, ← List.map_append]
  | case4 n network hne network' h ih =>
    subst hs
    have ih := ih (s.note network' []) rfl
    rw [fill_of_interrupted hne (read_eq h), ReadEvent.bytes, List.map_nil, ih, note_note,
      List.nil_append]
  | case5 n network hne failure network' h =>
    subst hs
    rw [fill_of_failed hne (read_eq h)]
    rfl

/-- What the stream takes of a writing is on record. -/
theorem writeAll_eq (bytes : Bytes) (s : Recorded ν) :
    ∃ taken, Offers bytes s.network taken (writeAll bytes s.network).1
        (writeAll bytes s.network).2 ∧
      writeAll bytes s =
        ((writeAll bytes s.network).1, s.note (writeAll bytes s.network).2 (taken.map .sent)) := by
  generalize hs : s.network = network
  fun_induction writeAll bytes network generalizing s with
  | case1 network =>
    subst hs
    refine ⟨[], .all _, ?_⟩
    rw [writeAll_nil, note, List.map_nil, List.append_nil]
  | case2 bytes network hne network' h =>
    subst hs
    exact ⟨[], .none hne h, writeAll_of_none hne (write_eq h)⟩
  | case3 bytes network hne n network' h ih =>
    subst hs
    obtain ⟨taken, hoffers, ih⟩ := ih (s.note network' ((bytes.take (n + 1)).map .sent)) rfl
    refine ⟨bytes.take (n + 1) ++ taken, .some hne h hoffers, ?_⟩
    rw [writeAll_of_accepted hne (write_eq h), WriteEvent.taken, ih, note_note,
      ← List.map_append]
  | case4 bytes network hne network' h ih =>
    subst hs
    obtain ⟨taken, hoffers, ih⟩ := ih (s.note network' []) rfl
    refine ⟨taken, .interrupted hne h hoffers, ?_⟩
    rw [writeAll_of_interrupted hne (write_eq h), WriteEvent.taken, List.map_nil, ih, note_note,
      List.nil_append]
  | case5 bytes network hne failure network' h =>
    subst hs
    exact ⟨[], .failed hne h, writeAll_of_failed hne (write_eq h)⟩

end Recorded

/-! ### Frames -/

theorem Bytes.splitFirst?_of_short {n : Nat} {bytes : Bytes} (h : bytes.length < n) :
    splitFirst? n bytes = none := by
  cases hs : splitFirst? n bytes with
  | none => rfl
  | some parts =>
    obtain ⟨hparts, hlen⟩ := append_of_splitFirst? hs
    rw [hparts, List.length_append] at h
    omega

namespace Frame

variable {header more : Bytes}

theorem decode?_of_short (h : header.length < headerSize) : decode? header = none := by
  simp only [decode?, Bytes.splitFirst?_of_short h, Option.bind_eq_bind, Option.bind_none]

theorem decode?_header_append (more : Bytes) (h : header.length = headerSize) :
    decode? (header ++ more) =
      (decodeSize header).toOption.bind fun size => Bytes.splitFirst? size more := by
  have hs := Bytes.splitFirst?_append header more
  rw [h] at hs
  simp only [decode?, hs, Option.bind_eq_bind, Option.bind_some]

/-- A header tells the size of the payload that it was written for. -/
theorem encode_of_decodeSize (h : header.length = headerSize)
    (hd : decodeSize header = .ok more.length) :
    more.length < 0x80000000 ∧ header ++ more = encode more := by
  rw [decodeSize] at hd
  split at hd
  · rename_i hlt
    have hsize : LittleEndian.decode header = more.length := Except.ok.inj hd
    have he := LittleEndian.encode_decode header
    rw [h, hsize] at he
    rw [hsize] at hlt
    exact ⟨hlt, by rw [encode, he]⟩
  · cases hd

end Frame

/-! ### Messages -/

namespace Recorded

variable {ν : Type} [Network ν]

open ByteStream

/-- The channel without the record. -/
def plain (c : Channel (Recorded ν)) : Channel ν := ⟨c.stream.network, c.inbox⟩

/-- What the stream takes of a message is on record, and nothing else. -/
theorem send_eq (payload : Bytes) (c : Channel (Recorded ν)) :
    ∃ taken, (plain c).Sends payload taken ((plain c).send payload).1
        ((plain c).send payload).2.stream ∧
      c.send payload = (((plain c).send payload).1,
        ⟨c.stream.note ((plain c).send payload).2.stream (taken.map .sent),
          ((plain c).send payload).2.inbox⟩) := by
  rw [Channel.send, Channel.send, Frame.encodeHeader]
  by_cases hshort : payload.length < 0x80000000
  · rw [if_pos hshort]
    obtain ⟨first, hfirst, hwrite⟩ :=
      writeAll_eq (LittleEndian.encode Frame.headerSize payload.length) c.stream
    obtain ⟨⟨result, network⟩, hr⟩ : ∃ r, writeAll
      (LittleEndian.encode Frame.headerSize payload.length) c.stream.network = r := ⟨_, rfl⟩
    rw [hr] at hwrite hfirst
    simp only [plain, hwrite, hr]
    cases result with
    | error failure => exact ⟨first, .headerCut hshort hfirst, rfl⟩
    | ok _ =>
      obtain ⟨second, hsecond, hwrite⟩ :=
        writeAll_eq payload (c.stream.note network (first.map .sent))
      rw [note_network, note_note, ← List.map_append] at hwrite
      rw [note_network] at hsecond
      obtain ⟨⟨result, network⟩, hr⟩ : ∃ r, writeAll payload network = r := ⟨_, rfl⟩
      rw [hr] at hwrite hsecond
      simp only [hwrite, hr]
      cases result with
      | error failure => exact ⟨first ++ second, .payloadCut hshort hfirst hsecond, rfl⟩
      | ok _ =>
        have hflush := flush_eq (c.stream.note network ((first ++ second).map .sent))
        rw [note_network, note_note, List.append_nil] at hflush
        obtain ⟨⟨result, network⟩, hr⟩ : ∃ r, flush network = r := ⟨_, rfl⟩
        rw [hr] at hflush
        simp only [hflush, hr]
        cases result with
        | error failure => exact ⟨first ++ second, .unflushed hshort hfirst hsecond hr, rfl⟩
        | ok _ => exact ⟨first ++ second, .sent hshort hfirst hsecond hr, rfl⟩
  · rw [if_neg hshort]
    refine ⟨[], .oversized (Nat.le_of_not_lt hshort), ?_⟩
    simp only [plain, note, List.map_nil, List.append_nil]

/-- What there is of a payload is in the inbox. -/
theorem receivePayload_eq (size : Nat) (s : Recorded ν) :
    Channel.receivePayload size s = ((Channel.receivePayload size s.network).1,
      ⟨s.note (Channel.receivePayload size s.network).2.stream
        ((Channel.receivePayload size s.network).2.inbox.map .got),
        (Channel.receivePayload size s.network).2.inbox⟩) := by
  simp only [Channel.receivePayload, fill_eq]
  obtain ⟨⟨filling, payload, network⟩, hr⟩ : ∃ r, fill size s.network = r := ⟨_, rfl⟩
  simp only [hr]
  cases filling <;> rfl

theorem length_receivePayload (size : Nat) (network : ν) :
    ((Channel.receivePayload size network).1 = .ok () →
      (Channel.receivePayload size network).2.inbox.length = size) ∧
    ((Channel.receivePayload size network).1 ≠ .ok () →
      (Channel.receivePayload size network).2.inbox.length < size) := by
  have hwhole := length_fill_of_whole size network
  have hshort := length_fill_lt size network
  simp only [Channel.receivePayload]
  obtain ⟨⟨filling, payload, network'⟩, hr⟩ : ∃ r, fill size network = r := ⟨_, rfl⟩
  rw [hr] at hwhole hshort
  simp only [hr]
  cases filling with
  | whole => exact ⟨fun _ => hwhole rfl, fun hne => absurd rfl hne⟩
  | ended => exact ⟨(fun hok => by cases hok), fun _ => hshort (by simp)⟩
  | failed failure => exact ⟨(fun hok => by cases hok), fun _ => hshort (by simp)⟩

/-- A message that is received takes its frame off the stream. One that is not leaves less than a
frame behind. -/
theorem receive_eq (c : Channel (Recorded ν)) :
    ∃ bytes, c.receive = ((plain c).receive.1,
        ⟨c.stream.note (plain c).receive.2.stream (bytes.map .got), (plain c).receive.2.inbox⟩) ∧
      ((plain c).receive.1 = .ok () → (plain c).receive.2.inbox.length < 0x80000000 ∧
        bytes = Frame.encode (plain c).receive.2.inbox) ∧
      ((plain c).receive.1 ≠ .ok () → Frame.decode? bytes = none) := by
  have hwhole := length_fill_of_whole Frame.headerSize c.stream.network
  have hshort := length_fill_lt Frame.headerSize c.stream.network
  simp only [Channel.receive, fill_eq, plain]
  obtain ⟨⟨filling, header, network⟩, hr⟩ : ∃ r, fill Frame.headerSize c.stream.network = r :=
    ⟨_, rfl⟩
  rw [hr] at hwhole hshort
  simp only [hr]
  cases filling with
  | ended =>
    exact ⟨header, rfl, (fun hok => by cases hok),
      fun _ => Frame.decode?_of_short (hshort (by simp))⟩
  | failed failure =>
    exact ⟨header, rfl, (fun hok => by cases hok),
      fun _ => Frame.decode?_of_short (hshort (by simp))⟩
  | whole =>
    have hlen : header.length = Frame.headerSize := hwhole rfl
    cases hd : Frame.decodeSize header with
    | error e =>
      simp only [hd]
      refine ⟨header, rfl, (fun hok => by cases hok), fun _ => ?_⟩
      have hnone := Frame.decode?_header_append [] hlen
      rwa [hd, List.append_nil] at hnone
    | ok size =>
      obtain ⟨hpayload, hpart⟩ := length_receivePayload size network
      simp only [hd, receivePayload_eq, note_network, note_note, ← List.map_append]
      refine ⟨_, rfl, ?_, ?_⟩
      · intro hok
        exact Frame.encode_of_decodeSize hlen (by rw [hpayload hok, hd])
      · intro hne
        rw [Frame.decode?_header_append _ hlen, hd]
        exact Bytes.splitFirst?_of_short (hpart hne)

end Recorded

end GridClient
