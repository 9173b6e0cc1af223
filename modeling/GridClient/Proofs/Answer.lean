import GridClient.Connection
import GridClient.Network.Peer
import GridClient.Proofs.Reading
import GridClient.Wire.Response

/-! Round trips that go well: a request is taken whole, and one whole answer comes back. -/
namespace GridClient

namespace ByteStream

variable {σ : Type} [ByteStream σ] {s s' : σ} {bytes : Bytes}

theorem writeAll_of_whole (hne : bytes ≠ []) (h : write bytes s = (.accepted bytes.length, s')) :
    writeAll bytes s = (.ok (), s') := by
  cases bytes with
  | nil => exact absurd rfl hne
  | cons b bytes =>
    have hdrop : (b :: bytes).drop (bytes.length + 1) = [] :=
      List.drop_eq_nil_of_le (Nat.le_refl _)
    rw [writeAll_of_accepted hne h, hdrop, writeAll_nil]

theorem fill_of_whole (hne : bytes ≠ []) (h : read bytes.length s = (.data bytes, s')) :
    fill bytes.length s = (.whole, bytes, s') := by
  cases bytes with
  | nil => exact absurd rfl hne
  | cons b bytes =>
    have hpos : (b :: bytes).length ≠ 0 := Nat.succ_ne_zero _
    rw [fill_of_data hpos h, Nat.sub_self, fill_zero, List.append_nil]

end ByteStream

namespace Connection

variable {ν : Type} [Network ν] {α : Type} {c c' : Connection ν} {request answer : Bytes}

/-- The stream takes this request whole, and this answer is the next to come. -/
def Answers (c : Connection ν) (request answer : Bytes) (c' : Connection ν) : Prop :=
  c.isOpen = true ∧ ∃ sent received : Channel ν,
    c.channel.send request = (.ok (), sent) ∧ sent.receive = (.ok (), received) ∧
      received.inbox = answer ∧ c' = { c with channel := received, outbox := request }

theorem exchange_of_answers {encode : Encoder} (decode : Bytes → Except Error α)
    (h : c.Answers request answer c') (he : encode [] = (.ok (), request)) :
    c.exchange encode decode = (decode answer, c') := by
  obtain ⟨hopen, sent, received, hs, hr, rfl, rfl⟩ := h
  rw [exchange, if_pos hopen, he]
  simp only [hs, hr]

end Connection

namespace ScriptedPeer

variable {port : Option UInt16} {script : List PeerAnswer} {messages : List Bytes}
  {request answer inbox : Bytes}

/-- A header alone is no message yet. -/
theorem decode?_header (hne : request ≠ []) (hlen : request.length < 0x80000000) :
    Frame.decode? (LittleEndian.encode Frame.headerSize request.length) = none := by
  have hs := Bytes.splitFirst?_append (LittleEndian.encode Frame.headerSize request.length) []
  rw [LittleEndian.length_encode, List.append_nil] at hs
  have hnone : Bytes.splitFirst? request.length [] = none := by
    cases request with
    | nil => exact absurd rfl hne
    | cons b rest => rfl
  simp only [Frame.decode?, hs, Frame.decodeSize_encode hlen, Option.bind_eq_bind,
    Option.bind_some, Except.toOption, hnone]

theorem send_eq (hne : request ≠ []) (hlen : request.length < 0x80000000) :
    (Channel.mk (⟨port, .message answer :: script, messages, false, [], []⟩ : ScriptedPeer)
      inbox).send request =
      (.ok (), ⟨⟨port, script, request :: messages, false, [], Frame.encode answer⟩, inbox⟩) := by
  have hheader : ByteStream.write (LittleEndian.encode Frame.headerSize request.length)
      (⟨port, .message answer :: script, messages, false, [], []⟩ : ScriptedPeer) =
      (.accepted (LittleEndian.encode Frame.headerSize request.length).length,
        ⟨port, .message answer :: script, messages, false,
          LittleEndian.encode Frame.headerSize request.length, []⟩) := by
    show ScriptedPeer.write _ _ = _
    simp only [write, List.nil_append, decode?_header hne hlen]
    rfl
  have hframe := Frame.decode?_encode_append request [] hlen
  rw [List.append_nil, Frame.encode] at hframe
  have hpayload : ByteStream.write request
      (⟨port, .message answer :: script, messages, false,
        LittleEndian.encode Frame.headerSize request.length, []⟩ : ScriptedPeer) =
      (.accepted request.length,
        ⟨port, script, request :: messages, false, [], Frame.encode answer⟩) := by
    show ScriptedPeer.write _ _ = _
    simp only [write, hframe]
    rfl
  rw [Channel.send, Frame.encodeHeader_of_lt hlen]
  simp only [ByteStream.writeAll_of_whole (Frame.header_ne_nil _) hheader,
    ByteStream.writeAll_of_whole hne hpayload]
  rfl

theorem receive_eq (hlen : answer.length < 0x80000000) :
    (Channel.mk (⟨port, script, messages, false, [], Frame.encode answer⟩ : ScriptedPeer)
      inbox).receive =
      (.ok (), ⟨⟨port, script, messages, false, [], []⟩, answer⟩) := by
  have hheader : ByteStream.fill Frame.headerSize
      (⟨port, script, messages, false, [], Frame.encode answer⟩ : ScriptedPeer) =
      (.whole, LittleEndian.encode Frame.headerSize answer.length,
        ⟨port, script, messages, false, [], answer⟩) := by
    have hl := LittleEndian.length_encode Frame.headerSize answer.length
    have hread : ByteStream.read (LittleEndian.encode Frame.headerSize answer.length).length
        (⟨port, script, messages, false, [], Frame.encode answer⟩ : ScriptedPeer) =
        (.data (LittleEndian.encode Frame.headerSize answer.length),
          ⟨port, script, messages, false, [], answer⟩) := by
      show ScriptedPeer.read _ _ = _
      simp only [read, Frame.encode, List.take_left, List.drop_left]
    have hfill := ByteStream.fill_of_whole (Frame.header_ne_nil _) hread
    rwa [hl] at hfill
  have hpayload : ByteStream.fill answer.length
      (⟨port, script, messages, false, [], answer⟩ : ScriptedPeer) =
      (.whole, answer, ⟨port, script, messages, false, [], []⟩) := by
    by_cases hne : answer = []
    · subst hne
      exact ByteStream.fill_zero _
    · apply ByteStream.fill_of_whole hne
      show ScriptedPeer.read _ _ = _
      simp only [read, List.take_length, List.drop_length]
  rw [Channel.receive]
  simp only [hheader, Frame.decodeSize_encode hlen, Channel.receivePayload, hpayload]

/-- A peer with an answer left gives it to the next request. -/
theorem answers {c : Connection ScriptedPeer} (hopen : c.isOpen = true)
    (hp : c.network = ⟨port, .message answer :: script, messages, false, [], []⟩)
    (hne : request ≠ []) (hreq : request.length < 0x80000000)
    (hans : answer.length < 0x80000000) :
    c.Answers request answer { c with
      channel := ⟨⟨port, script, request :: messages, false, [], []⟩, answer⟩
      outbox := request } := by
  obtain ⟨⟨_, inbox⟩, outbox, _, _, _⟩ := c
  cases hp
  exact ⟨hopen, _, _, send_eq hne hreq, receive_eq hans, rfl, rfl⟩

end ScriptedPeer

end GridClient
