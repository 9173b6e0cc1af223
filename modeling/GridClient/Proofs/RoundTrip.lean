import GridClient.Proofs.Transcript

/-!
What one exchange leaves on record. There are four ways for it to end, and three of them are errors
that tell how much passed over the stream.
-/
namespace GridClient

/-- A message on its way to the peer. -/
def Frame.sent (payload : Bytes) : List Transfer := (Frame.encode payload).map .sent

/-- A message on its way from the peer. -/
def Frame.got (payload : Bytes) : List Transfer := (Frame.encode payload).map .got

/-- What passes of a round trip that breaks off: a part of the request, or the whole of it and then
less than a message. -/
structure Frame.BrokenOff (request cut part : Bytes) : Prop where
  isPrefix : cut <+: Frame.encode request
  whole_or_nil : cut = Frame.encode request ∨ part = []
  unfinished : Frame.decode? part = none

/-- How a stream fails a request, with what went out of the request and what came of an answer: it
cannot be sent, or it is sent and no answer can be received. -/
inductive Channel.Fails {σ : Type} [ByteStream σ] (c : Channel σ) (request : Bytes) :
    Error → Bytes → Bytes → Prop where
  | sending {cut : Bytes} {e : Error} {s : σ} (sends : c.Sends request cut (.error e) s) :
    Fails c request e cut []
  | receiving {part : Bytes} {e : Error} {sent received : Channel σ}
    (sends : c.Sends request (Frame.encode request) (.ok ()) sent.stream)
    (receives : sent.Receives (.error e) received) :
    Fails c request e (Frame.encode request) part

theorem Channel.Fails.sends {σ : Type} [ByteStream σ] {c : Channel σ} {request cut part : Bytes}
    {e : Error} (h : c.Fails request e cut part) : ∃ result s, c.Sends request cut result s := by
  cases h with
  | sending sends => exact ⟨_, _, sends⟩
  | receiving sends receives => exact ⟨_, _, sends⟩

namespace Connection

variable {ν : Type} {α : Type}

/-- The connection without the record. -/
def plain (c : Connection (Recorded ν)) : Connection ν :=
  { channel := Recorded.plain c.channel
    outbox := c.outbox
    isOpen := c.isOpen
    options := c.options
    diagnostics := c.diagnostics }

/-- The same connection with a blank record. -/
def recorded (c : Connection ν) : Connection (Recorded ν) :=
  { channel := ⟨⟨c.network, []⟩, c.channel.inbox⟩
    outbox := c.outbox
    isOpen := c.isOpen
    options := c.options
    diagnostics := c.diagnostics }

/-- What has passed over the stream. -/
def transcript (c : Connection (Recorded ν)) : List Transfer := c.network.transcript

variable [Network ν]

/-- How an exchange can end, and with which result. -/
inductive Exchanged (c : Connection (Recorded ν)) (encode : Encoder)
    (decode : Bytes → Except Error α) : Except Error α → Connection (Recorded ν) → Prop where
  /-- There is no stream. -/
  | closed (isOpen : c.isOpen = false) : Exchanged c encode decode (.error .notConnected) c
  /-- There is nothing to send. -/
  | unsent {e : Error} {outbox : Bytes} (isOpen : c.isOpen = true)
    (unbuilt : encode [] = (.error e, outbox)) :
    Exchanged c encode decode (.error e) { c with outbox }
  | answered {request answer : Bytes} {s : ν} {c' : Connection (Recorded ν)}
    (isOpen : c.isOpen = true) (built : encode [] = (.ok (), request)) (isOpen' : c'.isOpen = true)
    (sends : c.plain.channel.Sends request (Frame.encode request) (.ok ()) s)
    (short : answer.length < 0x80000000)
    (transcript_eq : c'.transcript = c.transcript ++ (Frame.sent request ++ Frame.got answer)) :
    Exchanged c encode decode (decode answer) c'
  /-- The stream failed the request, and was given up. -/
  | broken {request cut part : Bytes} {e : Error} {c' : Connection (Recorded ν)}
    (isOpen : c.isOpen = true) (built : encode [] = (.ok (), request)) (isOpen' : c'.isOpen = false)
    (fails : c.plain.channel.Fails request e cut part) (off : Frame.BrokenOff request cut part)
    (transcript_eq : c'.transcript = c.transcript ++ (cut.map .sent ++ part.map .got)) :
    Exchanged c encode decode (.error e) c'

variable {encode : Encoder} (decode : Bytes → Except Error α)
  {c : Connection (Recorded ν)}

/-- A request that was built goes out, and the answer comes in, as far as the stream takes them. -/
theorem exchange_recorded_of_built {request : Bytes} (hopen : c.isOpen = true)
    (he : encode [] = (.ok (), request)) :
    Exchanged c encode decode (c.exchange encode decode).1 (c.exchange encode decode).2 ∧
      (c.exchange encode decode).1 = (c.plain.exchange encode decode).1 ∧
      (c.exchange encode decode).2.plain = (c.plain.exchange encode decode).2 := by
  have hopen' : c.plain.isOpen = true := hopen
  have hplain : c.plain.channel = Recorded.plain c.channel := rfl
  rw [exchange, exchange, if_pos hopen, if_pos hopen']
  obtain ⟨cut, hsends, hsend⟩ := Recorded.send_eq request c.channel
  obtain ⟨⟨result, sent⟩, hs⟩ : ∃ r, (Recorded.plain c.channel).send request = r := ⟨_, rfl⟩
  rw [hs] at hsends hsend
  cases result with
  | error e =>
    have hoff : Frame.BrokenOff request cut [] := ⟨hsends.taken_prefix.1, .inr rfl, rfl⟩
    simp only [he, hplain, hs, hsend]
    refine ⟨.broken hopen he rfl (.sending hsends) hoff ?_, trivial, rfl⟩
    show c.transcript ++ cut.map .sent ++ [] = _
    rw [List.append_nil, List.map_nil, List.append_nil]
  | ok _ =>
    obtain rfl := hsends.taken_prefix.2 rfl
    obtain ⟨bytes, hreceive, hgot, hpart⟩ := Recorded.receive_eq
      ⟨c.channel.stream.note sent.stream ((Frame.encode request).map .sent), sent.inbox⟩
    have hsent : Recorded.plain ⟨c.channel.stream.note sent.stream
        ((Frame.encode request).map .sent), sent.inbox⟩ = sent := rfl
    have hreceives := Channel.receives_receive sent
    rw [hsent] at hreceive hgot hpart
    rw [Recorded.note_note] at hreceive
    obtain ⟨⟨result, received⟩, hr⟩ : ∃ r, sent.receive = r := ⟨_, rfl⟩
    rw [hr] at hreceive hgot hpart hreceives
    simp only [he, hplain, hs, hsend, hreceive, hr]
    cases result with
    | error e =>
      have hoff : Frame.BrokenOff request (Frame.encode request) bytes :=
        ⟨List.prefix_refl _, .inl rfl, hpart (by simp)⟩
      refine ⟨.broken hopen he rfl (.receiving hsends hreceives) hoff ?_, rfl, rfl⟩
      exact List.append_nil _
    | ok _ =>
      obtain ⟨hshort, rfl⟩ := hgot rfl
      exact ⟨.answered hopen he hopen hsends hshort rfl, rfl, rfl⟩

variable (encode) (c)

/-- The record makes no difference to an exchange, and shows how it ended. -/
theorem exchange_recorded :
    Exchanged c encode decode (c.exchange encode decode).1 (c.exchange encode decode).2 ∧
      (c.exchange encode decode).1 = (c.plain.exchange encode decode).1 ∧
      (c.exchange encode decode).2.plain = (c.plain.exchange encode decode).2 := by
  by_cases hopen : c.isOpen = true
  · obtain ⟨⟨built, request⟩, he⟩ : ∃ r, encode [] = r := ⟨_, rfl⟩
    cases built with
    | ok _ => exact exchange_recorded_of_built decode hopen he
    | error e =>
      have hopen' : c.plain.isOpen = true := hopen
      rw [exchange, exchange, if_pos hopen, if_pos hopen', he]
      exact ⟨.unsent hopen he, rfl, rfl⟩
  · have hclosed : c.isOpen = false := by simpa using hopen
    have hopen' : ¬ c.plain.isOpen = true := hopen
    rw [exchange, exchange, if_neg hopen, if_neg hopen']
    exact ⟨.closed hclosed, rfl, rfl⟩

end Connection

end GridClient
