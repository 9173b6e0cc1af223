import GridClient.Network.Channel

/-!
What a client finds when it reads and writes: the attempts that it makes, one after another, and how
they end. A message is received and sent by such attempts, and by no others.
-/
namespace GridClient

/-- The bytes that an attempt to read gave. -/
def ReadEvent.bytes : ReadEvent → Bytes
  | data bytes => bytes
  | interrupted | failed _ => []

/-- All the bytes that some attempts to read gave. -/
def ReadEvent.allBytes (events : List ReadEvent) : Bytes := events.flatMap ReadEvent.bytes

namespace ByteStream

variable {σ : Type} [ByteStream σ]

/-! ### Attempts to read -/

/-- What a client finds that wants `n` bytes. Each attempt asks for all that are still missing, and
the last one is the first that fails or finds the end, unless no byte is missing any more. -/
inductive Attempts : Nat → σ → List ReadEvent → σ → Prop where
  | whole (s : σ) : Attempts 0 s [] s
  | ended {n : Nat} {s s' : σ} (missing : n ≠ 0) (read : read n s = (.data [], s')) :
    Attempts n s [.data []] s'
  | failed {n : Nat} {failure : TransportFailure} {s s' : σ} (missing : n ≠ 0)
    (read : read n s = (.failed failure, s')) : Attempts n s [.failed failure] s'
  | interrupted {n : Nat} {events : List ReadEvent} {s s' s'' : σ} (missing : n ≠ 0)
    (read : read n s = (.interrupted, s')) (rest : Attempts n s' events s'') :
    Attempts n s (.interrupted :: events) s''
  | some {n : Nat} {b : UInt8} {bytes : Bytes} {events : List ReadEvent} {s s' s'' : σ}
    (missing : n ≠ 0) (read : read n s = (.data (b :: bytes), s'))
    (rest : Attempts (n - (b :: bytes).length) s' events s'') :
    Attempts n s (.data (b :: bytes) :: events) s''

/-- How attempts to read `n` bytes ended: there are so many, or there are fewer and the last attempt
tells why. -/
def Filling.Tells (n : Nat) (events : List ReadEvent) : Filling → Prop
  | whole => (ReadEvent.allBytes events).length = n
  | ended => (ReadEvent.allBytes events).length < n ∧ events.getLast? = some (.data [])
  | failed failure =>
    (ReadEvent.allBytes events).length < n ∧ events.getLast? = some (.failed failure)

theorem Filling.Tells.cons {n : Nat} (event : ReadEvent) {events : List ReadEvent}
    {filling : Filling} (h : filling.Tells (n - event.bytes.length) events)
    (hle : event.bytes.length ≤ n) :
    filling.Tells n (event :: events) := by
  have hlength : (ReadEvent.allBytes (event :: events)).length =
      event.bytes.length + (ReadEvent.allBytes events).length := by
    rw [ReadEvent.allBytes, List.flatMap_cons, List.length_append]
    rfl
  have hlast (last : ReadEvent) (h : events.getLast? = some last) :
      (event :: events).getLast? = some last := by
    rw [List.getLast?_cons, h]
    rfl
  cases filling with
  | whole =>
    simp only [Tells] at h ⊢
    omega
  | ended =>
    simp only [Tells] at h ⊢
    exact ⟨by omega, hlast _ h.2⟩
  | failed failure =>
    simp only [Tells] at h ⊢
    exact ⟨by omega, hlast _ h.2⟩

/-- To read a number of bytes is to make such attempts, and to keep what they gave. -/
theorem fill_attempts (n : Nat) (s : σ) :
    ∃ events, Attempts n s events (fill n s).2.2 ∧
      (fill n s).2.1 = ReadEvent.allBytes events ∧ (fill n s).1.Tells n events := by
  fun_induction fill n s with
  | case1 s => exact ⟨[], .whole s, rfl, rfl⟩
  | case2 n s hn s' h =>
    exact ⟨_, .ended hn h, rfl, Nat.pos_of_ne_zero hn, rfl⟩
  | case3 n s hn b bytes s' h filling more s'' hfill ih =>
    obtain ⟨events, hattempts, hbytes, htells⟩ := ih
    rw [hfill] at hattempts hbytes htells
    have hle := length_read_le n s (b :: bytes) (by rw [h])
    refine ⟨_, .some hn h hattempts, ?_, htells.cons _ hle⟩
    show b :: bytes ++ more = b :: bytes ++ ReadEvent.allBytes events
    rw [← hbytes]
  | case4 n s hn s' h ih =>
    obtain ⟨events, hattempts, hbytes, htells⟩ := ih
    exact ⟨_, .interrupted hn h hattempts, hbytes, htells.cons .interrupted (Nat.zero_le n)⟩
  | case5 n s hn failure s' h =>
    exact ⟨_, .failed hn h, rfl, Nat.pos_of_ne_zero hn, rfl⟩

/-! ### Attempts to write -/

/-- What becomes of bytes that are offered to a stream. Each attempt offers all that it has not
taken, and the last one is the first that fails or takes none, unless all are taken. -/
inductive Offers : Bytes → σ → Bytes → Except TransportFailure Unit → σ → Prop where
  | all (s : σ) : Offers [] s [] (.ok ()) s
  | none {bytes : Bytes} {s s' : σ} (left : bytes ≠ [])
    (write : write bytes s = (.accepted 0, s')) :
    Offers bytes s [] (.error .nothingAccepted) s'
  | failed {bytes : Bytes} {failure : TransportFailure} {s s' : σ} (left : bytes ≠ [])
    (write : write bytes s = (.failed failure, s')) : Offers bytes s [] (.error failure) s'
  | interrupted {bytes taken : Bytes} {result : Except TransportFailure Unit} {s s' s'' : σ}
    (left : bytes ≠ []) (write : write bytes s = (.interrupted, s'))
    (rest : Offers bytes s' taken result s'') : Offers bytes s taken result s''
  | some {bytes taken : Bytes} {n : Nat} {result : Except TransportFailure Unit} {s s' s'' : σ}
    (left : bytes ≠ []) (write : write bytes s = (.accepted (n + 1), s'))
    (rest : Offers (bytes.drop (n + 1)) s' taken result s'') :
    Offers bytes s (bytes.take (n + 1) ++ taken) result s''

/-- To write bytes is to make such attempts. -/
theorem writeAll_offers (bytes : Bytes) (s : σ) :
    ∃ taken, Offers bytes s taken (writeAll bytes s).1 (writeAll bytes s).2 := by
  fun_induction writeAll bytes s with
  | case1 s => exact ⟨[], .all s⟩
  | case2 bytes s hne s' h => exact ⟨[], .none hne h⟩
  | case3 bytes s hne n s' h ih =>
    obtain ⟨taken, hrest⟩ := ih
    exact ⟨bytes.take (n + 1) ++ taken, .some hne h hrest⟩
  | case4 bytes s hne s' h ih =>
    obtain ⟨taken, hrest⟩ := ih
    exact ⟨taken, .interrupted hne h hrest⟩
  | case5 bytes s hne failure s' h => exact ⟨[], .failed hne h⟩

/-- A stream that is offered some bytes decides what becomes of them. -/
theorem Offers.writeAll_eq {bytes taken : Bytes} {result : Except TransportFailure Unit} {s s' : σ}
    (h : Offers bytes s taken result s') : writeAll bytes s = (result, s') := by
  induction h with
  | all s => exact writeAll_nil s
  | none left write => exact writeAll_of_none left write
  | failed left write => exact writeAll_of_failed left write
  | interrupted left write rest ih => rw [writeAll_of_interrupted left write, ih]
  | some left write rest ih => rw [writeAll_of_accepted left write, ih]

theorem Offers.taken_prefix {bytes taken : Bytes} {result : Except TransportFailure Unit}
    {s s' : σ} (h : Offers bytes s taken result s') :
    taken <+: bytes ∧ (result = .ok () → taken = bytes) := by
  induction h with
  | all s => exact ⟨List.nil_prefix, fun _ => rfl⟩
  | none left write => exact ⟨List.nil_prefix, nofun⟩
  | failed left write => exact ⟨List.nil_prefix, nofun⟩
  | interrupted left write rest ih => exact ih
  | @some bytes taken n result s s' s'' left write rest ih =>
    obtain ⟨hbegins, hwhole⟩ := ih
    refine ⟨?_, fun hok => ?_⟩
    · have hcut := (List.prefix_append_right_inj (bytes.take (n + 1))).mpr hbegins
      rwa [List.take_append_drop] at hcut
    · rw [hwhole hok, List.take_append_drop]

end ByteStream

namespace Frame

/-- The size that a header announces: a word with a sign, least significant byte first. -/
def announced (header : Bytes) : Int := (LittleEndian.decode header : Int).bmod 0x100000000

theorem decodeSize_cases {header : Bytes} (h : header.length = headerSize) :
    (∃ size : Nat, announced header = size ∧ decodeSize header = .ok size) ∨
      (announced header < 0 ∧ decodeSize header = .error .invalidPacket) := by
  have hlt := LittleEndian.decode_lt header
  simp only [h, headerSize, wordCount] at hlt
  unfold announced decodeSize
  rw [Int.bmod_def]
  generalize LittleEndian.decode header = k at hlt
  by_cases hsize : k < 0x80000000
  · exact .inl ⟨k, by omega, if_pos hsize⟩
  · exact .inr ⟨by omega, if_neg hsize⟩

end Frame

namespace Channel

open ByteStream

variable {σ : Type} [ByteStream σ]

/-! ### Receiving -/

/-- The header of a message comes whole, and announces a size. -/
structure Announces (s : σ) (size : Int) (s' : σ) (header : List ReadEvent) : Prop where
  reads : Attempts Frame.headerSize s header s'
  tells : Filling.whole.Tells Frame.headerSize header
  size_eq : Frame.announced (ReadEvent.allBytes header) = size

/-- How a message is received, with the attempts to read its header and its payload. Until the
header announces a size there is nothing of a payload; then the inbox holds what came of it. -/
inductive Receives (c : Channel σ) : Except Error Unit → Channel σ → Prop where
  | headerEnded {header : List ReadEvent} {s : σ}
    (reads : Attempts Frame.headerSize c.stream header s)
    (tells : Filling.ended.Tells Frame.headerSize header) :
    Receives c (.error (.transport .cutShort)) ⟨s, []⟩
  | headerFailed {header : List ReadEvent} {failure : TransportFailure} {s : σ}
    (reads : Attempts Frame.headerSize c.stream header s)
    (tells : (Filling.failed failure).Tells Frame.headerSize header) :
    Receives c (.error (.transport failure)) ⟨s, []⟩
  | negative {header : List ReadEvent} {size : Int} {s : σ}
    (announces : Announces c.stream size s header) (below : size < 0) :
    Receives c (.error .invalidPacket) ⟨s, []⟩
  | ended {header payload : List ReadEvent} {size : Nat} {s s' : σ}
    (announces : Announces c.stream size s header) (reads : Attempts size s payload s')
    (tells : Filling.ended.Tells size payload) :
    Receives c (.error (.connectionClosed size (ReadEvent.allBytes payload).length))
      ⟨s', ReadEvent.allBytes payload⟩
  | failed {header payload : List ReadEvent} {size : Nat} {failure : TransportFailure} {s s' : σ}
    (announces : Announces c.stream size s header) (reads : Attempts size s payload s')
    (tells : (Filling.failed failure).Tells size payload) :
    Receives c (.error (.transport failure)) ⟨s', ReadEvent.allBytes payload⟩
  | received {header payload : List ReadEvent} {size : Nat} {s s' : σ}
    (announces : Announces c.stream size s header) (reads : Attempts size s payload s')
    (tells : Filling.whole.Tells size payload) :
    Receives c (.ok ()) ⟨s', ReadEvent.allBytes payload⟩

theorem receives_receive (c : Channel σ) : c.Receives c.receive.1 c.receive.2 := by
  obtain ⟨header, hreads, hbytes, htells⟩ := fill_attempts Frame.headerSize c.stream
  obtain ⟨⟨filling, bytes, s⟩, hf⟩ : ∃ r, fill Frame.headerSize c.stream = r := ⟨_, rfl⟩
  rw [receive]
  rw [hf] at hreads hbytes htells ⊢
  cases filling with
  | ended => exact .headerEnded hreads htells
  | failed failure => exact .headerFailed hreads htells
  | whole =>
    obtain rfl : bytes = ReadEvent.allBytes header := hbytes
    obtain ⟨size, hsize, hdecode⟩ | ⟨hnegative, hdecode⟩ := Frame.decodeSize_cases htells
    · simp only [hdecode, receivePayload]
      obtain ⟨payload, hreads', hbytes', htells'⟩ := fill_attempts size s
      obtain ⟨⟨filling, bytes, s'⟩, hf'⟩ : ∃ r, fill size s = r := ⟨_, rfl⟩
      rw [hf'] at hreads' hbytes' htells' ⊢
      obtain rfl : bytes = ReadEvent.allBytes payload := hbytes'
      cases filling with
      | whole => exact .received ⟨hreads, htells, hsize⟩ hreads' htells'
      | ended => exact .ended ⟨hreads, htells, hsize⟩ hreads' htells'
      | failed failure => exact .failed ⟨hreads, htells, hsize⟩ hreads' htells'
    · simp only [hdecode]
      exact .negative ⟨hreads, htells, rfl⟩ hnegative

/-! ### Sending -/

/-- How a message is sent, with what the stream takes of its header and its payload. -/
inductive Sends (c : Channel σ) (payload : Bytes) : Bytes → Except Error Unit → σ → Prop where
  | oversized (long : 0x80000000 ≤ payload.length) :
    Sends c payload [] (.error .invalidPacket) c.stream
  | headerCut {cut : Bytes} {failure : TransportFailure} {s : σ}
    (short : payload.length < 0x80000000)
    (offers : Offers (LittleEndian.encode Frame.headerSize payload.length) c.stream cut
      (.error failure) s) :
    Sends c payload cut (.error (.transport failure)) s
  | payloadCut {header cut : Bytes} {failure : TransportFailure} {s s' : σ}
    (short : payload.length < 0x80000000)
    (offers : Offers (LittleEndian.encode Frame.headerSize payload.length) c.stream header
      (.ok ()) s)
    (offers' : Offers payload s cut (.error failure) s') :
    Sends c payload (header ++ cut) (.error (.transport failure)) s'
  | unflushed {header rest : Bytes} {failure : TransportFailure} {s s' s'' : σ}
    (short : payload.length < 0x80000000)
    (offers : Offers (LittleEndian.encode Frame.headerSize payload.length) c.stream header
      (.ok ()) s)
    (offers' : Offers payload s rest (.ok ()) s') (unflushed : flush s' = (.error failure, s'')) :
    Sends c payload (header ++ rest) (.error (.transport failure)) s''
  | sent {header rest : Bytes} {s s' s'' : σ} (short : payload.length < 0x80000000)
    (offers : Offers (LittleEndian.encode Frame.headerSize payload.length) c.stream header
      (.ok ()) s)
    (offers' : Offers payload s rest (.ok ()) s') (flushed : flush s' = (.ok (), s'')) :
    Sends c payload (header ++ rest) (.ok ()) s''

theorem exists_sends (c : Channel σ) (payload : Bytes) :
    ∃ taken, c.Sends payload taken (c.send payload).1 (c.send payload).2.stream := by
  unfold send Frame.encodeHeader
  by_cases hshort : payload.length < 0x80000000
  · rw [if_pos hshort]
    obtain ⟨header, hheader⟩ :=
      writeAll_offers (LittleEndian.encode Frame.headerSize payload.length) c.stream
    obtain ⟨⟨result, s⟩, hw⟩ :
      ∃ r, writeAll (LittleEndian.encode Frame.headerSize payload.length) c.stream = r := ⟨_, rfl⟩
    rw [hw] at hheader
    simp only [hw]
    cases result with
    | error failure => exact ⟨header, .headerCut hshort hheader⟩
    | ok _ =>
      obtain ⟨rest, hrest⟩ := writeAll_offers payload s
      obtain ⟨⟨result, s'⟩, hw'⟩ : ∃ r, writeAll payload s = r := ⟨_, rfl⟩
      rw [hw'] at hrest
      simp only [hw']
      cases result with
      | error failure => exact ⟨header ++ rest, .payloadCut hshort hheader hrest⟩
      | ok _ =>
        obtain ⟨⟨result, s''⟩, hflush⟩ : ∃ r, flush s' = r := ⟨_, rfl⟩
        simp only [hflush]
        cases result with
        | error failure => exact ⟨header ++ rest, .unflushed hshort hheader hrest hflush⟩
        | ok _ => exact ⟨header ++ rest, .sent hshort hheader hrest hflush⟩
  · rw [if_neg hshort]
    exact ⟨[], .oversized (Nat.le_of_not_lt hshort)⟩

theorem Sends.send_eq {c : Channel σ} {payload taken : Bytes} {result : Except Error Unit} {s : σ}
    (h : c.Sends payload taken result s) : c.send payload = (result, ⟨s, c.inbox⟩) := by
  rw [send, Frame.encodeHeader]
  cases h with
  | oversized long => rw [if_neg (Nat.not_lt.mpr long)]
  | headerCut short header =>
    rw [if_pos short]
    simp only [header.writeAll_eq]
  | payloadCut short header rest =>
    rw [if_pos short]
    simp only [header.writeAll_eq, rest.writeAll_eq]
  | unflushed short header rest flush =>
    rw [if_pos short]
    simp only [header.writeAll_eq, rest.writeAll_eq, flush]
  | sent short header rest flush =>
    rw [if_pos short]
    simp only [header.writeAll_eq, rest.writeAll_eq, flush]

/-- What is written of a message is its beginning, and the whole of it when it was sent. -/
theorem Sends.taken_prefix {c : Channel σ} {payload taken : Bytes} {result : Except Error Unit}
    {s : σ} (h : c.Sends payload taken result s) :
    taken <+: Frame.encode payload ∧ (result = .ok () → taken = Frame.encode payload) := by
  cases h with
  | oversized long => exact ⟨List.nil_prefix, nofun⟩
  | headerCut short header =>
    exact ⟨header.taken_prefix.1.trans (List.prefix_append _ _), nofun⟩
  | payloadCut short header rest =>
    rw [header.taken_prefix.2 rfl]
    exact ⟨(List.prefix_append_right_inj _).mpr rest.taken_prefix.1, nofun⟩
  | unflushed short header rest flush =>
    rw [header.taken_prefix.2 rfl, rest.taken_prefix.2 rfl]
    exact ⟨List.prefix_refl _, fun _ => rfl⟩
  | sent short header rest flush =>
    rw [header.taken_prefix.2 rfl, rest.taken_prefix.2 rfl]
    exact ⟨List.prefix_refl _, fun _ => rfl⟩

end Channel

end GridClient
