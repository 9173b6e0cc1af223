import GridClient.Network.Scripted
import GridClient.Proofs.Lockstep

/-!
Messages over streams that take and give bytes in pieces of any size and may be interrupted at any
call. What is received depends on the bytes alone, and messages come out as they went in.
-/
namespace GridClient

namespace ByteStream

/-- A stream that takes whatever is written to it, some bytes at each attempt unless that is
interrupted, told by the bytes that a state has taken. -/
structure Sink (σ : Type) [ByteStream σ] where
  Taken : σ → Bytes → Prop
  taken_write {s : σ} {before bytes : Bytes} (h : Taken s before) (hne : bytes ≠ []) :
    (∃ s', write bytes s = (.interrupted, s') ∧ Taken s' before) ∨
    ∃ n s', write bytes s = (.accepted (n + 1), s') ∧ Taken s' (before ++ bytes.take (n + 1))
  taken_flush {s : σ} {before : Bytes} (h : Taken s before) :
    ∃ s', flush s = (.ok (), s') ∧ Taken s' before

/-- A stream that never fails, told by the bytes that are still to come from a state: each attempt
to read gives a piece of them unless it is interrupted, and nothing only when there are none. -/
structure Source (σ : Type) [ByteStream σ] where
  Ahead : σ → Bytes → Prop
  ahead_read {s : σ} {bytes : Bytes} {n : Nat} (h : Ahead s bytes) (hn : n ≠ 0) :
    (∃ s', read n s = (.interrupted, s') ∧ Ahead s' bytes) ∨
    ∃ piece rest s', read n s = (.data piece, s') ∧ bytes = piece ++ rest ∧
      (piece = [] → bytes = []) ∧ Ahead s' rest

variable {σ : Type} [ByteStream σ] {s : σ} {before bytes : Bytes}

/-- Bytes are written whole, in whatever pieces they are taken. -/
theorem Sink.writeAll_of_taken (sink : Sink σ) (h : sink.Taken s before) (bytes : Bytes) :
    ∃ s', writeAll bytes s = (.ok (), s') ∧ sink.Taken s' (before ++ bytes) := by
  fun_induction writeAll bytes s generalizing before with
  | case1 s => exact ⟨s, rfl, by rwa [List.append_nil]⟩
  | case2 bytes s hne s' hw =>
    obtain ⟨_, hi, _⟩ | ⟨n, _, ha, _⟩ := sink.taken_write h hne
    · cases hw.symm.trans hi
    · cases hw.symm.trans ha
  | case3 bytes s hne n s' hw ih =>
    obtain ⟨_, hi, _⟩ | ⟨m, s'', ha, htaken⟩ := sink.taken_write h hne
    · cases hw.symm.trans hi
    · cases hw.symm.trans ha
      obtain ⟨last, hrest, hlast⟩ := ih htaken
      rw [List.append_assoc, List.take_append_drop] at hlast
      exact ⟨last, hrest, hlast⟩
  | case4 bytes s hne s' hw ih =>
    obtain ⟨_, hi, htaken⟩ | ⟨n, _, ha, _⟩ := sink.taken_write h hne
    · cases hw.symm.trans hi
      exact ih htaken
    · cases hw.symm.trans ha
  | case5 bytes s hne failure s' hw =>
    obtain ⟨_, hi, _⟩ | ⟨n, _, ha, _⟩ := sink.taken_write h hne
    · cases hw.symm.trans hi
    · cases hw.symm.trans ha

/-- As many bytes are read as are asked for, or all that come, in whatever pieces they come. -/
theorem Source.fill_of_ahead (source : Source σ) (h : source.Ahead s bytes) (n : Nat) :
    ∃ s', fill n s = (if n ≤ bytes.length then .whole else .ended, bytes.take n, s') ∧
      source.Ahead s' (bytes.drop n) := by
  fun_induction fill n s generalizing bytes with
  | case1 s => exact ⟨s, rfl, h⟩
  | case2 n s hn s' hr =>
    obtain ⟨_, hi, _⟩ | ⟨piece, rest, _, hd, rfl, hnil, hrest⟩ := source.ahead_read h hn
    · cases hr.symm.trans hi
    · cases hr.symm.trans hd
      cases hnil rfl
      refine ⟨s', ?_, by rwa [List.append_nil, List.drop_nil]⟩
      rw [List.append_nil, if_neg (by simpa using hn), List.take_nil]
  | case3 n s hn b piece s' hr filling more s'' hfill ih =>
    have hle := length_read_le n s (b :: piece) (by rw [hr])
    obtain ⟨_, hi, _⟩ | ⟨_, rest, _, hd, rfl, _, hrest⟩ := source.ahead_read h hn
    · cases hr.symm.trans hi
    · cases hr.symm.trans hd
      obtain ⟨last, heq, hlast⟩ := ih hrest
      cases hfill.symm.trans heq
      refine ⟨s'', ?_, ?_⟩
      · rw [List.take_append, List.take_of_length_le hle, List.length_append]
        simp only [Nat.sub_le_iff_le_add']
      · rwa [List.drop_append, List.drop_eq_nil_of_le hle, List.nil_append]
  | case4 n s hn s' hr ih =>
    obtain ⟨_, hi, hahead⟩ | ⟨_, _, _, hd, _⟩ := source.ahead_read h hn
    · cases hr.symm.trans hi
      exact ih hahead
    · cases hr.symm.trans hd
  | case5 n s hn failure s' hr =>
    obtain ⟨_, hi, _⟩ | ⟨_, _, _, hd, _⟩ := source.ahead_read h hn
    · cases hr.symm.trans hi
    · cases hr.symm.trans hd

end ByteStream

/-! ### Receiving from bytes -/

namespace Frame

/-- What it comes to to receive a message when these are the last bytes of a stream: the result,
what is left in the inbox, and the bytes that are left to come. -/
def receive (bytes : Bytes) : Except Error Unit × Bytes × Bytes :=
  if headerSize ≤ bytes.length then
    match decodeSize (bytes.take headerSize) with
    | .error e => (.error e, [], bytes.drop headerSize)
    | .ok size =>
      let rest := bytes.drop headerSize
      (if size ≤ rest.length then .ok () else .error (.connectionClosed size rest.length),
        rest.take size, rest.drop size)
  else (.error (.transport .cutShort), [], [])

/-- The results and inboxes of `n` attempts to receive a message, one after another, and the bytes
that are left to come. -/
def receiveAll : Nat → Bytes → List (Except Error Unit × Bytes) × Bytes
  | 0, bytes => ([], bytes)
  | n + 1, bytes =>
    let (result, inbox, rest) := receive bytes
    let (received, rest) := receiveAll n rest
    ((result, inbox) :: received, rest)

theorem receive_encode_append {payload : Bytes} (rest : Bytes) (h : payload.length < 0x80000000) :
    receive (encode payload ++ rest) = (.ok (), payload, rest) := by
  have hl := LittleEndian.length_encode headerSize payload.length
  have hle : headerSize ≤ (encode payload ++ rest).length := by
    rw [encode, List.append_assoc, List.length_append, hl]
    exact Nat.le_add_right _ _
  have htake : (encode payload ++ rest).take headerSize =
      LittleEndian.encode headerSize payload.length := by
    rw [encode, List.append_assoc]
    exact List.take_left' hl
  have hdrop : (encode payload ++ rest).drop headerSize = payload ++ rest := by
    rw [encode, List.append_assoc]
    exact List.drop_left' hl
  have hsize : payload.length ≤ (payload ++ rest).length := by
    rw [List.length_append]
    exact Nat.le_add_right _ _
  simp only [receive, if_pos hle, htake, hdrop, decodeSize_encode h, if_pos hsize, List.take_left,
    List.drop_left]

theorem receiveAll_encodeAll {payloads : List Bytes}
    (h : ∀ payload ∈ payloads, payload.length < 0x80000000) :
    receiveAll payloads.length (encodeAll payloads) =
      (payloads.map fun payload => (.ok (), payload), []) := by
  induction payloads with
  | nil => rfl
  | cons payload payloads ih =>
    have hfirst := receive_encode_append (encodeAll payloads) (h _ List.mem_cons_self)
    have hrest := ih fun payload hmem => h payload (List.mem_cons_of_mem _ hmem)
    show receiveAll (payloads.length + 1) (encode payload ++ encodeAll payloads) = _
    simp only [receiveAll, hfirst, hrest, List.map_cons]

end Frame

/-! ### Channels -/

namespace Channel

open ByteStream

variable {σ τ : Type} [ByteStream σ] [ByteStream τ]

/-- Sends messages, one after another. -/
def sendAll : Channel σ → List Bytes → List (Except Error Unit) × Channel σ
  | c, [] => ([], c)
  | c, payload :: payloads =>
    let (result, c) := c.send payload
    let (results, c) := c.sendAll payloads
    (result :: results, c)

/-- Tries to receive a message `n` times, with what is in the inbox after each attempt. -/
def receiveAll : Nat → Channel σ → List (Except Error Unit × Bytes) × Channel σ
  | 0, c => ([], c)
  | n + 1, c =>
    let (result, c) := c.receive
    let (received, last) := c.receiveAll n
    ((result, c.inbox) :: received, last)

variable {c : Channel σ} {before bytes : Bytes}

/-- A message goes out as its frame. -/
theorem send_of_taken (sink : Sink σ) (h : sink.Taken c.stream before) {payload : Bytes}
    (hlt : payload.length < 0x80000000) :
    ∃ c' : Channel σ, c.send payload = (.ok (), c') ∧
      sink.Taken c'.stream (before ++ Frame.encode payload) := by
  obtain ⟨s₁, hheader, h₁⟩ := sink.writeAll_of_taken h
    (LittleEndian.encode Frame.headerSize payload.length)
  obtain ⟨s₂, hpayload, h₂⟩ := sink.writeAll_of_taken h₁ payload
  obtain ⟨s₃, hflush, h₃⟩ := sink.taken_flush h₂
  refine ⟨{ c with stream := s₃ }, ?_, ?_⟩
  · rw [send, Frame.encodeHeader_of_lt hlt]
    simp only [hheader, hpayload, hflush]
  · rwa [List.append_assoc] at h₃

theorem sendAll_of_taken (sink : Sink σ) (h : sink.Taken c.stream before) {payloads : List Bytes}
    (hlt : ∀ payload ∈ payloads, payload.length < 0x80000000) :
    ∃ c' : Channel σ, c.sendAll payloads = (payloads.map fun _ => .ok (), c') ∧
      sink.Taken c'.stream (before ++ Frame.encodeAll payloads) := by
  induction payloads generalizing c before with
  | nil => exact ⟨c, rfl, by rwa [Frame.encodeAll, List.flatMap_nil, List.append_nil]⟩
  | cons payload payloads ih =>
    obtain ⟨c₁, hsend, h₁⟩ := send_of_taken sink h (hlt _ List.mem_cons_self)
    obtain ⟨c₂, hrest, h₂⟩ := ih h₁ fun payload hmem => hlt payload (List.mem_cons_of_mem _ hmem)
    refine ⟨c₂, ?_, ?_⟩
    · simp only [sendAll, hsend, hrest, List.map_cons]
    · rwa [List.append_assoc] at h₂

/-- What is received is a matter of the bytes, not of how they come. -/
theorem receive_of_ahead (source : Source σ) (h : source.Ahead c.stream bytes) :
    ∃ s, c.receive = ((Frame.receive bytes).1, ⟨s, (Frame.receive bytes).2.1⟩) ∧
      source.Ahead s (Frame.receive bytes).2.2 := by
  obtain ⟨s₁, hheader, h₁⟩ := source.fill_of_ahead h Frame.headerSize
  rw [receive, Frame.receive, hheader]
  by_cases hle : Frame.headerSize ≤ bytes.length
  · simp only [if_pos hle]
    cases Frame.decodeSize (bytes.take Frame.headerSize) with
    | error e => exact ⟨s₁, rfl, h₁⟩
    | ok size =>
      obtain ⟨s₂, hpayload, h₂⟩ := source.fill_of_ahead h₁ size
      simp only [receivePayload, hpayload]
      refine ⟨s₂, ?_, h₂⟩
      by_cases hsize : size ≤ (bytes.drop Frame.headerSize).length
      · simp only [if_pos hsize]
      · have htake : (bytes.drop Frame.headerSize).take size = bytes.drop Frame.headerSize :=
          List.take_of_length_le (by omega)
        simp only [if_neg hsize, htake]
  · have hnil : bytes.drop Frame.headerSize = [] := List.drop_eq_nil_of_le (by omega)
    simp only [if_neg hle]
    exact ⟨s₁, rfl, hnil ▸ h₁⟩

theorem receiveAll_of_ahead (source : Source σ) (h : source.Ahead c.stream bytes) (n : Nat) :
    (c.receiveAll n).1 = (Frame.receiveAll n bytes).1 ∧
      source.Ahead (c.receiveAll n).2.stream (Frame.receiveAll n bytes).2 := by
  induction n generalizing c bytes with
  | zero => exact ⟨rfl, h⟩
  | succ n ih =>
    obtain ⟨s, hreceive, hrest⟩ := receive_of_ahead source h
    obtain ⟨hresults, hlast⟩ := ih (c := ⟨s, (Frame.receive bytes).2.1⟩) hrest
    simp only [receiveAll, Frame.receiveAll, hreceive, hresults]
    exact ⟨trivial, hlast⟩

end Channel

/-! ### Scripts -/

/-- The attempt is interrupted or takes something. -/
def WriteEvent.proceeds : WriteEvent → Bool
  | accepted count => 0 < count
  | interrupted => true
  | failed _ => false

/-- The attempt is interrupted or gives something. -/
def ReadEvent.proceeds : ReadEvent → Bool
  | data bytes => !bytes.isEmpty
  | interrupted => true
  | failed _ => false

namespace ScriptedStream

variable {s : ScriptedStream}

/-- Scripts of writes that all proceed. -/
def sink : ByteStream.Sink ScriptedStream where
  Taken s bytes := s.written = bytes ∧ s.flushFailure = none ∧ s.writes.all WriteEvent.proceeds
  taken_write := by
    rintro ⟨reads, writes, flushFailure, written⟩ _ bytes ⟨rfl, hflush, hall⟩ hne
    have hlen := List.length_pos_iff.mpr hne
    cases writes with
    | nil =>
      refine .inr ⟨bytes.length - 1, ⟨reads, [], flushFailure, written ++ bytes⟩, ?_, ?_⟩
      · rw [Nat.sub_add_cancel hlen]
        rfl
      · rw [Nat.sub_add_cancel hlen, List.take_length]
        exact ⟨rfl, hflush, rfl⟩
    | cons event writes =>
      rw [List.all_cons, Bool.and_eq_true] at hall
      cases event with
      | interrupted => exact .inl ⟨_, rfl, rfl, hflush, hall.2⟩
      | failed failure => cases hall.1
      | accepted limit =>
        have hlimit : 0 < limit := of_decide_eq_true hall.1
        have hmin : min limit bytes.length - 1 + 1 = min limit bytes.length := by omega
        refine .inr ⟨min limit bytes.length - 1,
          ⟨reads, writes, flushFailure, written ++ bytes.take limit⟩, ?_, ?_⟩
        · rw [hmin]
          rfl
        · rw [hmin, ← List.take_eq_take_min]
          exact ⟨rfl, hflush, hall.2⟩
  taken_flush := by
    rintro ⟨reads, writes, flushFailure, written⟩ before ⟨hwritten, rfl, hall⟩
    exact ⟨_, rfl, hwritten, rfl, hall⟩

/-- Scripts of reads that all proceed. -/
def source : ByteStream.Source ScriptedStream where
  Ahead s bytes := s.reads.flatMap ReadEvent.bytes = bytes ∧ s.reads.all ReadEvent.proceeds
  ahead_read := by
    rintro ⟨reads, writes, flushFailure, written⟩ _ n ⟨rfl, hall⟩ hn
    cases reads with
    | nil => exact .inr ⟨[], [], _, rfl, rfl, fun _ => rfl, rfl, rfl⟩
    | cons event reads =>
      rw [List.all_cons, Bool.and_eq_true] at hall
      cases event with
      | interrupted => exact .inl ⟨_, rfl, rfl, hall.2⟩
      | failed failure => cases hall.1
      | data bytes =>
        have hne : bytes ≠ [] := by simpa [ReadEvent.proceeds] using hall.1
        have hread : ByteStream.read n (⟨.data bytes :: reads, writes, flushFailure, written⟩ :
          ScriptedStream) = ScriptedStream.read _ n := rfl
        rw [hread, ScriptedStream.read]
        by_cases hle : bytes.length ≤ n
        · simp only [if_pos hle]
          exact .inr ⟨bytes, _, _, rfl, rfl, fun h => absurd h hne, rfl, hall.2⟩
        · simp only [if_neg hle]
          refine .inr ⟨bytes.take n, bytes.drop n ++ reads.flatMap ReadEvent.bytes, _, rfl, ?_, ?_,
            rfl, ?_⟩
          · rw [← List.append_assoc, List.take_append_drop]
            rfl
          · intro h
            exact absurd h (by simp [hn, hne])
          · rw [List.all_cons, Bool.and_eq_true]
            refine ⟨?_, hall.2⟩
            simpa [ReadEvent.proceeds] using hle

end ScriptedStream

/-! ### Round trip -/

namespace Channel

open ByteStream

variable {σ τ τ' : Type} [ByteStream σ] [ByteStream τ] [ByteStream τ']

/-- Messages come out of any stream that gives their frames in pieces as they went in, in their
order, with no byte left. What is received of some bytes is the same however a stream cuts them. -/
theorem received_as_sent (sink : Sink σ) (source : Source τ) (source' : Source τ') :
    (∀ {payloads : List Bytes} {sender : Channel σ} {before : Bytes},
      (∀ payload ∈ payloads, payload.length < 0x80000000) → sink.Taken sender.stream before →
      ∃ sender', sender.sendAll payloads = (payloads.map fun _ => .ok (), sender') ∧
        sink.Taken sender'.stream (before ++ Frame.encodeAll payloads) ∧
        ∀ receiver : Channel τ, source.Ahead receiver.stream (Frame.encodeAll payloads) →
          ∃ receiver', receiver.receiveAll payloads.length =
              (payloads.map fun payload => (.ok (), payload), receiver') ∧
            source.Ahead receiver'.stream []) ∧
    ∀ {bytes : Bytes} {c : Channel τ} {c' : Channel τ'}, source.Ahead c.stream bytes →
      source'.Ahead c'.stream bytes → ∀ n, (c.receiveAll n).1 = (c'.receiveAll n).1 := by
  refine ⟨fun {payloads sender before} hlt hsender => ?_, fun {bytes c c'} h h' n => ?_⟩
  · obtain ⟨sender', hsend, htaken⟩ := sendAll_of_taken sink hsender hlt
    refine ⟨sender', hsend, htaken, fun receiver hreceiver => ?_⟩
    obtain ⟨hresults, hlast⟩ := receiveAll_of_ahead source hreceiver payloads.length
    rw [Frame.receiveAll_encodeAll hlt] at hresults hlast
    exact ⟨_, Prod.ext hresults rfl, hlast⟩
  · rw [(receiveAll_of_ahead source h n).1, (receiveAll_of_ahead source' h' n).1]

/-- Three messages, taken and given in pieces that break off inside headers and reach over several
frames. -/
theorem received_as_sent_in_pieces :
    let payloads : List Bytes := [[1, 2], [], [3]]
    let sender : Channel ScriptedStream :=
      ⟨{ writes := [.interrupted, .accepted 3, .accepted 9, .interrupted, .accepted 1] }, []⟩
    let receiver : Channel ScriptedStream :=
      ⟨{ reads := [.data [2, 0], .interrupted, .data [0, 0, 1, 2, 0, 0, 0, 0, 1], .interrupted,
          .interrupted, .data [0, 0, 0, 3]] }, [7]⟩
    let whole : Channel ScriptedStream :=
      ⟨{ reads := [.data [2, 0, 0, 0, 1, 2, 0, 0, 0, 0, 1, 0, 0, 0, 3]] }, []⟩
    (∀ payload ∈ payloads, payload.length < 0x80000000) ∧
      ScriptedStream.sink.Taken sender.stream [] ∧
      ScriptedStream.source.Ahead receiver.stream (Frame.encodeAll payloads) ∧
      ScriptedStream.source.Ahead whole.stream (Frame.encodeAll payloads) ∧
      (sender.sendAll payloads).2.stream.written = Frame.encodeAll payloads ∧
      (receiver.receiveAll 3).1 = payloads.map (fun payload => (.ok (), payload)) ∧
      (receiver.receiveAll 4).1 = (whole.receiveAll 4).1 := by
  intro payloads sender receiver whole
  have hlt : ∀ payload ∈ payloads, payload.length < 0x80000000 := by decide
  have hsender : ScriptedStream.sink.Taken sender.stream [] := ⟨rfl, rfl, rfl⟩
  have hreceiver : ScriptedStream.source.Ahead receiver.stream (Frame.encodeAll payloads) :=
    ⟨rfl, rfl⟩
  have hwhole : ScriptedStream.source.Ahead whole.stream (Frame.encodeAll payloads) := ⟨rfl, rfl⟩
  obtain ⟨htrip, hpieces⟩ :=
    received_as_sent ScriptedStream.sink ScriptedStream.source ScriptedStream.source
  obtain ⟨sender', hsend, htaken, hreceive⟩ := htrip hlt hsender
  obtain ⟨receiver', hresults, _⟩ := hreceive receiver hreceiver
  refine ⟨hlt, hsender, hreceiver, hwhole, ?_, congrArg Prod.fst hresults,
    hpieces hreceiver hwhole 4⟩
  rw [hsend]
  exact htaken.1

end Channel

end GridClient
