import GridClient.Proofs.BufferReading
import GridClient.Proofs.Segmentation

/-!
Messages that break off. A receive that fails leaves exactly the bytes of the payload that came in
the inbox, and tells what became of the others; it takes nothing off the stream that lies behind
the message. A send that fails has written a part of the message from its beginning.
-/
namespace GridClient

namespace ByteStream

variable {σ : Type} [ByteStream σ]

/-! ### Reading into a buffer of its size -/

/-- Fills a buffer from a place on with what is read, until it is full, the stream ends or a read
fails. Then the buffer is cut back to what came. -/
def fillInPlace (buffer : Bytes) (received : Nat) (s : σ) : Filling × Bytes × σ :=
  if received < buffer.length then
    match _h : read (buffer.length - received) s with
    | (.data [], s') => (.ended, buffer.take received, s')
    | (.data (b :: bytes), s') =>
      fillInPlace (buffer.take received ++ Bytes.overwrite (b :: bytes) (buffer.drop received))
        (received + (b :: bytes).length) s'
    | (.interrupted, s') => fillInPlace buffer received s'
    | (.failed failure, s') => (.failed failure, buffer.take received, s')
  else (.whole, buffer, s)
termination_by patience s
decreasing_by
  · have hp := patience_read_le (buffer.length - received) s
    rw [_h] at hp
    simp only [ReadEvent.cost, List.length_cons] at hp
    omega
  · have hp := patience_read_le (buffer.length - received) s
    rw [_h] at hp
    simp only [ReadEvent.cost] at hp
    omega

section InPlace

variable {front rest bytes : Bytes} {b : UInt8} {failure : TransportFailure} {s s' : σ}

theorem missing_append (front rest : Bytes) :
    (front ++ rest).length - front.length = rest.length := by
  rw [List.length_append, Nat.add_sub_cancel_left]

theorem lt_length_append (front : Bytes) (h : rest.length ≠ 0) :
    front.length < (front ++ rest).length := by
  rw [List.length_append]
  omega

theorem fillInPlace_of_ended (hne : rest.length ≠ 0)
    (h : read rest.length s = (.data [], s')) :
    fillInPlace (front ++ rest) front.length s = (.ended, front, s') := by
  rw [fillInPlace, if_pos (lt_length_append front hne)]
  rw [← missing_append front rest] at h
  split <;> rename_i hr <;> cases h.symm.trans hr
  rw [List.take_left]

theorem fillInPlace_of_data (h : read rest.length s = (.data (b :: bytes), s')) :
    fillInPlace (front ++ rest) front.length s =
      fillInPlace (front ++ b :: bytes ++ rest.drop (b :: bytes).length)
        (front ++ b :: bytes).length s' := by
  have hle := length_read_le rest.length s (b :: bytes) (by rw [h])
  have hne : rest.length ≠ 0 := Nat.ne_of_gt (Nat.lt_of_lt_of_le (Nat.succ_pos _) hle)
  rw [fillInPlace, if_pos (lt_length_append front hne)]
  rw [← missing_append front rest] at h
  split <;> rename_i hr <;> cases h.symm.trans hr
  rw [List.take_left, List.drop_left, Bytes.overwrite_of_le hle, List.append_assoc,
    List.length_append]

theorem fillInPlace_of_interrupted (hne : rest.length ≠ 0)
    (h : read rest.length s = (.interrupted, s')) :
    fillInPlace (front ++ rest) front.length s = fillInPlace (front ++ rest) front.length s' := by
  rw [fillInPlace, if_pos (lt_length_append front hne)]
  rw [← missing_append front rest] at h
  split <;> rename_i hr <;> cases h.symm.trans hr
  rfl

theorem fillInPlace_of_failed (hne : rest.length ≠ 0)
    (h : read rest.length s = (.failed failure, s')) :
    fillInPlace (front ++ rest) front.length s = (.failed failure, front, s') := by
  rw [fillInPlace, if_pos (lt_length_append front hne)]
  rw [← missing_append front rest] at h
  split <;> rename_i hr <;> cases h.symm.trans hr
  rw [List.take_left]

/-- Whatever the rest of a buffer is filled with beforehand, what comes of it is what was there in
front and what was read. -/
theorem fillInPlace_eq (front rest : Bytes) (s : σ) :
    fillInPlace (front ++ rest) front.length s =
      ((fill rest.length s).1, front ++ (fill rest.length s).2.1, (fill rest.length s).2.2) := by
  generalize hn : rest.length = n
  fun_induction fill n s generalizing front rest with
  | case1 s =>
    obtain rfl := List.eq_nil_of_length_eq_zero hn
    rw [fillInPlace, if_neg (by simp)]
  | case2 n s hne s' h =>
    subst hn
    rw [fillInPlace_of_ended hne h, List.append_nil]
  | case3 n s hne b bytes s' h filling more s'' hfill ih =>
    subst hn
    have ih := ih (front ++ b :: bytes) (rest.drop (b :: bytes).length) List.length_drop
    rw [fillInPlace_of_data h, ih, hfill, List.append_assoc]
  | case4 n s hne s' h ih =>
    subst hn
    rw [fillInPlace_of_interrupted hne h]
    exact ih front rest rfl
  | case5 n s hne failure s' h =>
    subst hn
    rw [fillInPlace_of_failed hne h, List.append_nil]

end InPlace

end ByteStream

namespace Channel

open ByteStream

variable {σ : Type} [ByteStream σ]

/-- Receives a message into an inbox that is blanked to the size of the payload first. -/
def receiveInPlace (c : Channel σ) : Except Error Unit × Channel σ :=
  match fill Frame.headerSize c.stream with
  | (.ended, _, s) => (.error (.transport .cutShort), ⟨s, []⟩)
  | (.failed failure, _, s) => (.error (.transport failure), ⟨s, []⟩)
  | (.whole, header, s) =>
    match Frame.decodeSize header with
    | .error e => (.error e, ⟨s, []⟩)
    | .ok size =>
      match fillInPlace (List.replicate size 0) 0 s with
      | (.whole, bytes, s) => (.ok (), ⟨s, bytes⟩)
      | (.ended, bytes, s) => (.error (.connectionClosed size bytes.length), ⟨s, bytes⟩)
      | (.failed failure, bytes, s) => (.error (.transport failure), ⟨s, bytes⟩)

/-- No blank is left over. -/
theorem receiveInPlace_eq (c : Channel σ) : c.receiveInPlace = c.receive := by
  have hblank (size : Nat) (s : σ) : fillInPlace (List.replicate size 0) 0 s = fill size s := by
    have h := fillInPlace_eq [] (List.replicate size 0) s
    rwa [List.length_replicate] at h
  rw [receiveInPlace, receive]
  obtain ⟨⟨filling, header, s⟩, hf⟩ : ∃ r, fill Frame.headerSize c.stream = r := ⟨_, rfl⟩
  rw [hf]
  cases filling with
  | ended | failed => rfl
  | whole =>
    simp only
    cases Frame.decodeSize header with
    | error e => rfl
    | ok size =>
      simp only [hblank]
      rfl

end Channel

/-! ### Scripts -/

namespace ScriptedStream

open ByteStream

variable {s s' : ScriptedStream} {n : Nat} {bytes taken : Bytes}

/-- The bytes that a script has still to give. -/
def unread (s : ScriptedStream) : Bytes := ReadEvent.allBytes s.reads

theorem unread_read {event : ReadEvent} (h : ByteStream.read n s = (event, s')) :
    s.unread = event.bytes ++ s'.unread := by
  obtain ⟨reads, writes, flushFailure, written⟩ := s
  have hread : ScriptedStream.read ⟨reads, writes, flushFailure, written⟩ n = (event, s') := h
  cases reads with
  | nil =>
    cases hread
    rfl
  | cons first reads =>
    cases first with
    | interrupted =>
      cases hread
      rfl
    | failed failure =>
      cases hread
      rfl
    | data bytes =>
      rw [ScriptedStream.read] at hread
      by_cases hle : bytes.length ≤ n
      · simp only [if_pos hle] at hread
        cases hread
        rfl
      · simp only [if_neg hle] at hread
        cases hread
        show bytes ++ ReadEvent.allBytes reads =
          bytes.take n ++ (bytes.drop n ++ ReadEvent.allBytes reads)
        rw [← List.append_assoc, List.take_append_drop]

theorem unread_attempts {events : List ReadEvent} (h : Attempts n s events s') :
    s.unread = ReadEvent.allBytes events ++ s'.unread := by
  induction h with
  | whole s => rfl
  | ended missing read =>
    rw [unread_read read]
    rfl
  | failed missing read =>
    rw [unread_read read]
    rfl
  | interrupted missing read rest ih =>
    rw [unread_read read, ih]
    rfl
  | some missing read rest ih =>
    rw [unread_read read, ih, ← List.append_assoc]
    rfl

/-- The bytes of a message, and no others, are gone from the script of a stream that it was received
from. -/
theorem unread_receives {c c' : Channel ScriptedStream} {result : Except Error Unit}
    (h : c.Receives result c') :
    ∃ header, c.stream.unread = header ++ c'.inbox ++ c'.stream.unread ∧
      header.length ≤ Frame.headerSize ∧ (c'.inbox ≠ [] → header.length = Frame.headerSize) := by
  cases h with
  | headerEnded reads tells | headerFailed reads tells =>
    refine ⟨_, ?_, Nat.le_of_lt tells.1, fun h => absurd rfl h⟩
    rw [unread_attempts reads, List.append_nil]
  | negative announces below =>
    refine ⟨_, ?_, Nat.le_of_eq announces.tells, fun h => absurd rfl h⟩
    rw [unread_attempts announces.reads, List.append_nil]
  | ended announces reads tells | failed announces reads tells | received announces reads tells =>
    refine ⟨_, ?_, Nat.le_of_eq announces.tells, fun _ => announces.tells⟩
    rw [unread_attempts announces.reads, unread_attempts reads, List.append_assoc]

theorem written_write {event : WriteEvent} (h : ByteStream.write bytes s = (event, s')) :
    s'.written = s.written ++ event.taken bytes := by
  obtain ⟨reads, writes, flushFailure, written⟩ := s
  have hwrite : ScriptedStream.write ⟨reads, writes, flushFailure, written⟩ bytes = (event, s') := h
  cases writes with
  | nil =>
    cases hwrite
    show written ++ bytes = written ++ bytes.take bytes.length
    rw [List.take_length]
  | cons first writes =>
    cases first with
    | accepted limit =>
      cases hwrite
      show written ++ bytes.take limit = written ++ bytes.take (min limit bytes.length)
      rw [← List.take_eq_take_min]
    | interrupted =>
      cases hwrite
      exact (List.append_nil written).symm
    | failed failure =>
      cases hwrite
      exact (List.append_nil written).symm

theorem written_offers {result : Except TransportFailure Unit}
    (h : Offers bytes s taken result s') : s'.written = s.written ++ taken := by
  induction h with
  | all s => exact (List.append_nil _).symm
  | none left write => exact written_write write
  | failed left write => exact written_write write
  | interrupted left write rest ih =>
    rw [ih, written_write write]
    exact congrArg (· ++ _) (List.append_nil _)
  | some left write rest ih =>
    rw [ih, written_write write, List.append_assoc]
    rfl

theorem written_flush {result : Except TransportFailure Unit}
    (h : ByteStream.flush s = (result, s')) : s'.written = s.written := by
  have hflush : ScriptedStream.flush s = (result, s') := h
  rw [ScriptedStream.flush] at hflush
  split at hflush <;> cases hflush <;> rfl

theorem written_sends {c : Channel ScriptedStream} {payload : Bytes} {result : Except Error Unit}
    (h : c.Sends payload taken result s') : s'.written = c.stream.written ++ taken := by
  cases h with
  | oversized long => exact (List.append_nil _).symm
  | headerCut short offers => exact written_offers offers
  | payloadCut short offers offers' =>
    rw [written_offers offers', written_offers offers, List.append_assoc]
  | unflushed short offers offers' unflushed =>
    rw [written_flush unflushed, written_offers offers', written_offers offers, List.append_assoc]
  | sent short offers offers' flushed =>
    rw [written_flush flushed, written_offers offers', written_offers offers, List.append_assoc]

end ScriptedStream

/-- Whatever a stream does, a receive leaves in the inbox the bytes of the payload that came and no
others, and tells what kept it from the rest. A send has the stream take a beginning of the frame,
and all of it when it succeeds. -/
theorem Channel.broken_off_messages_true {σ : Type} [ByteStream σ] (c : Channel σ)
    (payload : Bytes) :
    c.Receives c.receive.1 c.receive.2 ∧ c.receiveInPlace = c.receive ∧
    (∃ taken, c.Sends payload taken (c.send payload).1 (c.send payload).2.stream ∧
      taken <+: Frame.encode payload ∧
      ((c.send payload).1 = .ok () → taken = Frame.encode payload)) ∧
    ∀ c : Channel ScriptedStream,
      (∃ header, c.stream.unread = header ++ c.receive.2.inbox ++ c.receive.2.stream.unread ∧
        header.length ≤ Frame.headerSize ∧
        (c.receive.2.inbox ≠ [] → header.length = Frame.headerSize)) ∧
      ∃ taken, (c.send payload).2.stream.written = c.stream.written ++ taken ∧
        taken <+: Frame.encode payload := by
  refine ⟨receives_receive c, receiveInPlace_eq c, ?_, fun c => ⟨?_, ?_⟩⟩
  · obtain ⟨taken, hsends⟩ := exists_sends c payload
    exact ⟨taken, hsends, hsends.taken_prefix⟩
  · exact ScriptedStream.unread_receives (receives_receive c)
  · obtain ⟨taken, hsends⟩ := exists_sends c payload
    exact ⟨taken, ScriptedStream.written_sends hsends, hsends.taken_prefix.1⟩

end GridClient
