import GridClient.Network.Stream
import GridClient.Wire.Frame

/-!
Framed messages over a byte stream. What a failed receive got of a payload stays in the inbox; a
failed send leaves the stream in an unknown state, and the owner has to give it up.
-/

namespace GridClient

/-- A stream, and the payload of the latest message that came over it. -/
structure Channel (σ : Type) where
  stream : σ
  inbox : Bytes := []
  deriving DecidableEq, Repr

namespace Channel

variable {σ : Type} [ByteStream σ]

open ByteStream

/-- Writes a header, then a payload, and asks for both to be sent. -/
def send (payload : Bytes) (c : Channel σ) : Except Error Unit × Channel σ :=
  match Frame.encodeHeader payload.length with
  | .error e => (.error e, c)
  | .ok header =>
    match writeAll header c.stream with
    | (.error failure, s) => (.error (.transport failure), { c with stream := s })
    | (.ok (), s) =>
      match writeAll payload s with
      | (.error failure, s) => (.error (.transport failure), { c with stream := s })
      | (.ok (), s) =>
        match flush s with
        | (.error failure, s) => (.error (.transport failure), { c with stream := s })
        | (.ok (), s) => (.ok (), { c with stream := s })

/-- Reads a payload of a known size into the inbox. -/
def receivePayload (size : Nat) (s : σ) : Except Error Unit × Channel σ :=
  match fill size s with
  | (.whole, bytes, s) => (.ok (), ⟨s, bytes⟩)
  | (.ended, bytes, s) => (.error (.connectionClosed size bytes.length), ⟨s, bytes⟩)
  | (.failed failure, bytes, s) => (.error (.transport failure), ⟨s, bytes⟩)

/-- Reads one message into the inbox, in place of what it held. -/
def receive (c : Channel σ) : Except Error Unit × Channel σ :=
  match fill Frame.headerSize c.stream with
  | (.ended, _, s) => (.error (.transport .cutShort), ⟨s, []⟩)
  | (.failed failure, _, s) => (.error (.transport failure), ⟨s, []⟩)
  | (.whole, header, s) =>
    match Frame.decodeSize header with
    | .error e => (.error e, ⟨s, []⟩)
    | .ok size => receivePayload size s

theorem patience_send_le (payload : Bytes) (c : Channel σ) :
    patience (send payload c).2.stream ≤ patience c.stream := by
  unfold send
  split
  · exact Nat.le_refl _
  · rename_i header _
    have h1 := patience_writeAll_le header c.stream
    split
    · rename_i h; rw [h] at h1; exact h1
    · rename_i s1 h
      rw [h] at h1
      have h2 := patience_writeAll_le payload s1
      split
      · rename_i h; rw [h] at h2; exact Nat.le_trans h2 h1
      · rename_i s2 h
        rw [h] at h2
        have h3 := patience_flush_le s2
        split <;> rename_i h <;> rw [h] at h3 <;>
          exact Nat.le_trans h3 (Nat.le_trans h2 h1)

theorem patience_receivePayload_le (size : Nat) (s : σ) :
    patience (receivePayload size s).2.stream ≤ patience s := by
  have h := patience_fill_le size s
  unfold receivePayload
  split <;> rename_i hf <;> rw [hf] at h <;> exact Nat.le_of_add_right_le h

/-- A message that came uses up patience, if only for its header. -/
theorem patience_receive_lt (c : Channel σ) (h : (receive c).1 = .ok ()) :
    patience (receive c).2.stream < patience c.stream := by
  have hf := patience_fill_le Frame.headerSize c.stream
  have hw := length_fill_of_whole Frame.headerSize c.stream
  unfold receive at h ⊢
  split
  · rename_i hs; rw [hs] at h; simp at h
  · rename_i hs; rw [hs] at h; simp at h
  · rename_i header s hs
    rw [hs] at h hf hw
    split
    · rename_i hd; simp only [hd] at h; simp at h
    · rename_i size hd
      have hp := patience_receivePayload_le size s
      have hl : header.length = 4 := hw rfl
      simp only at hf
      omega

end Channel

end GridClient
