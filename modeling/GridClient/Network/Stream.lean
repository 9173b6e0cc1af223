import GridClient.Bytes
import GridClient.Error

/-!
Byte streams as a client sees them: each attempt to read or write gives an event. Every byte that
is read and every interruption uses up some of the stream's patience, a number fixed in advance,
so that a client that keeps trying comes to an end.
-/

namespace GridClient

/-- What an attempt to read finds. -/
inductive ReadEvent where
  /-- Some bytes, or none at the end of the stream. -/
  | data (bytes : Bytes)
  | interrupted
  | failed (failure : TransportFailure)
  deriving DecidableEq, Repr

/-- The patience that an attempt to read uses up. -/
def ReadEvent.cost : ReadEvent → Nat
  | data bytes => bytes.length
  | interrupted => 1
  | failed _ => 0

/-- What an attempt to write finds. -/
inductive WriteEvent where
  /-- So many of the bytes were taken. -/
  | accepted (count : Nat)
  | interrupted
  | failed (failure : TransportFailure)
  deriving DecidableEq, Repr

/-- The patience that an attempt to write uses up. -/
def WriteEvent.cost : WriteEvent → Nat
  | interrupted => 1
  | accepted _ | failed _ => 0

/-- A stream of bytes in both directions. -/
class ByteStream (σ : Type) where
  /-- Tries to read at most so many bytes. -/
  read : Nat → σ → ReadEvent × σ
  /-- Tries to write some bytes. -/
  write : Bytes → σ → WriteEvent × σ
  /-- Asks for what was written to be sent. -/
  flush : σ → Except TransportFailure Unit × σ
  /-- A bound on the bytes and the interruptions still to come. -/
  patience : σ → Nat
  length_read_le (limit : Nat) (s : σ) (bytes : Bytes) :
    (read limit s).1 = .data bytes → bytes.length ≤ limit
  patience_read_le (limit : Nat) (s : σ) :
    patience (read limit s).2 + (read limit s).1.cost ≤ patience s
  patience_write_le (bytes : Bytes) (s : σ) :
    patience (write bytes s).2 + (write bytes s).1.cost ≤ patience s
  patience_flush_le (s : σ) : patience (flush s).2 ≤ patience s

namespace ByteStream

variable {σ : Type} [ByteStream σ]

/-- How an attempt to read a given number of bytes ends. -/
inductive Filling where
  | whole
  /-- The stream ended first. -/
  | ended
  | failed (failure : TransportFailure)
  deriving DecidableEq, Repr

/-- Reads until there are `n` bytes, the stream ends or a read fails; what was read so far is
there in any case. Interruptions are tried again. -/
def fill (n : Nat) (s : σ) : Filling × Bytes × σ :=
  if n = 0 then (.whole, [], s)
  else match _h : read n s with
    | (.data [], s') => (.ended, [], s')
    | (.data (b :: bytes), s') =>
      let (filling, more, s'') := fill (n - (b :: bytes).length) s'
      (filling, b :: bytes ++ more, s'')
    | (.interrupted, s') => fill n s'
    | (.failed failure, s') => (.failed failure, [], s')
termination_by patience s
decreasing_by
  · have hp := patience_read_le n s
    rw [_h] at hp
    simp only [ReadEvent.cost, List.length_cons] at hp
    omega
  · have hp := patience_read_le n s
    rw [_h] at hp
    simp only [ReadEvent.cost] at hp
    omega

/-- Writes all the bytes. Interruptions are tried again; a write that takes nothing is a failure. -/
def writeAll (bytes : Bytes) (s : σ) : Except TransportFailure Unit × σ :=
  if bytes = [] then (.ok (), s)
  else match h : write bytes s with
    | (.accepted 0, s') => (.error .nothingAccepted, s')
    | (.accepted (n + 1), s') => writeAll (bytes.drop (n + 1)) s'
    | (.interrupted, s') => writeAll bytes s'
    | (.failed failure, s') => (.error failure, s')
termination_by (bytes.length, patience s)
decreasing_by
  · apply Prod.Lex.left
    have : 0 < bytes.length := List.length_pos_iff.mpr (by assumption)
    simp only [List.length_drop]
    omega
  · apply Prod.Lex.right
    have hp := patience_write_le bytes s
    rw [h] at hp
    simp only [WriteEvent.cost] at hp
    omega

/-! ### One event at a time -/

section Events

variable {n : Nat} {bytes : Bytes} {b : UInt8} {failure : TransportFailure} {s s' : σ}

theorem fill_zero (s : σ) : fill 0 s = (.whole, [], s) := by
  rw [fill, if_pos rfl]

theorem fill_of_ended (hne : n ≠ 0) (h : read n s = (.data [], s')) :
    fill n s = (.ended, [], s') := by
  rw [fill, if_neg hne]
  split <;> rename_i hr <;> cases h.symm.trans hr
  rfl

theorem fill_of_data (hne : n ≠ 0) (h : read n s = (.data (b :: bytes), s')) :
    fill n s = ((fill (n - (b :: bytes).length) s').1,
      b :: bytes ++ (fill (n - (b :: bytes).length) s').2.1,
      (fill (n - (b :: bytes).length) s').2.2) := by
  rw [fill, if_neg hne]
  split <;> rename_i hr <;> cases h.symm.trans hr
  rfl

theorem fill_of_interrupted (hne : n ≠ 0) (h : read n s = (.interrupted, s')) :
    fill n s = fill n s' := by
  rw [fill, if_neg hne]
  split <;> rename_i hr <;> cases h.symm.trans hr
  rfl

theorem fill_of_failed (hne : n ≠ 0) (h : read n s = (.failed failure, s')) :
    fill n s = (.failed failure, [], s') := by
  rw [fill, if_neg hne]
  split <;> rename_i hr <;> cases h.symm.trans hr
  rfl

theorem writeAll_nil (s : σ) : writeAll [] s = (.ok (), s) := by
  rw [writeAll, if_pos rfl]

theorem writeAll_of_none (hne : bytes ≠ []) (h : write bytes s = (.accepted 0, s')) :
    writeAll bytes s = (.error .nothingAccepted, s') := by
  rw [writeAll, if_neg hne]
  split <;> rename_i hw <;> cases h.symm.trans hw
  rfl

theorem writeAll_of_accepted (hne : bytes ≠ []) (h : write bytes s = (.accepted (n + 1), s')) :
    writeAll bytes s = writeAll (bytes.drop (n + 1)) s' := by
  rw [writeAll, if_neg hne]
  split <;> rename_i hw <;> cases h.symm.trans hw
  rfl

theorem writeAll_of_interrupted (hne : bytes ≠ []) (h : write bytes s = (.interrupted, s')) :
    writeAll bytes s = writeAll bytes s' := by
  rw [writeAll, if_neg hne]
  split <;> rename_i hw <;> cases h.symm.trans hw
  rfl

theorem writeAll_of_failed (hne : bytes ≠ []) (h : write bytes s = (.failed failure, s')) :
    writeAll bytes s = (.error failure, s') := by
  rw [writeAll, if_neg hne]
  split <;> rename_i hw <;> cases h.symm.trans hw
  rfl

end Events

theorem patience_fill_le (n : Nat) (s : σ) :
    patience (fill n s).2.2 + (fill n s).2.1.length ≤ patience s := by
  fun_induction fill n s with
  | case1 => simp
  | case2 n s _ s' h =>
    have hp := patience_read_le n s
    rw [h] at hp
    simpa [ReadEvent.cost] using hp
  | case3 n s _ b bytes s' h filling more s'' hfill ih =>
    have hp := patience_read_le n s
    rw [h] at hp
    simp only [ReadEvent.cost, List.length_cons] at hp
    simp only [hfill] at ih
    simp only [List.cons_append, List.length_cons, List.length_append]
    omega
  | case4 n s _ s' h ih =>
    have hp := patience_read_le n s
    rw [h] at hp
    simp only [ReadEvent.cost] at hp
    omega
  | case5 n s _ failure s' h =>
    have hp := patience_read_le n s
    rw [h] at hp
    simpa [ReadEvent.cost] using hp

theorem length_fill_of_whole (n : Nat) (s : σ) (h : (fill n s).1 = .whole) :
    (fill n s).2.1.length = n := by
  fun_induction fill n s with
  | case1 => simp
  | case2 => simp at h
  | case3 n s _ b bytes s' hread filling more s'' hfill ih =>
    have hle := length_read_le n s (b :: bytes) (by rw [hread])
    simp only [hfill] at ih
    have := ih h
    simp only [List.cons_append, List.length_cons, List.length_append] at this hle ⊢
    omega
  | case4 n s _ s' _ ih => exact ih h
  | case5 => simp at h

theorem length_fill_lt (n : Nat) (s : σ) (h : (fill n s).1 ≠ .whole) :
    (fill n s).2.1.length < n := by
  fun_induction fill n s with
  | case1 => exact absurd rfl h
  | case2 => exact Nat.pos_of_ne_zero (by assumption)
  | case3 n s _ b bytes s' hread filling more s'' hfill ih =>
    have hle := length_read_le n s (b :: bytes) (by rw [hread])
    simp only [hfill] at ih
    have := ih h
    simp only [List.cons_append, List.length_cons, List.length_append] at this hle ⊢
    omega
  | case4 n s _ s' _ ih => exact ih h
  | case5 => exact Nat.pos_of_ne_zero (by assumption)

theorem patience_writeAll_le (bytes : Bytes) (s : σ) :
    patience (writeAll bytes s).2 ≤ patience s := by
  fun_induction writeAll bytes s with
  | case1 => simp
  | case2 bytes s _ s' h =>
    have hp := patience_write_le bytes s
    rw [h] at hp
    exact Nat.le_of_add_right_le hp
  | case3 bytes s _ n s' h ih =>
    have hp := patience_write_le bytes s
    rw [h] at hp
    exact Nat.le_trans ih (Nat.le_of_add_right_le hp)
  | case4 bytes s _ s' h ih =>
    have hp := patience_write_le bytes s
    rw [h] at hp
    exact Nat.le_trans ih (Nat.le_of_add_right_le hp)
  | case5 bytes s _ failure s' h =>
    have hp := patience_write_le bytes s
    rw [h] at hp
    exact Nat.le_of_add_right_le hp

end ByteStream

end GridClient
