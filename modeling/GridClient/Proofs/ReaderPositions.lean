import GridClient.Proofs.ColumnGrammar
import GridClient.Proofs.DecoderFailures

/-!
Where a reader stands. A reader of some bytes never leaves them. A decoder that succeeds stops right
behind what it has taken, and all but the one of lengths stay where they are when they fail.
-/
namespace GridClient

/-- A reader of these bytes: it stands in them or at their end, and the rest lies behind it. -/
structure Reader.Within (r : Reader) (bytes : Bytes) : Prop where
  position_le : r.position ≤ bytes.length
  rest_eq : r.rest = bytes.drop r.position

variable {α β : Type} {bytes taken : Bytes} {r r' : Reader}

theorem Reader.within_startAt (bytes : Bytes) (position : Nat) :
    (startAt bytes position).Within bytes := by
  refine ⟨Nat.min_le_right _ _, ?_⟩
  show bytes.drop position = bytes.drop (min position bytes.length)
  by_cases h : position ≤ bytes.length
  · rw [Nat.min_eq_left h]
  · rw [Nat.min_eq_right (Nat.le_of_not_le h), List.drop_length,
      List.drop_eq_nil_of_le (Nat.le_of_not_le h)]

/-- Who takes what comes next stays within the bytes. -/
theorem Reader.Within.behind (h : r.Within bytes) (hrest : r.rest = taken ++ r'.rest)
    (hposition : r'.position = r.position + taken.length) : r'.Within bytes := by
  have hlen := congrArg List.length (h.rest_eq.symm.trans hrest)
  rw [List.length_drop, List.length_append] at hlen
  have hle := h.position_le
  refine ⟨by omega, ?_⟩
  rw [hposition, ← List.drop_drop, ← h.rest_eq, hrest, List.drop_left' rfl]

namespace Decoder

variable {d : Decoder α}

/-- A decoder that reads a value off the bytes that stand here stops right behind them. -/
theorem Reads.position_eq {a b : α} (h : Reads d taken a) (hok : d r = .ok b r')
    (hrest : r.rest = taken ++ r'.rest) : r'.position = r.position + taken.length := by
  have hread := h r.position r'.rest
  rw [← hrest] at hread
  have hsame : EStateM.Result.ok b r' = .ok a ⟨r.position + taken.length, r'.rest⟩ :=
    hok.symm.trans hread
  injection hsame with _ hr
  rw [hr]

/-- Whenever the decoder succeeds, it takes the bytes that spell the value and stops behind them. -/
def Spells (d : Decoder α) (spelling : α → Bytes) : Prop :=
  ∀ (r r' : Reader) (a : α), d r = .ok a r' →
    r.rest = spelling a ++ r'.rest ∧ r'.position = r.position + (spelling a).length

theorem spells_of_reads {spelling : α → Bytes} (hreads : ∀ a, Reads d (spelling a) a)
    (hrest : ∀ {r r' : Reader} {a : α}, d r = .ok a r' → r.rest = spelling a ++ r'.rest) :
    Spells d spelling :=
  fun _ _ _ h => ⟨hrest h, (hreads _).position_eq h (hrest h)⟩

theorem Spells.map {f : α → β} {spelling : α → Bytes} {spelling' : β → Bytes}
    (h : Spells d spelling) (hf : ∀ a, spelling' (f a) = spelling a) :
    Spells (f <$> d) spelling' := by
  intro r r' b hb
  obtain ⟨a, ha, rfl⟩ := map_accepts.mp hb
  rw [hf]
  exact h r r' a ha

theorem spells_uint8 : Spells uint8 fun v => [v] :=
  spells_of_reads reads_uint8 rest_of_uint8

theorem spells_int8 : Spells int8 fun v => LittleEndian.encode 1 v.toUInt8.toNat :=
  spells_uint8.map fun v => by
    rw [UInt8.toUInt8_toInt8, LittleEndian.encode, LittleEndian.encode, UInt8.ofNat_toNat]

theorem spells_uint16 : Spells uint16 fun v => LittleEndian.encode 2 v.toNat :=
  spells_of_reads reads_uint16 rest_of_uint16

theorem spells_int16 : Spells int16 fun v => LittleEndian.encode 2 v.toUInt16.toNat :=
  spells_uint16.map fun v => by rw [UInt16.toUInt16_toInt16]

theorem spells_int32 : Spells int32 encodeInt32 :=
  spells_of_reads reads_int32 rest_of_int32

theorem spells_int64 : Spells int64 encodeInt64 :=
  spells_of_reads reads_int64 rest_of_int64

theorem spells_binary32 : Spells binary32 fun v => LittleEndian.encode 4 v.bits.toNat :=
  (spells_of_reads reads_uint32 rest_of_uint32).map fun _ => rfl

theorem spells_binary64 : Spells binary64 fun v => LittleEndian.encode 8 v.bits.toNat :=
  (spells_of_reads reads_uint64 rest_of_uint64).map fun _ => rfl

theorem reads_optionalGuid (g? : Option Guid) : Reads guid (encodeOptionalGuid g?) g? := by
  cases g? with
  | none =>
    refine Reads.atomically (Reads.tagged ?_)
    simp only [TypeTag.ofCode?_code]
    exact reads_pure none
  | some g => exact reads_guid g

theorem spells_guid : Spells guid encodeOptionalGuid :=
  spells_of_reads reads_optionalGuid rest_of_optionalGuid

/-- The decoder stays where it is when it fails. -/
def FailsInPlace (d : Decoder α) : Prop :=
  ∀ (r r' : Reader) (e : Error), d r = .error e r' → r' = r

theorem failsInPlace_throw (e : Error) : FailsInPlace (throw e : Decoder α) := by
  rintro _ _ _ ⟨⟩
  rfl

theorem failsInPlace_take (n : Nat) : FailsInPlace (take n) := by
  intro r r' e h
  unfold take at h
  split at h
  · cases h
  · cases h
    rfl

theorem failsInPlace_atomically (d : Decoder α) : FailsInPlace (atomically d) := by
  intro r r' e h
  unfold atomically at h
  split at h
  · cases h
  · cases h
    rfl

theorem failsInPlace_peek (d : Decoder α) : FailsInPlace (peek d) := by
  intro r r' e h
  unfold peek at h
  split at h
  · cases h
  · cases h
    rfl

theorem FailsInPlace.map {f : α → β} (h : FailsInPlace d) : FailsInPlace (f <$> d) := by
  intro r r' e hfail
  rcases bind_fails.mp hfail with hd | ⟨a, r₁, _, hf⟩
  · exact h _ _ _ hd
  · cases hf

/-- Behind something that was only looked at, a failure is still one in the first place. -/
theorem failsInPlace_peek_bind {f : α → Decoder β} (h : ∀ a, FailsInPlace (f a)) :
    FailsInPlace (peek d >>= f) := by
  intro r r' e hfail
  rcases bind_fails.mp hfail with hd | ⟨a, r₁, hd, hf⟩
  · exact failsInPlace_peek _ _ _ _ hd
  · obtain ⟨rfl, _⟩ := peek_accepts.mp hd
    exact h a _ _ _ hf

theorem failsInPlace_word (width : Nat) : FailsInPlace (word width) :=
  (failsInPlace_take width).map

theorem failsInPlace_uint8 : FailsInPlace uint8 := (failsInPlace_word 1).map

theorem failsInPlace_uint16 : FailsInPlace uint16 := (failsInPlace_word 2).map

theorem failsInPlace_uint32 : FailsInPlace uint32 := (failsInPlace_word 4).map

theorem failsInPlace_uint64 : FailsInPlace uint64 := (failsInPlace_word 8).map

theorem failsInPlace_columnHeader : FailsInPlace columnHeader := by
  intro r r' e h
  unfold columnHeader at h
  split at h
  · split at h <;> cases h
  · rename_i hd
    cases h
    exact failsInPlace_uint8 _ _ _ hd

/-- The header is only looked at, so an object that is not all there leaves the reader in front of
it. -/
theorem failsInPlace_object : FailsInPlace object := by
  refine failsInPlace_peek_bind fun header? => ?_
  split
  · exact failsInPlace_throw _
  · split
    · exact failsInPlace_throw _
    · exact failsInPlace_take _

/-- A length is refused in front of its word when that is cut short, and behind it when it is
negative. -/
theorem length_fails {e : Error} (h : length r = .error e r') :
    r' = r ∨ ∃ n : Int32, n < 0 ∧ r.rest = encodeInt32 n ++ r'.rest ∧
      r'.position = r.position + 4 := by
  rcases bind_fails.mp h with hn | ⟨n, r₁, hn, hcheck⟩
  · exact .inl (failsInPlace_uint32.map _ _ _ hn)
  · by_cases hneg : n < 0
    · rw [if_pos hneg] at hcheck
      cases hcheck
      exact .inr ⟨n, hneg, spells_int32 _ _ _ hn⟩
    · rw [if_neg hneg] at hcheck
      cases hcheck

end Decoder

end GridClient
