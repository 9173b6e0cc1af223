import GridClient.Diagnostics.Record
import GridClient.Wire.Column

/-!
Why the value of a column cannot be decoded. Its bytes end too early, are not what they should be,
or have a tag that has no reader; none of these errors knows where in a result set it arose.
-/
namespace GridClient

/-- What can be wrong with bytes that are decoded. -/
inductive Error.Malformed : Error → Prop where
  | unexpectedEnd : Malformed .unexpectedEnd
  | invalidPacket : Malformed .invalidPacket
  | unsupportedTag (tag : UInt8) : Malformed (.unsupportedTag tag)

/-- The record of such an error names neither a row nor a column. -/
theorem Error.Malformed.ofError_eq {e : Error} (h : e.Malformed) :
    StatusRecord.ofError e = { state := .generalError, message := e.message } := by
  cases h <;> rfl

/-- It has another text than that of a column. -/
theorem Error.Malformed.message_ne {e : Error} (h : e.Malformed) :
    e.message ≠ "Can not retrieve row column." := by
  cases h with
  | unexpectedEnd => decide
  | invalidPacket => decide
  | unsupportedTag tag =>
    intro heq
    have hfirst : (String.toList ("Unsupported wire type: " ++ toString tag.toNat)).head? =
        some 'C' := congrArg (fun text => text.toList.head?) heq
    rw [String.toList_append] at hfirst
    cases hfirst

namespace Decoder

/-- The decoder fails only on bytes that are malformed. -/
def FailsOnMalformed {α : Type} (d : Decoder α) : Prop :=
  ∀ (r r' : Reader) (e : Error), d r = .error e r' → e.Malformed

variable {α β : Type} {d : Decoder α}

/-- One decoder after another fails where either does. -/
theorem bind_fails {f : α → Decoder β} {r r' : Reader} {e : Error} :
    (d >>= f) r = .error e r' ↔
      d r = .error e r' ∨ ∃ a r₁, d r = .ok a r₁ ∧ f a r₁ = .error e r' := by
  show EStateM.bind d f r = _ ↔ _
  rw [EStateM.bind]
  cases d r with
  | ok a r₁ =>
    constructor
    · intro h
      exact .inr ⟨a, r₁, rfl, h⟩
    · rintro (⟨⟨⟩⟩ | ⟨_, _, ⟨⟩, h⟩)
      exact h
  | error e₁ r₁ => simp

theorem failsOnMalformed_pure (a : α) : FailsOnMalformed (pure a : Decoder α) := by
  rintro _ _ _ ⟨⟩

theorem failsOnMalformed_throw {e : Error} (h : e.Malformed) :
    FailsOnMalformed (throw e : Decoder α) := by
  rintro _ _ _ ⟨⟩
  exact h

theorem FailsOnMalformed.bind {f : α → Decoder β} (h : FailsOnMalformed d)
    (h' : ∀ a, FailsOnMalformed (f a)) : FailsOnMalformed (d >>= f) := by
  intro r r' e hfail
  rcases bind_fails.mp hfail with hd | ⟨a, r₁, _, hf⟩
  · exact h _ _ _ hd
  · exact h' a _ _ _ hf

theorem FailsOnMalformed.map {f : α → β} (h : FailsOnMalformed d) : FailsOnMalformed (f <$> d) :=
  h.bind fun a => failsOnMalformed_pure (f a)

theorem FailsOnMalformed.atomically (h : FailsOnMalformed d) : FailsOnMalformed (atomically d) := by
  intro r r' e hfail
  unfold Decoder.atomically at hfail
  split at hfail
  · cases hfail
  · rename_i hd
    cases hfail
    exact h _ _ _ hd

theorem FailsOnMalformed.peek (h : FailsOnMalformed d) : FailsOnMalformed (peek d) := by
  intro r r' e hfail
  unfold Decoder.peek at hfail
  split at hfail
  · cases hfail
  · rename_i hd
    cases hfail
    exact h _ _ _ hd

theorem failsOnMalformed_take (n : Nat) : FailsOnMalformed (take n) := by
  intro r r' e hfail
  unfold take at hfail
  split at hfail
  · cases hfail
  · cases hfail
    exact .unexpectedEnd

theorem failsOnMalformed_word (width : Nat) : FailsOnMalformed (word width) :=
  (failsOnMalformed_take width).map

theorem failsOnMalformed_uint8 : FailsOnMalformed uint8 := (failsOnMalformed_word 1).map

theorem failsOnMalformed_int32 : FailsOnMalformed int32 := (failsOnMalformed_word 4).map.map

theorem failsOnMalformed_int64 : FailsOnMalformed int64 := (failsOnMalformed_word 8).map.map

theorem failsOnMalformed_text : FailsOnMalformed text := by
  have hlength : FailsOnMalformed length := by
    refine failsOnMalformed_int32.bind fun n => ?_
    split
    · exact failsOnMalformed_throw .invalidPacket
    · exact failsOnMalformed_pure _
  refine hlength.bind fun n => (failsOnMalformed_take n).bind fun bytes => ?_
  split
  · exact failsOnMalformed_pure _
  · exact failsOnMalformed_throw .invalidPacket

theorem failsOnMalformed_string : FailsOnMalformed string := by
  refine (failsOnMalformed_uint8.bind fun tag => ?_).atomically
  split
  · exact failsOnMalformed_pure _
  · exact failsOnMalformed_text.map
  · exact failsOnMalformed_throw (.unsupportedTag tag)

theorem failsOnMalformed_guid : FailsOnMalformed guid := by
  refine (failsOnMalformed_uint8.bind fun tag => ?_).atomically
  split
  · exact failsOnMalformed_pure _
  · exact failsOnMalformed_int64.bind fun most => failsOnMalformed_int64.bind fun least =>
      failsOnMalformed_pure _
  · exact failsOnMalformed_throw (.unsupportedTag tag)

theorem failsOnMalformed_object : FailsOnMalformed object := by
  have hopens : FailsOnMalformed opensObject := by
    refine failsOnMalformed_uint8.bind fun tag => ?_
    split
    · exact failsOnMalformed_uint8.bind fun version => failsOnMalformed_pure _
    · exact failsOnMalformed_pure _
  have hfields : FailsOnMalformed objectHeaderFields :=
    failsOnMalformed_uint8.bind fun tag => failsOnMalformed_uint8.bind fun version =>
      (failsOnMalformed_word 2).map.bind fun flags => failsOnMalformed_int32.bind fun typeId =>
        failsOnMalformed_int32.bind fun hashCode => failsOnMalformed_int32.bind fun length =>
          failsOnMalformed_pure _
  have hheader : FailsOnMalformed peekObjectHeader := by
    refine (hopens.peek.bind fun opens => ?_).peek
    split
    · exact hfields.map
    · exact failsOnMalformed_pure _
  refine hheader.bind fun header => ?_
  split
  · exact failsOnMalformed_throw .invalidPacket
  · split
    · exact failsOnMalformed_throw .invalidPacket
    · exact failsOnMalformed_take _

theorem failsOnMalformed_columnHeader : FailsOnMalformed columnHeader := by
  intro r r' e hfail
  unfold columnHeader at hfail
  split at hfail
  · split at hfail <;> cases hfail
  · rename_i hd
    cases hfail
    exact failsOnMalformed_uint8 _ _ _ hd

theorem failsOnMalformed_columnValue : FailsOnMalformed columnValue := by
  refine failsOnMalformed_columnHeader.bind fun tag => ?_
  split
  · exact failsOnMalformed_uint8.map.map
  · exact (failsOnMalformed_word 2).map.map.map
  · exact (failsOnMalformed_word 2).map.map.map
  · exact failsOnMalformed_int32.map
  · exact failsOnMalformed_int64.map
  · exact (failsOnMalformed_word 4).map.map.map
  · exact (failsOnMalformed_word 8).map.map.map
  · exact failsOnMalformed_uint8.map.map
  · exact failsOnMalformed_pure _
  · exact failsOnMalformed_string.map
  · exact failsOnMalformed_guid.map
  · exact failsOnMalformed_object.map
  · exact failsOnMalformed_throw (.unsupportedTag tag)

end Decoder

end GridClient
