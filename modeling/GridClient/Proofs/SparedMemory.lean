import GridClient.Proofs.Renderings

/-!
What a conversion leaves alone. One that fails touches no byte of the slot, and no other changes the
size of the slot or goes by what it held.
-/
namespace GridClient

namespace Rendering

variable {w : Rendering} {b b' : DataBuffer} {type : BindingType} {content? : Option Bytes}
  {slot : Bytes} {n width : Nat}

theorem length_slot (w : Rendering) (b : DataBuffer) :
    (w.write b).2.slot.map List.length = b.slot.map List.length := by
  rw [write_eq]
  cases b.slot with
  | none => rfl
  | some slot => exact congrArg some (Bytes.length_overwrite _ slot)

/-- A writing that does not take place has nothing to write. -/
theorem written_of_fails
    (h : w.result (some n) = .failure ∨ w.result (some n) = .unsupported) : w.written n = [] := by
  cases w with
  | fixed bytes =>
    by_cases hle : bytes.length ≤ n
    · simp only [result, if_pos hle, reduceCtorEq, or_self] at h
    · exact if_neg hle
  | raw bytes =>
    rw [result] at h
    split at h <;> simp only [reduceCtorEq, or_self] at h
  | terminated width units =>
    rw [result] at h
    split at h <;> simp only [reduceCtorEq, or_self] at h
  | unsupported | refused => rfl

theorem slot_of_fails (h : (w.write b).1 = .failure ∨ (w.write b).1 = .unsupported) :
    (w.write b).2.slot = b.slot := by
  rw [write_eq] at h ⊢
  cases hslot : b.slot with
  | none => rfl
  | some slot =>
    rw [hslot] at h
    show some (Bytes.overwrite (w.written slot.length) slot) = some slot
    rw [written_of_fails h]
    rfl

/-- Neither the result nor the length goes by what the slot holds. -/
theorem write_congr (hlength : b'.length = b.length)
    (hsize : b'.slot.map List.length = b.slot.map List.length) :
    (w.write b').1 = (w.write b).1 ∧ (w.write b').2.length = (w.write b).2.length := by
  rw [write_eq, write_eq, hlength, hsize]
  exact ⟨rfl, rfl⟩

/-- Into a type of fixed width nothing is written but a value of that width. -/
theorem Suits.fixed_of_success (h : w.Suits type content?) (hwidth : type.width? = some width)
    (hsuccess : (w.write b).1 = .success) : ∃ bytes, w = .fixed bytes ∧ bytes.length = width := by
  cases h with
  | fixed hbytes => exact ⟨_, rfl, Option.some.inj (hbytes.symm.trans hwidth)⟩
  | raw isRaw => rcases isRaw with rfl | rfl <;> cases hwidth
  | terminated isText _ _ => rcases isText with rfl | rfl <;> cases hwidth
  | unsupported | refused => cases hsuccess

theorem write_fixed_of_success {bytes : Bytes} (hsuccess : ((fixed bytes).write b).1 = .success) :
    ((fixed bytes).write b).2.length = b.length.map (fun _ => (bytes.length : Int)) ∧
      ∀ slot, b.slot = some slot →
        ((fixed bytes).write b).2.slot = some (bytes ++ slot.drop bytes.length) := by
  rw [write_eq] at hsuccess ⊢
  refine ⟨rfl, fun slot hslot => ?_⟩
  rw [hslot] at hsuccess ⊢
  by_cases hle : bytes.length ≤ slot.length
  · simp only [written, if_pos hle, Option.map_some, Bytes.overwrite_of_le hle]
  · simp only [result, if_neg hle, Option.map_some, reduceCtorEq] at hsuccess

end Rendering

/-- A value that does not go into a buffer leaves every byte of its slot as it was. Whatever comes
of it, the slot keeps its size; in a type of fixed width, success changes so many bytes and reports
them; and neither the result nor the length cell goes by what the slot held before. -/
theorem PutValue.put_spares_memory (v : PutValue) (b : DataBuffer) :
    ((v.put b).1 = .failure ∨ (v.put b).1 = .unsupported → (v.put b).2.slot = b.slot) ∧
    (v.put b).2.slot.map List.length = b.slot.map List.length ∧
    (∀ width, b.type.width? = some width → (v.put b).1 = .success →
      (v.put b).2.length = b.length.map (fun _ => (width : Int)) ∧
      ∀ slot, b.slot = some slot → ∃ bytes : Bytes, bytes.length = width ∧
        (v.put b).2.slot = some (bytes ++ slot.drop width)) ∧
    (∀ b' : DataBuffer, b'.type = b.type → b'.length = b.length →
      b'.slot.map List.length = b.slot.map List.length →
        (v.put b').1 = (v.put b).1 ∧ (v.put b').2.length = (v.put b).2.length) := by
  obtain ⟨w, hsuits, hput⟩ := v.exists_rendering b.type
  rw [hput b rfl]
  refine ⟨Rendering.slot_of_fails, w.length_slot b, ?_, ?_⟩
  · intro width hwidth hsuccess
    obtain ⟨bytes, rfl, rfl⟩ := hsuits.fixed_of_success hwidth hsuccess
    obtain ⟨hlength, hslot⟩ := Rendering.write_fixed_of_success hsuccess
    exact ⟨hlength, fun slot h => ⟨bytes, rfl, hslot slot h⟩⟩
  · intro b' htype hlength hsize
    rw [hput b' htype]
    exact Rendering.write_congr hlength hsize

/-- A slot that is too short keeps its bytes, and the length cell still tells the width. -/
example : (PutValue.number (.int32 7)).put ⟨.signedLong, some [1, 2, 3], some 0⟩ =
    (.failure, ⟨.signedLong, some [1, 2, 3], some 4⟩) := rfl

end GridClient
