import GridClient.Proofs.Renderings

/-!
Values that are longer than their slot. The length cell tells the size of the whole content, however
much of it went in, so that a second slot can be made large enough.
-/
namespace GridClient

namespace BindingType

/-- How many bytes of a content of some size go into a slot of some capacity. A text leaves room for
its zero unit and is cut between units. -/
def kept (type : BindingType) (size capacity : Nat) : Nat :=
  match type with
  | char => min size (capacity - 1)
  | wideChar => 2 * min (size / 2) (capacity / 2 - 1)
  | _ => min size capacity

/-- Whether a content of some size does not go whole into a slot of some capacity. -/
def overflows (type : BindingType) (size capacity : Nat) : Bool :=
  match type with
  | char => capacity ≤ size
  | wideChar => capacity / 2 ≤ size / 2
  | _ => capacity < size

/-- The part of a content that goes into a slot of some capacity. -/
def part (type : BindingType) (content : Bytes) (capacity : Nat) : Bytes :=
  content.take (type.kept content.length capacity)

/-- The bytes that a slot of some capacity begins with when a content has been written. -/
def image (type : BindingType) (content : Bytes) (capacity : Nat) : Bytes :=
  if capacity < type.terminator.length then [] else type.part content capacity ++ type.terminator

variable {type : BindingType} {content : Bytes} {size capacity small large : Nat}

theorem length_terminator (type : BindingType) : type.terminator.length = type.unit :=
  List.length_replicate

theorem kept_mono (type : BindingType) (size : Nat) (h : small ≤ large) :
    type.kept size small ≤ type.kept size large := by
  cases type <;> simp only [kept] <;> omega

theorem kept_add_unit_le (type : BindingType) (size : Nat) (h : type.unit ≤ capacity) :
    type.kept size capacity + type.unit ≤ capacity := by
  cases type <;> simp only [kept, unit] at h ⊢ <;> omega

/-- Two slots differ in how far they show a content. -/
theorem part_prefix (type : BindingType) (content : Bytes) (h : small ≤ large) :
    type.part content small <+: type.part content large :=
  List.take_prefix_take_left (type.kept_mono content.length h)

theorem length_image_le (type : BindingType) (content : Bytes) (capacity : Nat) :
    (type.image content capacity).length ≤ capacity := by
  unfold image
  split
  · exact Nat.zero_le _
  · rename_i h
    rw [length_terminator] at h
    have hle := type.kept_add_unit_le content.length (Nat.le_of_not_lt h)
    rw [List.length_append, length_terminator, part, List.length_take]
    omega

end BindingType

namespace Rendering

open BindingType

variable {w : Rendering} {b : DataBuffer} {type : BindingType} {content : Bytes}

theorem uniform_size {width : Nat} {units : List Bytes} (uniform : ∀ u ∈ units, u.length = width)
    (whole : units.flatten = content) : content.length = width * units.length :=
  whole ▸ DataBuffer.length_flatten_of_width uniform

theorem Suits.reported_eq (h : w.Suits type (some content)) :
    w.reported? = some (content.length : Int) := by
  cases h with
  | raw _ => rfl
  | terminated _ uniform whole =>
    rw [uniform_size uniform whole]
    rfl

theorem Suits.result_none (h : w.Suits type (some content)) : w.result none = .success := by
  cases h <;> rfl

theorem Suits.result_some (h : w.Suits type (some content)) (capacity : Nat) :
    w.result (some capacity) =
      if type.overflows content.length capacity then .truncated else .success := by
  cases h with
  | raw isRaw =>
    rcases isRaw with rfl | rfl <;> simp only [result, overflows, decide_eq_true_eq]
  | @terminated _ units isText uniform whole =>
    have hsize := uniform_size uniform whole
    -- the size of the content is a whole number of units, so halving it counts them
    have hfits : type.overflows content.length capacity = true ↔
        ¬ units.length < capacity / type.unit := by
      rcases isText with rfl | rfl <;> simp only [unit, overflows, decide_eq_true_eq] at hsize ⊢ <;>
        omega
    rw [result]
    by_cases hlt : units.length < capacity / type.unit
    · rw [if_pos hlt, if_neg (fun hover => hfits.mp hover hlt)]
    · rw [if_neg hlt, if_pos (hfits.mpr hlt)]

theorem Suits.written_eq (h : w.Suits type (some content)) (capacity : Nat) :
    w.written capacity = type.image content capacity := by
  cases h with
  | raw isRaw =>
    rcases isRaw with rfl | rfl <;>
    · show content.take capacity = content.take (min content.length capacity) ++ []
      rw [List.append_nil, List.take_eq_take_iff]
      omega
  | @terminated _ units isText uniform whole =>
    have hsize := uniform_size uniform whole
    have hpart : (units.take (capacity / type.unit - 1)).flatten = type.part content capacity := by
      rw [DataBuffer.take_flatten_of_width uniform, whole, part, List.take_eq_take_iff]
      rcases isText with rfl | rfl <;> simp only [kept, unit] at hsize ⊢ <;> omega
    have hunit : 0 < type.unit := by rcases isText with rfl | rfl <;> decide
    rw [written, image, length_terminator]
    by_cases hroom : capacity < type.unit
    · rw [if_pos (Nat.div_eq_of_lt hroom), if_pos hroom]
    · have hne : capacity / type.unit ≠ 0 :=
        Nat.ne_of_gt (Nat.div_pos (Nat.le_of_not_lt hroom) hunit)
      rw [if_neg hne, if_neg hroom, List.flatten_append, List.flatten_singleton, hpart]
      rfl

theorem Suits.write_slot (h : w.Suits type (some content)) {slot : Bytes}
    (hslot : b.slot = some slot) :
    (w.write b).1 = (if type.overflows content.length slot.length then .truncated else .success) ∧
      (w.write b).2.slot = some (type.image content slot.length ++
        slot.drop (type.image content slot.length).length) := by
  rw [write_eq, hslot]
  refine ⟨h.result_some slot.length, ?_⟩
  show some (Bytes.overwrite (w.written slot.length) slot) = _
  rw [h.written_eq, Bytes.overwrite_of_le (type.length_image_le content slot.length)]

/-- With room for the content and the zero unit behind it, nothing is cut off. -/
theorem Suits.image_of_room (h : w.Suits type (some content)) {capacity : Nat}
    (hroom : content.length + type.terminator.length ≤ capacity) :
    type.overflows content.length capacity = false ∧
      type.image content capacity = content ++ type.terminator := by
  have hkept : type.overflows content.length capacity = false ∧
      content.length ≤ type.kept content.length capacity := by
    rw [length_terminator] at hroom
    cases h with
    | raw isRaw =>
      rcases isRaw with rfl | rfl <;>
        simp only [unit, overflows, kept, decide_eq_false_iff_not] at hroom ⊢ <;> omega
    | terminated isText uniform whole =>
      have hsize := uniform_size uniform whole
      rcases isText with rfl | rfl <;>
        simp only [unit, overflows, kept, decide_eq_false_iff_not] at hroom hsize ⊢ <;> omega
  refine ⟨hkept.1, ?_⟩
  rw [image, if_neg (by omega), part, List.take_of_length_le hkept.2]

end Rendering

/-- The length cell tells the size of the whole content, whatever the slot. A slot takes as much of
it as fits in front of its zero unit, and what stands behind that stays. -/
theorem PutValue.put_truncates (v : PutValue) (b : DataBuffer) (content : Bytes)
    (h : v.content? b.type = some content) :
    (v.put b).2.length = b.length.map (fun _ => (content.length : Int)) ∧
    (b.slot = none → (v.put b).1 = .success ∧ (v.put b).2.slot = none) ∧
    (∀ slot, b.slot = some slot →
      (v.put b).1 =
        (if b.type.overflows content.length slot.length then .truncated else .success) ∧
      (b.type.image content slot.length).length ≤ slot.length ∧
      (v.put b).2.slot = some (b.type.image content slot.length ++
        slot.drop (b.type.image content slot.length).length)) ∧
    (∀ (again : DataBuffer) (slot : Bytes), again.type = b.type → again.slot = some slot →
      content.length + b.type.terminator.length ≤ slot.length →
        (v.put again).1 = .success ∧ (v.put again).2.slot = some (content ++ b.type.terminator ++
          slot.drop (content.length + b.type.terminator.length))) ∧
    (∀ small large, small ≤ large →
      b.type.part content small <+: b.type.part content large) := by
  obtain ⟨w, hsuits, hput⟩ := v.exists_rendering b.type
  rw [h] at hsuits
  refine ⟨?_, ?_, ?_, ?_, fun _ _ => b.type.part_prefix content⟩
  · rw [hput b rfl, Rendering.write_eq, hsuits.reported_eq]
    rfl
  · intro hslot
    rw [hput b rfl, Rendering.write_eq, hslot]
    exact ⟨hsuits.result_none, rfl⟩
  · intro slot hslot
    rw [hput b rfl]
    obtain ⟨hresult, hbytes⟩ := hsuits.write_slot hslot
    exact ⟨hresult, b.type.length_image_le content slot.length, hbytes⟩
  · intro again slot htype hslot hroom
    rw [hput again htype]
    obtain ⟨hresult, hbytes⟩ := hsuits.write_slot hslot
    obtain ⟨hfits, himage⟩ := hsuits.image_of_room hroom
    rw [hfits] at hresult
    rw [himage, List.length_append] at hbytes
    exact ⟨hresult, hbytes⟩

/-- Three units in a slot of five bytes: the length cell asks for six, and eight are enough for them
and the zero unit. -/
theorem PutValue.put_truncates_odd_slot :
    ((string "abc").put ⟨.wideChar, some [9, 9, 9, 9, 9], some 0⟩).1 = .truncated ∧
    ((string "abc").put ⟨.wideChar, some [9, 9, 9, 9, 9], some 0⟩).2.length = some 6 ∧
    ((string "abc").put ⟨.wideChar, some [9, 9, 9, 9, 9], some 0⟩).2.slot =
      some [97, 0, 0, 0, 9] ∧
    ((string "abc").put ⟨.wideChar, some (List.replicate 8 9), some 0⟩).1 = .success ∧
    ((string "abc").put ⟨.wideChar, some (List.replicate 8 9), some 0⟩).2.slot =
      some [97, 0, 98, 0, 99, 0, 0, 0] := by
  obtain ⟨hlength, -, hslot, hagain, -⟩ :=
    put_truncates (string "abc") ⟨.wideChar, some [9, 9, 9, 9, 9], some 0⟩
      [97, 0, 98, 0, 99, 0] (by decide)
  obtain ⟨hresult, -, hbytes⟩ := hslot _ rfl
  obtain ⟨hwhole, hall⟩ :=
    hagain ⟨.wideChar, some (List.replicate 8 9), some 0⟩ (List.replicate 8 9) rfl rfl (by decide)
  exact ⟨hresult, hlength, hbytes, hwhole, hall⟩

end GridClient
