import GridClient.Proofs.BoundedDecimals
import GridClient.Proofs.NumericStruct

/-!
Decimals with more bytes than their number needs. What is read off a decimal depends on its number
and its scale alone, apart from the conversion to a bounded decimal, which counts the bytes of the
magnitude before it looks at them.
-/
namespace GridClient

namespace Decimal

/-- Two decimals with the same number and the same scale, in whatever bytes. -/
structure Agrees (d e : Decimal) : Prop where
  unscaled_eq : d.unscaled = e.unscaled
  scale_eq : d.scale = e.scale

variable {d e : Decimal}

/-! ### What depends on the number alone -/

theorem Agrees.isNegative_eq (h : d.Agrees e) : d.isNegative = e.isNegative := by
  rw [Bool.eq_iff_iff, d.isNegative_iff, e.isNegative_iff, h.unscaled_eq]

theorem Agrees.isZero_eq (h : d.Agrees e) : d.isZero = e.isZero := by
  rw [Bool.eq_iff_iff, d.isZero_iff, e.isZero_iff, h.unscaled_eq]

theorem Agrees.text_eq (h : d.Agrees e) : d.text = e.text := by
  rw [text, text, d.chars_eq, e.chars_eq, h.unscaled_eq, h.scale_eq]

theorem Agrees.toBinary64_eq (h : d.Agrees e) : d.toBinary64 = e.toBinary64 := by
  rw [toBinary64, toBinary64, h.unscaled_eq, h.scale_eq]

theorem Agrees.numericBytes?_eq (h : d.Agrees e) : numericBytes? d = numericBytes? e := by
  have hlayout : numericLayout d.unscaled d.scale.toInt =
      numericLayout e.unscaled e.scale.toInt := by
    rw [h.unscaled_eq, h.scale_eq]
  by_cases hfits : FitsNumeric e.unscaled e.scale.toInt
  · have hfits' := hfits
    rw [← h.unscaled_eq, ← h.scale_eq] at hfits'
    exact (numericBytes?_of_fits hfits').trans
      ((congrArg some hlayout).trans (numericBytes?_of_fits hfits).symm)
  · have hfits' := hfits
    rw [← h.unscaled_eq, ← h.scale_eq] at hfits'
    exact (numericBytes?_of_not_fits hfits').trans (numericBytes?_of_not_fits hfits).symm

/-- The bytes that a decimal leaves in a buffer of any type, numeric or not. -/
theorem Agrees.putDecimal_eq (h : d.Agrees e) (b : DataBuffer) :
    b.putDecimal d = b.putDecimal e := by
  unfold DataBuffer.putDecimal DataBuffer.putNumeric
  rw [h.text_eq, h.toBinary64_eq, h.numericBytes?_eq]

/-- Up to sixteen bytes are filled up to sixteen, which makes them the same bytes. -/
theorem Agrees.parts?_eq (h : d.Agrees e) (hd : d.magnitude.length ≤ 16)
    (he : e.magnitude.length ≤ 16) : d.parts? = e.parts? := by
  unfold parts?
  rw [if_neg (Nat.not_lt.mpr hd), if_neg (Nat.not_lt.mpr he), d.signedBigEndian_extended,
    e.signedBigEndian_extended, h.unscaled_eq, h.scale_eq]

section

variable {α : Type} (accept : ℤ → ℕ → Option α)

theorem Agrees.toBoundedBy_eq (h : d.Agrees e) (hd : d.magnitude.length ≤ 16)
    (he : e.magnitude.length ≤ 16) : d.toBoundedBy accept = e.toBoundedBy accept := by
  unfold toBoundedBy
  rw [h.parts?_eq hd he, h.text_eq]

/-- The one error that the conversion to a bounded decimal ends with. -/
def outOfRange (d : Decimal) : Error :=
  .unsupportedConversion ("decimal " ++ d.text ++ " is out of range")

theorem toBoundedBy_eq_error (h : ∀ x, d.toBoundedBy accept ≠ .ok x) :
    d.toBoundedBy accept = .error d.outOfRange := by
  unfold toBoundedBy at h ⊢
  cases hb : d.parts?.bind fun parts => accept parts.1 parts.2 with
  | none => rfl
  | some x =>
    rw [hb] at h
    exact absurd rfl (h x)

/-- More than sixteen bytes are refused, whatever number they denote. -/
theorem toBoundedBy_of_long (h : 16 < d.magnitude.length) :
    d.toBoundedBy accept = .error d.outOfRange := by
  unfold toBoundedBy parts?
  rw [if_pos h]
  rfl

end

/-! ### More bytes for the same number -/

/-- The same decimal with more bytes in front of it that repeat its sign. -/
def padded (d : Decimal) (extra : ℕ) : Decimal :=
  ⟨List.replicate extra (if d.isNegative then 0xFF else 0) ++ d.magnitude, d.scale⟩

theorem length_padded (d : Decimal) (extra : ℕ) :
    (d.padded extra).magnitude.length = extra + d.magnitude.length := by
  simp [padded]

theorem padded_agrees (d : Decimal) (extra : ℕ) : (d.padded extra).Agrees d where
  unscaled_eq := by
    rw [unscaled, padded, fill_eq_signByte]
    exact signedBigEndian_replicate_signByte extra d.magnitude
  scale_eq := rfl

/-- Bytes that repeat the sign in front of a magnitude change neither text nor what a buffer keeps.
The conversion to a bounded decimal stays as it was up to sixteen bytes, and is refused beyond. -/
theorem padding_immaterial (d : Decimal) (extra : ℕ) :
    (d.padded extra).isNegative = d.isNegative ∧
    (d.padded extra).isZero = d.isZero ∧
    (d.padded extra).text = d.text ∧
    (∀ b : DataBuffer, b.putDecimal (d.padded extra) = b.putDecimal d) ∧
    ∀ {α : Type} (accept : ℤ → ℕ → Option α),
      (16 < extra + d.magnitude.length → (d.padded extra).toBoundedBy accept =
        .error (.unsupportedConversion ("decimal " ++ d.text ++ " is out of range"))) ∧
      ((d.padded extra).toBoundedBy accept = d.toBoundedBy accept ↔
        extra + d.magnitude.length ≤ 16 ∨ ∀ x, d.toBoundedBy accept ≠ .ok x) := by
  have h := d.padded_agrees extra
  have hlength := d.length_padded extra
  refine ⟨h.isNegative_eq, h.isZero_eq, h.text_eq, h.putDecimal_eq, fun {α} accept => ?_⟩
  have hrange : (d.padded extra).outOfRange = d.outOfRange := by
    rw [outOfRange, outOfRange, h.text_eq]
  by_cases hshort : extra + d.magnitude.length ≤ 16
  · have hsame := h.toBoundedBy_eq accept (by omega) (by omega)
    exact ⟨fun hlong => by omega, iff_of_true hsame (.inl hshort)⟩
  · have hlong := toBoundedBy_of_long (d := d.padded extra) accept (by omega)
    rw [hrange] at hlong
    refine ⟨fun _ => hlong, ?_⟩
    rw [hlong]
    constructor
    · intro heq
      refine .inr fun x hx => ?_
      cases heq.trans hx
    · intro hor
      rcases hor with hle | hfails
      · omega
      · exact (toBoundedBy_eq_error accept hfails).symm

/-- A one in one byte is converted, and behind sixteen zeros, which denote the same one, it is
refused. -/
theorem padded_one_refused :
    (∃ x, (mk [1] 0).toBounded = .ok x ∧ x.mantissa = 1 ∧ x.scale = 0) ∧
    ((mk [1] 0).padded 16).unscaled = (mk [1] 0).unscaled ∧
    ((mk [1] 0).padded 16).toBounded =
      .error (.unsupportedConversion ("decimal " ++ (mk [1] 0).text ++ " is out of range")) ∧
    ((mk [1] 0).padded 16).toBounded ≠ (mk [1] 0).toBounded := by
  have hlong := toBoundedBy_of_long (d := (mk [1] 0).padded 16) BoundedDecimal.ofParts? (by decide)
  rw [outOfRange, ((mk [1] 0).padded_agrees 16).text_eq] at hlong
  obtain ⟨x, hx⟩ := (exists_toBoundedBy_iff (mk [1] 0) boundedType_ofParts? (by decide)).mpr
    (by decide)
  obtain ⟨hmantissa, hscale⟩ := parts_of_toBoundedBy _ boundedType_ofParts? (by decide) hx
  refine ⟨⟨x, hx, hmantissa, hscale⟩, rfl, hlong, fun heq => ?_⟩
  cases hlong.symm.trans (heq.trans hx)

end Decimal

end GridClient
