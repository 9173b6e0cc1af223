import GridClient.Proofs.NumeralReading
import Mathlib.Data.Nat.Digits.Defs
import Mathlib.Tactic.Ring

/-!
Hexadecimal digits of either case, and the number that a run of them denotes. A run is read as that
number, and it is told by its length and its number but for the case of its digits.
-/
namespace GridClient

namespace Hex

/-- The sixteen digits in order, in lower case. -/
def digits : List Char :=
  ['0', '1', '2', '3', '4', '5', '6', '7', '8', '9', 'a', 'b', 'c', 'd', 'e', 'f']

/-- A digit of either case. -/
def IsDigit (c : Char) : Prop := c.toLower ∈ digits

instance (c : Char) : Decidable (IsDigit c) := inferInstanceAs (Decidable (_ ∈ _))

/-- What a digit of either case counts. -/
def valueOf (c : Char) : ℕ := digits.idxOf c.toLower

/-- The number that digits denote, the most significant one first. -/
def number (cs : List Char) : ℕ := Nat.ofDigits 16 (cs.map valueOf).reverse

theorem toLower_of_not_ascii {c : Char} (h : ¬ c.toNat < 128) : c.toLower = c := by
  have hupper : ¬ (c.val ≥ 'A'.val ∧ c.val ≤ 'Z'.val) := by
    rintro ⟨-, hle⟩
    have hle : c.toNat ≤ 90 := hle
    omega
  exact dif_neg hupper

theorem ascii_of_isDigit {c : Char} (h : IsDigit c) : c.toNat < 128 := by
  have hdigits : ∀ d ∈ digits, d.toNat < 128 := by simp [digits]
  by_contra hn
  unfold IsDigit at h
  rw [toLower_of_not_ascii hn] at h
  exact hn (hdigits c h)

theorem valueOf_lt {c : Char} (h : IsDigit c) : valueOf c < 16 := List.idxOf_lt_length_iff.mpr h

theorem digitValue?_eq (c : Char) :
    digitValue? c = if IsDigit c then some (valueOf c) else none := by
  by_cases hascii : c.toNat < 128
  · have hall : ∀ n < 128, digitValue? (Char.ofNat n) =
        if IsDigit (Char.ofNat n) then some (valueOf (Char.ofNat n)) else none := by decide
    have hc := hall c.toNat hascii
    rwa [Char.ofNat_toNat] at hc
  · have hbound (d : Char) (hd : d.toNat < 128) : ¬ c ≤ d := by
      intro hle
      have hle : c.toNat ≤ d.toNat := hle
      omega
    rw [if_neg (mt ascii_of_isDigit hascii), digitValue?,
      if_neg (fun h => hbound '9' (by decide) h.2), if_neg (fun h => hbound 'f' (by decide) h.2),
      if_neg (fun h => hbound 'F' (by decide) h.2)]

/-- Each digit takes one byte. -/
theorem size_eq_length {cs : List Char} (h : ∀ c ∈ cs, IsDigit c) : Utf8.size cs = cs.length := by
  apply Utf8.size_of_ascii
  intro c hc
  exact Char.utf8Size_eq_one_iff.mpr (Nat.le_of_lt_succ (ascii_of_isDigit (h c hc)))

theorem lowerDigit_valueOf {c : Char} (h : IsDigit c) : lowerDigit (valueOf c) = c.toLower := by
  have hall : ∀ i (hi : i < digits.length), lowerDigit i = digits[i] := by decide
  have hplace : valueOf c < digits.length := List.idxOf_lt_length_iff.mpr h
  exact (hall (valueOf c) hplace).trans (List.getElem_idxOf hplace)

theorem number_cons (c : Char) (cs : List Char) :
    number (c :: cs) = number cs + 16 ^ cs.length * valueOf c := by
  simp [number, Nat.ofDigits_append]

theorem lt_of_mem_values {cs : List Char} (h : ∀ c ∈ cs, IsDigit c) :
    ∀ n ∈ (cs.map valueOf).reverse, n < 16 := by
  intro n hn
  obtain ⟨c, hc, rfl⟩ := List.mem_map.mp (List.mem_reverse.mp hn)
  exact valueOf_lt (h c hc)

theorem number_lt {cs : List Char} (h : ∀ c ∈ cs, IsDigit c) : number cs < 16 ^ cs.length := by
  have hlt := Nat.ofDigits_lt_base_pow_length (by decide) (lt_of_mem_values h)
  simpa [number] using hlt

/-- What is read off digits is the number that they denote. Nothing is read off anything else. -/
theorem readFrom?_eq_some_iff {value n : ℕ} {cs : List Char} :
    readFrom? value cs = some n ↔
      (∀ c ∈ cs, IsDigit c) ∧ n = 16 ^ cs.length * value + number cs := by
  induction cs generalizing value with
  | nil => simp [readFrom?, number, eq_comm]
  | cons c cs ih =>
    rw [readFrom?, List.forall_mem_cons]
    by_cases hc : IsDigit c
    · have hdigit : digitValue? c = some (valueOf c) := by rw [digitValue?_eq, if_pos hc]
      have hshift : 16 ^ cs.length * (16 * value + valueOf c) + number cs =
          16 ^ (c :: cs).length * value + number (c :: cs) := by
        rw [number_cons, List.length_cons, pow_succ]
        ring
      simp only [hdigit, ih, hc, true_and, hshift]
    · have hnone : digitValue? c = none := by rw [digitValue?_eq, if_neg hc]
      simp only [hnone, hc, false_and, reduceCtorEq]

/-- Digits of one length that denote one number differ in their case at most. -/
theorem map_toLower_eq {cs ds : List Char} (hcs : ∀ c ∈ cs, IsDigit c) (hds : ∀ c ∈ ds, IsDigit c)
    (hlength : cs.length = ds.length) (hnumber : number cs = number ds) :
    cs.map Char.toLower = ds.map Char.toLower := by
  have hlower (cs : List Char) (h : ∀ c ∈ cs, IsDigit c) :
      cs.map Char.toLower = (cs.map valueOf).map lowerDigit := by
    rw [List.map_map]
    exact List.map_congr_left fun c hc => (lowerDigit_valueOf (h c hc)).symm
  have hsame := Nat.ofDigits_inj_of_len_eq (by decide) (by simpa using hlength)
    (lt_of_mem_values hcs) (lt_of_mem_values hds) hnumber
  rw [hlower cs hcs, hlower ds hds, List.reverse_inj.mp hsame]

end Hex

end GridClient
