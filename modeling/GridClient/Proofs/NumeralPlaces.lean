import Mathlib
import GridClient.Proofs.TextToInteger

/-!
The places of numerals: how many digits a number takes, and what rational number digits spell when a
point stands among them or zeros behind them.
-/
namespace GridClient.Numeral

variable {n : ℕ} {cs : List Char}

theorem digitValue?_lt {c : Char} {d : ℕ} (h : digitValue? c = some d) : d < 10 := by
  unfold digitValue? at h
  split at h
  · rename_i hc
    cases h
    have hhigh : c.toNat ≤ '9'.toNat := hc.2
    have hnine : '9'.toNat = 57 := rfl
    have hzero : '0'.toNat = 48 := rfl
    omega
  · cases h

theorem isSome_digitValue? {c : Char} (h : c.isDigit = true) : (digitValue? c).isSome := by
  have hrange : '0' ≤ c ∧ c ≤ '9' := by
    simpa [Char.isDigit, Char.le_def, ge_iff_le] using h
  rw [digitValue?, if_pos hrange]
  rfl

/-- Digits are read as a number of so many places, behind what was read before them. -/
theorem exists_readFrom? (h : ∀ c ∈ cs, c.isDigit = true) :
    ∃ n < 10 ^ cs.length, ∀ value, readFrom? value cs = some (value * 10 ^ cs.length + n) := by
  induction cs with
  | nil => exact ⟨0, by simp, fun value => by simp [readFrom?]⟩
  | cons c cs ih =>
    obtain ⟨n, hn, hread⟩ := ih fun c hc => h c (.tail _ hc)
    obtain ⟨d, hd⟩ := Option.isSome_iff_exists.mp (isSome_digitValue? (h c (.head _)))
    have hlt := digitValue?_lt hd
    refine ⟨d * 10 ^ cs.length + n, ?_, fun value => ?_⟩
    · rw [List.length_cons, pow_succ]
      nlinarith [Nat.one_le_pow cs.length 10 (by decide)]
    · rw [readFrom?, hd]
      simp only [hread, List.length_cons, pow_succ, Option.some.injEq]
      ring

theorem read?_of_ne_nil (h : cs ≠ []) : read? cs = readFrom? 0 cs := by
  cases cs with
  | nil => exact absurd rfl h
  | cons c cs => rfl

/-! ### Counts of digits -/

/-- A number has one digit more than its logarithm to base ten tells, and zero has one. -/
theorem length_digits (n : ℕ) : (digits n).length = Nat.log 10 n + 1 := by
  induction n using Nat.strongRecOn with
  | ind n ih =>
    rw [digits]
    by_cases hlt : n < 10
    · rw [dif_pos hlt, Nat.log_of_lt hlt]
      rfl
    · rw [dif_neg hlt, List.length_append, ih (n / 10) (by omega), List.length_singleton,
        Nat.log_of_one_lt_of_le (by decide) (Nat.le_of_not_lt hlt)]

theorem readFrom?_lt {value : ℕ} (h : readFrom? value cs = some n) :
    n < (value + 1) * 10 ^ cs.length := by
  induction cs generalizing value with
  | nil =>
    cases h
    simp
  | cons c cs ih =>
    rw [readFrom?] at h
    cases hd : digitValue? c with
    | none =>
      rw [hd] at h
      cases h
    | some d =>
      rw [hd] at h
      have hlt := digitValue?_lt hd
      calc n < (10 * value + d + 1) * 10 ^ cs.length := ih h
        _ ≤ (10 * (value + 1)) * 10 ^ cs.length := Nat.mul_le_mul_right _ (by omega)
        _ = (value + 1) * 10 ^ (c :: cs).length := by
          rw [List.length_cons, pow_succ]
          ring

/-- No run of digits for a number is shorter than its numeral. -/
theorem length_digits_le (h : read? cs = some n) : (digits n).length ≤ cs.length := by
  have hne : cs ≠ [] := by
    rintro rfl
    cases h
  rw [read?_of_ne_nil hne] at h
  have hlt := readFrom?_lt h
  have hpos := List.length_pos_of_ne_nil hne
  rw [zero_add, one_mul] at hlt
  rw [length_digits]
  by_cases hzero : n = 0
  · rw [hzero, Nat.log_zero_right]
    exact hpos
  · exact Nat.log_lt_of_lt_pow hzero hlt

/-- No numeral for an integer is shorter than the one that is written. -/
theorem length_ofInt_le {i : ℤ} (h : readInt? cs = some i) : (ofInt i).length ≤ cs.length := by
  obtain ⟨n, ds, hread, hcs⟩ := readInt?_eq_some h
  have hdigits := length_digits_le hread
  unfold ofInt
  rcases hcs with ⟨rfl, rfl⟩ | ⟨rfl, rfl⟩ | ⟨rfl, rfl⟩
  · rw [Int.natAbs_neg, Int.natAbs_natCast, List.length_cons]
    split
    · exact Nat.succ_le_succ hdigits
    · exact Nat.le_succ_of_le hdigits
  · rw [if_neg (by omega), Int.natAbs_natCast, List.length_cons]
    exact Nat.le_succ_of_le hdigits
  · rwa [if_neg (by omega), Int.natAbs_natCast]

/-! ### Points and zeros -/

/-- The rational number that digits spell, with a point among them or none. -/
def unsignedRational? (cs : List Char) : Option ℚ :=
  match Text.splitAt '.' cs with
  | [whole] => (read? whole).map fun n : ℕ => (n : ℚ)
  | [whole, places] =>
    match read? whole, read? places with
    | some n, some m => some (n + m / 10 ^ places.length)
    | _, _ => none
  | _ => none

/-- The rational number that a numeral spells. -/
def rational? : List Char → Option ℚ
  | '-' :: cs => (unsignedRational? cs).map fun q : ℚ => -q
  | cs => unsignedRational? cs

/-- Digits in front of a point and places behind it. Without places there is no point. -/
def pointed (whole places : List Char) : List Char :=
  whole ++ if places = [] then [] else '.' :: places

variable {whole places : List Char}

theorem minus_not_mem_pointed (hdigits : ∀ c ∈ whole ++ places, c.isDigit = true) :
    '-' ∉ pointed whole places := by
  intro hmem
  have hminus : '-' ∉ whole ++ places := fun hmem => absurd (hdigits '-' hmem) (by decide)
  rw [pointed] at hmem
  split at hmem
  · rw [List.append_nil] at hmem
    exact hminus (List.mem_append_left _ hmem)
  · rcases List.mem_append.mp hmem with hmem | hmem
    · exact hminus (List.mem_append_left _ hmem)
    · rcases List.mem_cons.mp hmem with hpoint | hmem
      · exact absurd hpoint (by decide)
      · exact hminus (List.mem_append_right _ hmem)

/-- The places behind a point count as the digits that a power of ten divides. -/
theorem unsignedRational?_pointed (hwhole : whole ≠ [])
    (hdigits : ∀ c ∈ whole ++ places, c.isDigit = true)
    (hread : readFrom? 0 (whole ++ places) = some n) :
    unsignedRational? (pointed whole places) = some ((n : ℚ) / 10 ^ places.length) := by
  have hpoint (cs : List Char) (h : ∀ c ∈ cs, c.isDigit = true) : '.' ∉ cs :=
    fun hmem => absurd (h '.' hmem) (by decide)
  obtain ⟨w, -, hw⟩ := exists_readFrom? fun c hc => hdigits c (List.mem_append_left _ hc)
  obtain ⟨p, -, hp⟩ := exists_readFrom? fun c hc => hdigits c (List.mem_append_right _ hc)
  have hw0 := hw 0
  rw [zero_mul, zero_add] at hw0
  obtain rfl : w * 10 ^ places.length + p = n := by
    rw [readFrom?_append, hw0, Option.bind_some, hp] at hread
    exact Option.some.inj hread
  have hw? : read? whole = some w := by rw [read?_of_ne_nil hwhole, hw0]
  have hsplit : Text.splitAt '.' whole = [whole] :=
    Text.splitAt_of_not_mem (hpoint _ fun c hc => hdigits c (List.mem_append_left _ hc))
  unfold pointed unsignedRational?
  by_cases hnil : places = []
  · subst hnil
    obtain rfl : 0 = p := by simpa [readFrom?] using hp 0
    simp [hsplit, hw?]
  · have hp0 := hp 0
    rw [zero_mul, zero_add] at hp0
    have hp? : read? places = some p := by rw [read?_of_ne_nil hnil, hp0]
    have hplaces : Text.splitAt '.' places = [places] :=
      Text.splitAt_of_not_mem (hpoint _ fun c hc => hdigits c (List.mem_append_right _ hc))
    rw [if_neg hnil, Text.splitAt_append (hpoint _ fun c hc =>
      hdigits c (List.mem_append_left _ hc)), hplaces]
    simp only [hw?, hp?, Nat.cast_add, Nat.cast_mul, Nat.cast_pow, Nat.cast_ofNat,
      Option.some.injEq]
    field_simp

theorem readFrom?_zeros (value count : ℕ) :
    readFrom? value (List.replicate count '0') = some (value * 10 ^ count) := by
  induction count generalizing value with
  | zero => simp [readFrom?]
  | succ count ih =>
    show readFrom? (10 * value + 0) (List.replicate count '0') = _
    rw [ih, pow_succ, Option.some.injEq]
    ring

/-- A point among digits, padded with zeros where it needs to be. -/
theorem exists_withPoint (hdigits : ∀ c ∈ cs, c.isDigit = true) {count : ℕ} (hcount : 0 < count) :
    ∃ whole places, withPoint cs count = pointed whole places ∧ whole ≠ [] ∧
      places.length = count ∧ (∀ c ∈ whole ++ places, c.isDigit = true) ∧
      readFrom? 0 (whole ++ places) = readFrom? 0 cs := by
  generalize hpadded : List.replicate (count + 1 - cs.length) '0' ++ cs = padded
  have hlength : count + 1 ≤ padded.length := by
    rw [← hpadded, List.length_append, List.length_replicate]
    omega
  have hcut := List.take_append_drop (padded.length - count) padded
  refine ⟨padded.take (padded.length - count), padded.drop (padded.length - count), ?_, ?_, ?_, ?_,
    ?_⟩
  · have hne : padded.drop (padded.length - count) ≠ [] := by
      rw [ne_eq, List.drop_eq_nil_iff]
      omega
    rw [withPoint, if_neg (Nat.ne_of_gt hcount), pointed, if_neg hne]
    simp only [hpadded]
  · rw [ne_eq, List.take_eq_nil_iff]
    rintro (hzero | rfl)
    · omega
    · cases hlength
  · rw [List.length_drop]
    omega
  · rw [hcut, ← hpadded]
    intro c hc
    rcases List.mem_append.mp hc with hc | hc
    · rw [(List.mem_replicate.mp hc).2]
      rfl
    · exact hdigits c hc
  · rw [hcut, ← hpadded, readFrom?_append, readFrom?_zeros, zero_mul, Option.bind_some]

/-- A number with a power of ten applied to it is written as digits in front of a point and behind
it. -/
theorem exists_scaled (n : ℕ) (power : ℤ) :
    ∃ whole places, scaled (digits n) power = pointed whole places ∧ whole ≠ [] ∧
      places.length = (-power).toNat ∧ (∀ c ∈ whole ++ places, c.isDigit = true) ∧
      readFrom? 0 (whole ++ places) = some (n * 10 ^ power.toNat) := by
  have hdigits : ∀ c ∈ digits n, c.isDigit = true := forall_mem_digits (by decide) n
  by_cases hpower : power < 0
  · obtain ⟨whole, places, hpoint, hne, hlength, hall, hread⟩ :=
      exists_withPoint hdigits (show 0 < power.natAbs by omega)
    refine ⟨whole, places, ?_, hne, by omega, hall, ?_⟩
    · rw [scaled, if_pos hpower, hpoint]
    · rw [hread, readFrom?_digits, Int.toNat_of_nonpos (by omega), pow_zero, mul_one]
  · refine ⟨digits n ++ List.replicate power.toNat '0', [], ?_, ?_, ?_, ?_, ?_⟩
    · rw [scaled, if_neg hpower, pointed, if_pos rfl, List.append_nil]
    · simp [digits_ne_nil]
    · rw [List.length_nil, Int.toNat_of_nonpos (by omega)]
    · rw [List.append_nil]
      intro c hc
      rcases List.mem_append.mp hc with hc | hc
      · exact hdigits c hc
      · rw [(List.mem_replicate.mp hc).2]
        rfl
    · rw [List.append_nil, readFrom?_append, readFrom?_digits, Option.bind_some, readFrom?_zeros]

/-- What is written for a number with a power of ten applied to it denotes their product. -/
theorem unsignedRational?_scaled (n : ℕ) (power : ℤ) :
    unsignedRational? (scaled (digits n) power) = some ((n : ℚ) * 10 ^ power) := by
  obtain ⟨whole, places, hpoint, hne, hlength, hall, hread⟩ := exists_scaled n power
  rw [hpoint, unsignedRational?_pointed hne hall hread, hlength, Option.some.injEq]
  rcases le_total 0 power with h | h
  · obtain ⟨k, rfl⟩ := Int.eq_ofNat_of_zero_le h
    simp
  · obtain ⟨k, hk⟩ := Int.eq_ofNat_of_zero_le (Int.neg_nonneg.mpr h)
    obtain rfl : power = -(k : ℤ) := by omega
    simp [div_eq_mul_inv]

end GridClient.Numeral
