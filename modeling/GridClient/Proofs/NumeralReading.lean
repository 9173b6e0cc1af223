import GridClient.Buffer.Number
import GridClient.Guid

/-!
Numerals and identifiers read back from the texts that they are written as. Such texts are made of
digits and of hyphens alone, so that blanks, signs and braces have no part in their reading.
-/
namespace GridClient

/-! ### Decimal numerals -/

namespace Numeral

theorem digitValue?_digit {d : Nat} (h : d < 10) : digitValue? (digit d) = some d := by
  have hall : ∀ d < 10, digitValue? (digit d) = some d := by decide
  exact hall d h

theorem readFrom?_append (value : Nat) (cs ds : List Char) :
    readFrom? value (cs ++ ds) = (readFrom? value cs).bind fun n => readFrom? n ds := by
  induction cs generalizing value with
  | nil => rfl
  | cons c cs ih =>
    rw [List.cons_append, readFrom?, readFrom?]
    cases digitValue? c with
    | none => rfl
    | some d => exact ih _

theorem readFrom?_digits (n : Nat) : readFrom? 0 (digits n) = some n := by
  induction n using Nat.strongRecOn with
  | ind n ih =>
    rw [digits]
    by_cases h : n < 10
    · rw [dif_pos h, readFrom?, digitValue?_digit h]
      simp [readFrom?]
    · have hdigit := digitValue?_digit (show n % 10 < 10 by omega)
      rw [dif_neg h, readFrom?_append, ih (n / 10) (by omega), Option.bind_some, readFrom?, hdigit]
      simp only [readFrom?, Option.some.injEq]
      omega

/-- What holds of the ten digits holds of every numeral without a sign. -/
theorem forall_mem_digits {p : Char → Prop} (hdigit : ∀ d < 10, p (digit d)) (n : Nat) :
    ∀ c ∈ digits n, p c := by
  induction n using Nat.strongRecOn with
  | ind n ih =>
    intro c hc
    rw [digits] at hc
    split at hc
    · rename_i hlt
      rw [List.mem_singleton.mp hc]
      exact hdigit n hlt
    · rcases List.mem_append.mp hc with hc | hc
      · exact ih (n / 10) (by omega) c hc
      · rw [List.mem_singleton.mp hc]
        exact hdigit (n % 10) (by omega)

theorem digits_ne_nil (n : Nat) : digits n ≠ [] := by
  rw [digits]
  split <;> simp

theorem read?_digits (n : Nat) : read? (digits n) = some n := by
  have hread := readFrom?_digits n
  cases hd : digits n with
  | nil => exact absurd hd (digits_ne_nil n)
  | cons c cs => rwa [hd] at hread

theorem readInt?_digits (n : Nat) : readInt? (digits n) = some (n : Int) := by
  have hsign : ∀ c ∈ digits n, c ≠ '-' ∧ c ≠ '+' := forall_mem_digits (by decide) n
  have hread := read?_digits n
  unfold readInt?
  split
  · rename_i cs hd
    exact absurd rfl (hsign '-' (by rw [hd]; exact .head _)).1
  · rename_i cs hd
    exact absurd rfl (hsign '+' (by rw [hd]; exact .head _)).2
  · rw [hread]
    rfl

theorem readInt?_ofInt (i : Int) : readInt? (ofInt i) = some i := by
  unfold ofInt
  split
  · rw [readInt?, read?_digits]
    show some (-(i.natAbs : Int)) = some i
    rw [Option.some.injEq]
    omega
  · rw [readInt?_digits, Option.some.injEq]
    omega

/-- What holds of the minus sign and of the ten digits holds of every numeral. -/
theorem forall_mem_ofInt {p : Char → Prop} (hminus : p '-') (hdigit : ∀ d < 10, p (digit d))
    (i : Int) : ∀ c ∈ ofInt i, p c := by
  have hdigits := forall_mem_digits hdigit i.natAbs
  unfold ofInt
  split
  · exact List.forall_mem_cons.mpr ⟨hminus, hdigits⟩
  · exact hdigits

end Numeral

theorem Text.trim_of_not_blank {cs : List Char} (h : ∀ c ∈ cs, isBlank c = false) :
    trim cs = cs := by
  have hkeep (ds : List Char) (hds : ∀ c ∈ ds, isBlank c = false) :
      ds.dropWhile isBlank = ds := by
    cases ds with
    | nil => rfl
    | cons d ds => exact List.dropWhile_cons_of_neg (by simp [hds d (.head _)])
  rw [trim, hkeep cs h, hkeep cs.reverse (fun c hc => h c (List.mem_reverse.mp hc)),
    List.reverse_reverse]

/-- A numeral of 64 bits is read as the number it was written for. -/
theorem Number.read_ofInt (v : Int64) : Number.read false (Numeral.ofInt v.toInt) = .int64 v := by
  have hblank : ∀ c ∈ Numeral.ofInt v.toInt, Text.isBlank c = false :=
    Numeral.forall_mem_ofInt (by decide) (by decide) v.toInt
  have hlow := v.le_toInt
  have hhigh := v.toInt_lt
  have hint : Number.readInt64? (Numeral.ofInt v.toInt) = some v := by
    rw [Number.readInt64?, Numeral.readInt?_ofInt]
    simp only
    rw [if_pos (by omega), Int64.ofInt_toInt]
  rw [Number.read, Text.trim_of_not_blank hblank]
  simp only [hint]
  rfl

/-! ### Hexadecimal numerals -/

theorem Utf8.size_of_ascii {cs : List Char} (h : ∀ c ∈ cs, c.utf8Size = 1) :
    size cs = cs.length := by
  induction cs with
  | nil => rfl
  | cons c cs ih =>
    rw [size, h c (.head _), ih fun c hc => h c (.tail _ hc), List.length_cons, Nat.add_comm]

namespace Hex

theorem digitValue?_lowerDigit {d : Nat} (h : d < 16) : digitValue? (lowerDigit d) = some d := by
  have hall : ∀ d < 16, digitValue? (lowerDigit d) = some d := by decide
  exact hall d h

theorem readFrom?_append (value : Nat) (cs ds : List Char) :
    readFrom? value (cs ++ ds) = (readFrom? value cs).bind fun n => readFrom? n ds := by
  induction cs generalizing value with
  | nil => rfl
  | cons c cs ih =>
    rw [List.cons_append, readFrom?, readFrom?]
    cases digitValue? c with
    | none => rfl
    | some d => exact ih _

/-- How many numerals of a width there are. -/
def numeralCount : Nat → Nat
  | 0 => 1
  | width + 1 => 16 * numeralCount width

/-- A numeral shifts what was read before it. -/
theorem readFrom?_numeral (value width n : Nat) :
    readFrom? value (numeral width n) =
      some (numeralCount width * value + n % numeralCount width) := by
  induction width generalizing n with
  | zero =>
    show some value = some (1 * value + n % 1)
    rw [Nat.one_mul, Nat.mod_one, Nat.add_zero]
  | succ width ih =>
    have hdigit := digitValue?_lowerDigit (show n % 16 < 16 by omega)
    rw [numeral, readFrom?_append, ih, Option.bind_some, readFrom?, hdigit]
    simp only [readFrom?, Option.some.injEq]
    rw [numeralCount, Nat.mod_mul, Nat.mul_add, Nat.mul_assoc]
    omega

theorem exists_of_mem_numeral {width n : Nat} {c : Char} (h : c ∈ numeral width n) :
    ∃ d < 16, c = lowerDigit d := by
  induction width generalizing n with
  | zero => cases h
  | succ width ih =>
    rcases List.mem_append.mp h with h | h
    · exact ih h
    · exact ⟨n % 16, by omega, List.mem_singleton.mp h⟩

theorem hyphen_not_mem_numeral (width n : Nat) : '-' ∉ numeral width n := by
  have hall : ∀ d < 16, lowerDigit d ≠ '-' := by decide
  intro h
  obtain ⟨d, hlt, hc⟩ := exists_of_mem_numeral h
  exact hall d hlt hc.symm

/-- Each digit takes one byte. -/
theorem size_numeral (width n : Nat) : Utf8.size (numeral width n) = width := by
  have hdigit : ∀ d < 16, (lowerDigit d).utf8Size = 1 := by decide
  have hascii : ∀ c ∈ numeral width n, c.utf8Size = 1 := by
    intro c hc
    obtain ⟨d, hlt, rfl⟩ := exists_of_mem_numeral hc
    exact hdigit d hlt
  rw [Utf8.size_of_ascii hascii, length_numeral]

end Hex

/-! ### Identifiers -/

namespace Text

variable {separator : Char}

theorem splitAt_of_not_mem {cs : List Char} (h : separator ∉ cs) : splitAt separator cs = [cs] := by
  induction cs with
  | nil => rfl
  | cons c cs ih =>
    obtain ⟨hne, hmem⟩ := List.ne_and_not_mem_of_not_mem_cons h
    rw [splitAt, ih hmem]
    simp only [Ne.symm hne, if_false]

theorem splitAt_append {piece : List Char} (h : separator ∉ piece) (rest : List Char) :
    splitAt separator (piece ++ separator :: rest) = piece :: splitAt separator rest := by
  induction piece with
  | nil =>
    rw [List.nil_append, splitAt]
    cases hs : splitAt separator rest with
    | nil => exact absurd hs (splitAt_ne_nil separator rest)
    | cons first pieces => simp only [if_true]
  | cons c piece ih =>
    obtain ⟨hne, hmem⟩ := List.ne_and_not_mem_of_not_mem_cons h
    rw [List.cons_append, splitAt, ih hmem]
    simp only [Ne.symm hne, if_false]

end Text

namespace Guid

variable (g : Guid)

theorem mem_chars {c : Char} (h : c ∈ g.chars) : c = '-' ∨ ∃ d < 16, c = Hex.lowerDigit d := by
  simp only [chars, List.mem_append, List.mem_cons] at h
  rcases h with (((h | h | h) | h | h) | h | h) | h | h
  all_goals first
    | exact .inl h
    | exact .inr (Hex.exists_of_mem_numeral h)

/-- What holds of the hyphen and of the sixteen digits holds of every identifier. -/
theorem forall_mem_chars {p : Char → Prop} (hhyphen : p '-')
    (hdigit : ∀ d < 16, p (Hex.lowerDigit d)) : ∀ c ∈ g.chars, p c := by
  intro c hc
  rcases g.mem_chars hc with rfl | ⟨d, hlt, rfl⟩
  · exact hhyphen
  · exact hdigit d hlt

theorem ofNat_toNat : ofNat g.toNat = g := by
  have hmost := g.most.toUInt64.toNat_lt
  have hleast := g.least.toUInt64.toNat_lt
  have hdiv : g.toNat / UInt64.size = g.most.toUInt64.toNat := by
    unfold toNat
    simp only [UInt64.size]
    omega
  have hlow : UInt64.ofNat g.toNat = g.least.toUInt64 := by
    apply UInt64.toNat_inj.mp
    rw [UInt64.toNat_ofNat']
    unfold toNat
    simp only [UInt64.size]
    omega
  rw [ofNat, hdiv, hlow, UInt64.ofNat_toNat]
  rfl

/-- The five groups of digits, one behind the other, are the whole number. -/
def groups (g : Guid) : List (List Char) :=
  let most := g.most.toUInt64.toNat
  let least := g.least.toUInt64.toNat
  [Hex.numeral 8 (most >>> 32), Hex.numeral 4 (most >>> 16), Hex.numeral 4 most,
    Hex.numeral 4 (least >>> 48), Hex.numeral 12 least]

theorem splitAt_chars : Text.splitAt '-' g.chars = g.groups := by
  simp only [chars, groups, List.append_assoc, List.cons_append]
  rw [Text.splitAt_append (Hex.hyphen_not_mem_numeral _ _),
    Text.splitAt_append (Hex.hyphen_not_mem_numeral _ _),
    Text.splitAt_append (Hex.hyphen_not_mem_numeral _ _),
    Text.splitAt_append (Hex.hyphen_not_mem_numeral _ _),
    Text.splitAt_of_not_mem (Hex.hyphen_not_mem_numeral _ _)]

theorem readFrom?_groups : Hex.readFrom? 0 g.groups.flatten = some g.toNat := by
  have hmost := g.most.toUInt64.toNat_lt
  have hleast := g.least.toUInt64.toNat_lt
  simp only [groups, List.flatten_cons, List.flatten_nil, List.append_nil, Hex.readFrom?_append,
    Hex.readFrom?_numeral, Option.bind_some, Option.some.injEq, Nat.shiftRight_eq_div_pow,
    Hex.numeralCount]
  unfold toNat
  simp only [UInt64.size]
  omega

theorem readDigits?_groups : readDigits? g.groups.flatten = some g.toNat := by
  have hplus : ∀ d < 16, Hex.lowerDigit d ≠ '+' := by decide
  have hmem : '+' ∉ g.groups.flatten := by
    intro h
    simp only [groups, List.flatten_cons, List.flatten_nil, List.append_nil, List.mem_append] at h
    rcases h with h | h | h | h | h
    all_goals
      obtain ⟨d, hlt, hc⟩ := Hex.exists_of_mem_numeral h
      exact hplus d hlt hc.symm
  have hlength : g.groups.flatten.length = 32 := by simp [groups]
  unfold readDigits?
  split
  · rename_i hnil
    rw [hnil] at hlength
    cases hlength
  · rename_i hcs
    exact absurd (by rw [hcs]; exact .head _) hmem
  · rename_i cs _ hcs
    exact absurd (by rw [hcs]; exact .head _) hmem
  · exact g.readFrom?_groups

theorem withoutBraces_chars : withoutBraces g.chars = g.chars := by
  have hbrace : ∀ c ∈ g.chars, c ≠ '\x7b' := g.forall_mem_chars (by decide) (by decide)
  unfold withoutBraces
  split
  · rename_i cs hcs
    exact absurd rfl (hbrace '\x7b' (by rw [hcs]; exact .head _))
  · rfl

/-- The canonical text is read as the identifier that it was written for. -/
theorem read?_chars : read? g.chars = some g := by
  have hblank : ∀ c ∈ g.chars, Text.isBlank c = false := g.forall_mem_chars (by decide) (by decide)
  have hsizes : g.groups.map Utf8.size = groupSizes := by
    simp only [groups, List.map_cons, List.map_nil, Hex.size_numeral, groupSizes]
  rw [read?, Text.trim_of_not_blank hblank, withoutBraces_chars, splitAt_chars,
    if_pos hsizes, readDigits?_groups, Option.map_some, ofNat_toNat]

end Guid

end GridClient
