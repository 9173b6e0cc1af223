import GridClient.Proofs.HexDigits
import Mathlib.Data.List.TakeWhile

/-!
Which texts are read as identifiers, and as which ones. Groups of hexadecimal digits are, with
hyphens between them, blanks around them and braces inside of the blanks. So is a plus sign in place
of the first digit, which the reader of the number lets pass, and it counts as a zero.
-/
namespace GridClient

/-! ### Blanks and groups -/

namespace Text

/-- A text with nothing taken off it but blanks at both ends, and all of those. -/
structure Trims (cs inner : List Char) : Prop where
  around : ∃ before after, cs = before ++ inner ++ after ∧ ∀ c ∈ before ++ after, isBlank c = true
  first : ∀ c ∈ inner.head?, isBlank c = false
  last : ∀ c ∈ inner.getLast?, isBlank c = false

theorem dropWhile_isBlank_append {blank cs : List Char} (h : ∀ c ∈ blank, isBlank c = true)
    (hfirst : ∀ c ∈ cs.head?, isBlank c = false) : (blank ++ cs).dropWhile isBlank = cs := by
  rw [List.dropWhile_append_of_pos h]
  cases cs with
  | nil => rfl
  | cons c cs => exact List.dropWhile_cons_of_neg (by simp [hfirst c rfl])

theorem first_dropWhile_isBlank (cs : List Char) :
    ∀ c ∈ (cs.dropWhile isBlank).head?, isBlank c = false := by
  intro c hc
  have h := List.head?_dropWhile_not isBlank cs
  rwa [hc] at h

theorem exists_blank_append (cs : List Char) :
    ∃ blank, cs = blank ++ cs.dropWhile isBlank ∧ ∀ c ∈ blank, isBlank c = true :=
  ⟨cs.takeWhile isBlank, List.takeWhile_append_dropWhile.symm, fun _ => List.mem_takeWhile_imp⟩

theorem Trims.trim_eq {cs inner : List Char} (h : Trims cs inner) : trim cs = inner := by
  obtain ⟨⟨before, after, rfl, hblank⟩, hfirst, hlast⟩ := h
  have hbefore : ∀ c ∈ before, isBlank c = true :=
    fun c hc => hblank c (List.mem_append_left after hc)
  have hafter : ∀ c ∈ after.reverse, isBlank c = true :=
    fun c hc => hblank c (List.mem_append_right before (List.mem_reverse.mp hc))
  rw [trim, List.append_assoc]
  by_cases hnil : inner = []
  · subst hnil
    have hall : ((before ++ after) ++ []).dropWhile isBlank = [] :=
      dropWhile_isBlank_append hblank (fun c hc => by cases hc)
    rw [List.append_nil] at hall
    rw [List.nil_append, hall]
    rfl
  · obtain ⟨c, rest, rfl⟩ := List.exists_cons_of_ne_nil hnil
    have hback : ∀ d ∈ (c :: rest).reverse.head?, isBlank d = false := by
      rwa [List.head?_reverse]
    have hfront : ∀ d ∈ (c :: rest ++ after).head?, isBlank d = false := hfirst
    rw [dropWhile_isBlank_append hbefore hfront, List.reverse_append,
      dropWhile_isBlank_append hafter hback, List.reverse_reverse]

theorem trims_trim (cs : List Char) : Trims cs (trim cs) := by
  obtain ⟨before, hcs, hbefore⟩ := exists_blank_append cs
  obtain ⟨after, hrest, hafter⟩ := exists_blank_append (cs.dropWhile isBlank).reverse
  have hinner : cs.dropWhile isBlank = trim cs ++ after.reverse := by
    have hturned := congrArg List.reverse hrest
    rwa [List.reverse_reverse, List.reverse_append] at hturned
  refine ⟨⟨before, after.reverse, ?_, ?_⟩, ?_, ?_⟩
  · rw [List.append_assoc, ← hinner]
    exact hcs
  · intro c hc
    rcases List.mem_append.mp hc with hc | hc
    · exact hbefore c hc
    · exact hafter c (List.mem_reverse.mp hc)
  · intro c hc
    apply first_dropWhile_isBlank cs
    rw [hinner, List.head?_append, hc]
    rfl
  · intro c hc
    rw [trim, List.getLast?_reverse] at hc
    exact first_dropWhile_isBlank _ c hc

theorem splitAt_eq_splitOn (separator : Char) (cs : List Char) :
    splitAt separator cs = cs.splitOn separator := by
  induction cs with
  | nil => rfl
  | cons c cs ih =>
    rw [splitAt, ih, List.splitOn, List.splitOn, List.splitOnP_cons_eq_if_modifyHead]
    obtain ⟨piece, pieces, hp⟩ := List.exists_cons_of_ne_nil
      (List.splitOnP_ne_nil (· == separator) cs)
    simp only [hp, beq_iff_eq, List.modifyHead_cons]

theorem map_intercalate (f : Char → Char) (separator : Char) (pieces : List (List Char)) :
    ([separator].intercalate pieces).map f =
      [f separator].intercalate (pieces.map (List.map f)) := by
  induction pieces with
  | nil => rfl
  | cons piece pieces ih =>
    cases pieces with
    | nil => simp
    | cons next pieces =>
      simp only [List.map_cons, List.intercalate_cons_cons, List.map_append, List.map_nil] at ih ⊢
      rw [ih]

end Text

namespace Guid

variable {g : Guid} {cs : List Char} {groups : List (List Char)}

/-! ### Braces -/

/-- What is inside of a pair of braces, or the whole text when there is no such pair. -/
inductive Unwraps : List Char → List Char → Prop where
  | braced (body : List Char) : Unwraps ('\x7b' :: (body ++ ['\x7d'])) body
  | bare {body : List Char} (h : ∀ inside, body ≠ '\x7b' :: (inside ++ ['\x7d'])) :
    Unwraps body body

theorem Unwraps.withoutBraces_eq {inner body : List Char} (h : Unwraps inner body) :
    withoutBraces inner = body := by
  cases h with
  | braced => simp [withoutBraces]
  | bare h =>
    unfold withoutBraces
    split
    case h_1 rest =>
      by_cases hlast : rest.getLast? = some '\x7d'
      · obtain ⟨inside, rfl⟩ := List.getLast?_eq_some_iff.mp hlast
        exact absurd rfl (h inside)
      · rw [if_neg hlast]
    case h_2 => rfl

theorem unwraps_withoutBraces (inner : List Char) : Unwraps inner (withoutBraces inner) := by
  by_cases h : ∃ inside, inner = '\x7b' :: (inside ++ ['\x7d'])
  · obtain ⟨inside, rfl⟩ := h
    rw [(Unwraps.braced inside).withoutBraces_eq]
    exact .braced inside
  · have hbare : Unwraps inner inner := .bare (not_exists.mp h)
    rwa [hbare.withoutBraces_eq]

/-! ### Groups -/

/-- Five groups of hexadecimal digits, in their sizes. -/
structure Canonical (groups : List (List Char)) : Prop where
  lengths : groups.map List.length = [8, 4, 4, 4, 12]
  digits : ∀ group ∈ groups, ∀ c ∈ group, Hex.IsDigit c

/-- A text with a zero in place of a plus sign in front of it. -/
def plusAsZero : List Char → List Char
  | '+' :: cs => '0' :: cs
  | cs => cs

/-- Reads an identifier with nothing around it. -/
def readBare? (cs : List Char) : Option Guid :=
  if (Text.splitAt '-' cs).map Utf8.size = groupSizes then
    (readDigits? (Text.splitAt '-' cs).flatten).map ofNat
  else none

theorem Canonical.length_flatten (h : Canonical groups) : groups.flatten.length = 32 := by
  rw [List.length_flatten, h.lengths]
  rfl

theorem Canonical.splitAt_intercalate (h : Canonical groups) :
    Text.splitAt '-' (['-'].intercalate groups) = groups := by
  have hne : groups ≠ [] := by
    rintro rfl
    cases h.lengths
  have hhyphen : ∀ group ∈ groups, '-' ∉ group := by
    intro group hgroup hmem
    exact absurd (h.digits group hgroup '-' hmem) (by decide)
  rw [Text.splitAt_eq_splitOn, List.splitOn_intercalate '-' hhyphen hne]

theorem Canonical.sizes (h : Canonical groups) : groups.map Utf8.size = groupSizes := by
  rw [groupSizes, ← h.lengths]
  exact List.map_congr_left fun group hgroup => Hex.size_eq_length (h.digits group hgroup)

theorem splitAt_cons {c : Char} (hc : c ≠ '-') (rest : List Char) :
    ∃ piece pieces, Text.splitAt '-' rest = piece :: pieces ∧
      Text.splitAt '-' (c :: rest) = (c :: piece) :: pieces := by
  obtain ⟨piece, pieces, hrest⟩ := List.exists_cons_of_ne_nil (Text.splitAt_ne_nil '-' rest)
  refine ⟨piece, pieces, hrest, ?_⟩
  rw [Text.splitAt, hrest]
  exact if_neg hc

/-- Groups of the sizes of an identifier begin with a character that is no hyphen. -/
theorem exists_cons_of_sizes (h : (Text.splitAt '-' cs).map Utf8.size = groupSizes) :
    ∃ c rest, cs = c :: rest ∧ c ≠ '-' := by
  cases cs with
  | nil => cases h
  | cons c rest =>
    refine ⟨c, rest, rfl, ?_⟩
    rintro rfl
    have hsplit : Text.splitAt '-' ('-' :: rest) = [] :: Text.splitAt '-' rest :=
      Text.splitAt_append List.not_mem_nil rest
    rw [hsplit] at h
    cases h

theorem readDigits?_plus (h : cs ≠ []) : readDigits? ('+' :: cs) = Hex.readFrom? 0 cs := by
  cases cs with
  | nil => exact absurd rfl h
  | cons => rfl

theorem readDigits?_of_ne_plus {c : Char} (h : c ≠ '+') :
    readDigits? (c :: cs) = Hex.readFrom? 0 (c :: cs) := by
  unfold readDigits?
  split
  case h_1 hnil => cases hnil
  case h_2 hplus => exact absurd (List.cons.inj hplus).1 h
  case h_3 hplus => exact absurd (List.cons.inj hplus).1 h
  case h_4 => rfl

theorem readBare?_plusAsZero (cs : List Char) : readBare? (plusAsZero cs) = readBare? cs := by
  unfold plusAsZero
  split
  case h_1 rest =>
    obtain ⟨piece, pieces, hrest, hplus⟩ := splitAt_cons (c := '+') (by decide) rest
    obtain ⟨_, _, hrest', hzero⟩ := splitAt_cons (c := '0') (by decide) rest
    cases hrest'.symm.trans hrest
    have hsizes : (('0' :: piece) :: pieces).map Utf8.size =
        (('+' :: piece) :: pieces).map Utf8.size := rfl
    rw [readBare?, readBare?, hplus, hzero, hsizes]
    by_cases h : (('+' :: piece) :: pieces).map Utf8.size = groupSizes
    · have hne : piece ++ pieces.flatten ≠ [] := by
        intro hnil
        obtain ⟨rfl, -⟩ := List.append_eq_nil_iff.mp hnil
        cases h
      rw [if_pos h, if_pos h, List.flatten_cons, List.flatten_cons, List.cons_append,
        List.cons_append, readDigits?_plus hne, readDigits?_of_ne_plus (by decide)]
      rfl
    · rw [if_neg h, if_neg h]
  case h_2 => rfl

theorem toNat_ofNat {n : ℕ} (h : n < 2 ^ 128) : (ofNat n).toNat = n := by
  have hmost : (ofNat n).most.toUInt64.toNat = n / UInt64.size % 2 ^ 64 :=
    UInt64.toNat_ofNat'
  have hleast : (ofNat n).least.toUInt64.toNat = n % 2 ^ 64 := UInt64.toNat_ofNat'
  rw [toNat, hmost, hleast, UInt64.size]
  omega

theorem Canonical.forall_mem_flatten (h : Canonical groups) :
    ∀ c ∈ groups.flatten, Hex.IsDigit c := by
  intro c hc
  obtain ⟨group, hgroup, hc⟩ := List.mem_flatten.mp hc
  exact h.digits group hgroup c hc

theorem Canonical.number_lt (h : Canonical groups) : Hex.number groups.flatten < 2 ^ 128 := by
  have hlt := Hex.number_lt h.forall_mem_flatten
  rw [h.length_flatten] at hlt
  exact hlt

theorem Canonical.readDigits?_flatten (h : Canonical groups) :
    readDigits? groups.flatten = some (Hex.number groups.flatten) := by
  have hlength := h.length_flatten
  have hdigits := h.forall_mem_flatten
  generalize groups.flatten = cs at hlength hdigits ⊢
  cases cs with
  | nil => cases hlength
  | cons c cs =>
    have hplus : c ≠ '+' := by
      rintro rfl
      exact absurd (hdigits '+' (.head _)) (by decide)
    rw [readDigits?_of_ne_plus hplus, Hex.readFrom?_eq_some_iff]
    exact ⟨hdigits, by omega⟩

/-- Without a plus sign in front, what is read is canonical. -/
theorem canonical_of_readBare? (hplus : cs.head? ≠ some '+') (h : readBare? cs = some g) :
    Canonical (Text.splitAt '-' cs) := by
  rw [readBare?, Option.ite_none_right_eq_some] at h
  obtain ⟨hsizes, hread⟩ := h
  obtain ⟨n, hdigits, -⟩ := Option.map_eq_some_iff.mp hread
  obtain ⟨c, rest, rfl, hc⟩ := exists_cons_of_sizes hsizes
  have hne : c ≠ '+' := fun heq => hplus (congrArg some heq)
  obtain ⟨piece, pieces, -, hsplit⟩ := splitAt_cons hc rest
  rw [hsplit] at hsizes hdigits ⊢
  rw [List.flatten_cons, List.cons_append, readDigits?_of_ne_plus hne,
    Hex.readFrom?_eq_some_iff] at hdigits
  have hall : ∀ group ∈ (c :: piece) :: pieces, ∀ d ∈ group, Hex.IsDigit d := by
    intro group hgroup d hd
    exact hdigits.1 d (List.mem_flatten.mpr ⟨group, hgroup, hd⟩)
  refine ⟨?_, hall⟩
  rw [← List.map_congr_left fun group hgroup => Hex.size_eq_length (hall group hgroup)]
  exact hsizes

/-- Canonical groups are read as the number that they denote. -/
theorem Canonical.readBare?_intercalate (h : Canonical groups) :
    readBare? (['-'].intercalate groups) = some (ofNat (Hex.number groups.flatten)) := by
  rw [readBare?, h.splitAt_intercalate, if_pos h.sizes, h.readDigits?_flatten, Option.map_some]

theorem readBare?_eq_some_iff (hplus : cs.head? ≠ some '+') :
    readBare? cs = some g ↔
      ∃ groups, Canonical groups ∧ cs = ['-'].intercalate groups ∧
        g.toNat = Hex.number groups.flatten := by
  constructor
  · intro h
    have hgroups := canonical_of_readBare? hplus h
    have hcs : cs = ['-'].intercalate (Text.splitAt '-' cs) := by
      rw [Text.splitAt_eq_splitOn, List.intercalate_splitOn]
    refine ⟨Text.splitAt '-' cs, hgroups, hcs, ?_⟩
    have hread := hgroups.readBare?_intercalate
    rw [← hcs, h] at hread
    rw [Option.some.inj hread, toNat_ofNat hgroups.number_lt]
  · rintro ⟨groups, hgroups, rfl, hnumber⟩
    rw [hgroups.readBare?_intercalate, ← hnumber, ofNat_toNat]

/-! ### The text of an identifier -/

theorem canonical_groups (g : Guid) : Canonical g.groups where
  lengths := by simp [groups]
  digits := by
    have hdigit : ∀ d < 16, Hex.IsDigit (Hex.lowerDigit d) := by decide
    intro group hgroup c hc
    simp only [groups, List.mem_cons, List.not_mem_nil, or_false] at hgroup
    rcases hgroup with rfl | rfl | rfl | rfl | rfl
    all_goals
      obtain ⟨d, hlt, rfl⟩ := Hex.exists_of_mem_numeral hc
      exact hdigit d hlt

theorem number_groups (g : Guid) : Hex.number g.groups.flatten = g.toNat := by
  have h := (Hex.readFrom?_eq_some_iff.mp g.readFrom?_groups).2
  omega

theorem chars_eq_intercalate (g : Guid) : g.chars = ['-'].intercalate g.groups := by
  rw [← splitAt_chars, Text.splitAt_eq_splitOn, List.intercalate_splitOn]

theorem map_toLower_chars (g : Guid) : g.chars.map Char.toLower = g.chars := by
  have hlower : ∀ c ∈ g.chars, c.toLower = c := g.forall_mem_chars (by decide) (by decide)
  exact (List.map_congr_left hlower).trans (List.map_id _)

/-- The text of an identifier is that of its groups in lower case. -/
theorem Canonical.chars_eq (h : Canonical groups) (hnumber : g.toNat = Hex.number groups.flatten) :
    g.chars = (['-'].intercalate groups).map Char.toLower := by
  have hown := g.canonical_groups
  have hdigits := Hex.map_toLower_eq hown.forall_mem_flatten h.forall_mem_flatten
    (hown.length_flatten.trans h.length_flatten.symm) (g.number_groups.trans hnumber)
  have hgroups : g.groups.map (List.map Char.toLower) = groups.map (List.map Char.toLower) := by
    rw [List.eq_iff_flatten_eq, ← List.map_flatten, ← List.map_flatten]
    refine ⟨hdigits, ?_⟩
    simp only [List.map_map, Function.comp_def, List.length_map]
    exact hown.lengths.trans h.lengths.symm
  calc g.chars = g.chars.map Char.toLower := g.map_toLower_chars.symm
    _ = ['-'].intercalate (g.groups.map (List.map Char.toLower)) := by
      rw [chars_eq_intercalate, Text.map_intercalate]
      rfl
    _ = (['-'].intercalate groups).map Char.toLower := by
      rw [hgroups, Text.map_intercalate]
      rfl

theorem head?_plusAsZero (cs : List Char) : (plusAsZero cs).head? ≠ some '+' := by
  unfold plusAsZero
  split
  case h_1 => simp
  case h_2 hplus =>
    intro hhead
    obtain ⟨rest, rfl⟩ := List.head?_eq_some_iff.mp hhead
    exact hplus rest rfl

/-- A text is read exactly when, without blanks and braces around it, it is groups of eight, four,
four, four and twelve hexadecimal digits with hyphens between them. A plus sign in place of the
first digit counts as a zero. -/
theorem parse?_reads_groups (text : String) (g : Guid) :
    (parse? text = some g ↔
      ∃ inner body groups, Text.Trims text.toList inner ∧ Unwraps inner body ∧ Canonical groups ∧
        plusAsZero body = ['-'].intercalate groups ∧ g.toNat = Hex.number groups.flatten) ∧
    ∀ inner body, Text.Trims text.toList inner → Unwraps inner body → parse? text = some g →
      g.text.toList = (plusAsZero body).map Char.toLower := by
  have hread (inner body : List Char) (htrims : Text.Trims text.toList inner)
      (hunwraps : Unwraps inner body) : parse? text = some g ↔
        ∃ groups, Canonical groups ∧ plusAsZero body = ['-'].intercalate groups ∧
          g.toNat = Hex.number groups.flatten := by
    have hparse : parse? text = readBare? (withoutBraces (Text.trim text.toList)) := rfl
    rw [hparse, htrims.trim_eq, hunwraps.withoutBraces_eq, ← readBare?_plusAsZero,
      readBare?_eq_some_iff (head?_plusAsZero body)]
  constructor
  · constructor
    · intro h
      have htrims := Text.trims_trim text.toList
      have hunwraps := unwraps_withoutBraces (Text.trim text.toList)
      obtain ⟨groups, hgroups⟩ := (hread _ _ htrims hunwraps).mp h
      exact ⟨_, _, groups, htrims, hunwraps, hgroups⟩
    · rintro ⟨inner, body, groups, htrims, hunwraps, hgroups⟩
      exact (hread inner body htrims hunwraps).mpr ⟨groups, hgroups⟩
  · intro inner body htrims hunwraps h
    obtain ⟨groups, hgroups, hbody, hnumber⟩ := (hread inner body htrims hunwraps).mp h
    have htext : g.text.toList = g.chars := String.toList_ofList
    rw [htext, hbody]
    exact hgroups.chars_eq hnumber

/-- A plus sign is read in place of a digit, in a text that no groups of digits spell, and the text
of what is read begins with a zero instead. -/
theorem plus_read_as_digit :
    parse? "+fffffff-ffff-ffff-ffff-ffffffffffff" = some ⟨0x0FFFFFFFFFFFFFFF, -1⟩ ∧
    (Guid.mk 0x0FFFFFFFFFFFFFFF (-1)).text = "0fffffff-ffff-ffff-ffff-ffffffffffff" ∧
    ¬ ∃ inner body groups,
      Text.Trims "+fffffff-ffff-ffff-ffff-ffffffffffff".toList inner ∧ Unwraps inner body ∧
        Canonical groups ∧ body = ['-'].intercalate groups := by
  refine ⟨by decide, by decide, ?_⟩
  rintro ⟨inner, body, groups, htrims, hunwraps, hgroups, hbody⟩
  have hsplit : Text.splitAt '-'
      (withoutBraces (Text.trim "+fffffff-ffff-ffff-ffff-ffffffffffff".toList)) = groups := by
    rw [htrims.trim_eq, hunwraps.withoutBraces_eq, hbody, hgroups.splitAt_intercalate]
  have hplus : ['+', 'f', 'f', 'f', 'f', 'f', 'f', 'f'] ∈ groups := by
    rw [← hsplit]
    decide
  exact absurd (hgroups.digits _ hplus '+' (.head _)) (by decide)

end Guid

end GridClient
