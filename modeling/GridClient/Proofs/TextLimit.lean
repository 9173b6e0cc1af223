import GridClient.Buffer.Get
import GridClient.Proofs.Reading
import GridClient.Proofs.TextReading
import Mathlib.Data.Nat.Find

/-!
Texts that are cut to a limit. The cut goes back from the limit to the nearest place where no
character is parted. That is at most three bytes away, and what stands before it is as much of the
text as the limit has room for.
-/
namespace GridClient

namespace Utf8

/-! ### The bytes of a character -/

theorem isContinuation_ofNat {n : Nat} (h : n < 256) :
    isContinuation (UInt8.ofNat n) = true ↔ 0x80 ≤ n ∧ n < 0xC0 := by
  rw [isContinuation, Bool.and_eq_true, decide_eq_true_eq, decide_eq_true_eq,
    UInt8.le_iff_toNat_le, UInt8.le_iff_toNat_le, toNat_byte h]
  simp only [UInt8.reduceToNat]
  omega

/-- The first byte of a character begins it, and at most three go on with it. -/
theorem exists_encodeChar (c : Char) :
    ∃ b more, String.utf8EncodeChar c = b :: more ∧ isContinuation b = false ∧
      (∀ b ∈ more, isContinuation b = true) ∧ more.length ≤ 3 := by
  obtain ⟨n, hn⟩ : ∃ n, c.val.toNat = n := ⟨_, rfl⟩
  have hvalid : n < 0xD800 ∨ 0xDFFF < n ∧ n < 0x110000 := hn ▸ c.valid
  have hfirst {m : Nat} (hm : m < 256) (hrange : m < 0x80 ∨ 0xC0 ≤ m) :
      isContinuation (UInt8.ofNat m) = false := by
    rw [← Bool.not_eq_true, isContinuation_ofNat hm]
    omega
  have hmore (m : Nat) : isContinuation (UInt8.ofNat (m % 64 + 128)) = true := by
    rw [isContinuation_ofNat (by omega)]
    omega
  simp only [String.utf8EncodeChar, hn]
  -- the code point decides on one, two, three or four bytes
  by_cases h1 : n ≤ 0x7F
  · rw [if_pos h1]
    exact ⟨_, _, rfl, hfirst (by omega) (by omega), nofun, by simp⟩
  rw [if_neg h1]
  by_cases h2 : n ≤ 0x7FF
  · rw [if_pos h2]
    refine ⟨_, _, rfl, hfirst (by omega) (by omega), ?_, by simp⟩
    exact List.forall_mem_singleton.mpr (hmore _)
  rw [if_neg h2]
  by_cases h3 : n ≤ 0xFFFF
  · rw [if_pos h3]
    refine ⟨_, _, rfl, hfirst (by omega) (by omega), ?_, by simp⟩
    exact List.forall_mem_cons.mpr ⟨hmore _, List.forall_mem_singleton.mpr (hmore _)⟩
  · rw [if_neg h3]
    refine ⟨_, _, rfl, hfirst (by omega) (by omega), ?_, by simp⟩
    exact List.forall_mem_cons.mpr
      ⟨hmore _, List.forall_mem_cons.mpr ⟨hmore _, List.forall_mem_singleton.mpr (hmore _)⟩⟩

theorem encode_append (head tail : String) :
    encode (head ++ tail) = encode head ++ encode tail := by
  simp only [encode_eq, String.toList_append, List.flatMap_append]

/-! ### Boundaries -/

section

variable {b : UInt8} {more rest bytes : Bytes} {place : Nat}

theorem isBoundary_zero (bytes : Bytes) : isBoundary bytes 0 = true := rfl

/-- No boundary is inside a character. -/
theorem isBoundary_inside (hmore : ∀ b ∈ more, isContinuation b = true)
    (hlt : place < more.length) :
    isBoundary (b :: more ++ rest) (place + 1) = false := by
  have hget : (b :: more ++ rest)[place + 1]? = some more[place] := by
    rw [List.cons_append, List.getElem?_cons_succ, List.getElem?_append_left hlt,
      List.getElem?_eq_getElem hlt]
  have hcontinues := hmore more[place] (List.getElem_mem hlt)
  simp only [isBoundary, hget, hcontinues]
  rfl

/-- Behind a character the boundaries are those of what follows it. -/
theorem isBoundary_behind (b : UInt8) (more : Bytes) (place : Nat)
    (hrest : ∀ b, rest.head? = some b → isContinuation b = false) :
    isBoundary (b :: more ++ rest) ((b :: more).length + place) = isBoundary rest place := by
  have hget : (b :: more ++ rest)[(b :: more).length + place]? = rest[place]? := by
    rw [List.getElem?_append_right (Nat.le_add_right _ _), Nat.add_sub_cancel_left]
  have hpos : (b :: more).length + place ≠ 0 := by
    rw [List.length_cons]
    omega
  simp only [isBoundary, hget, hpos, List.length_append, Nat.add_left_cancel_iff]
  by_cases hzero : place = 0
  · subst hzero
    rw [← List.head?_eq_getElem?]
    cases rest with
    | nil => rfl
    | cons r rest => simp [hrest r rfl]
  · simp [hzero]

theorem head?_flatMap_encodeChar (cs : List Char) :
    ∀ b, (cs.flatMap String.utf8EncodeChar).head? = some b → isContinuation b = false := by
  intro b hb
  cases cs with
  | nil => cases hb
  | cons c cs =>
    obtain ⟨first, more, hencode, hfirst, -⟩ := exists_encodeChar c
    rw [List.flatMap_cons, hencode] at hb
    cases hb
    exact hfirst

/-- The boundaries of a run of characters are where a number of them ends. -/
theorem isBoundary_flatMap_iff {cs : List Char} :
    isBoundary (cs.flatMap String.utf8EncodeChar) place = true ↔
      ∃ head, head <+: cs ∧ (head.flatMap String.utf8EncodeChar).length = place := by
  induction cs generalizing place with
  | nil =>
    simp only [List.prefix_nil]
    cases place with
    | zero => simp [isBoundary]
    | succ place => simp [isBoundary]
  | cons c cs ih =>
    obtain ⟨b, more, hencode, hb, hmore, -⟩ := exists_encodeChar c
    have hbehind (k : Nat) := isBoundary_behind b more k (head?_flatMap_encodeChar cs)
    have hlen : (String.utf8EncodeChar c).length = more.length + 1 := by
      rw [hencode, List.length_cons]
    rw [List.flatMap_cons]
    constructor
    · intro hplace
      rcases Nat.lt_or_ge place (more.length + 1) with hlt | hge
      · cases place with
        | zero => exact ⟨[], List.nil_prefix, rfl⟩
        | succ place =>
          rw [hencode, isBoundary_inside hmore (by omega)] at hplace
          cases hplace
      · obtain ⟨k, rfl⟩ := Nat.exists_eq_add_of_le hge
        rw [hencode, ← List.length_cons (a := b), hbehind, ih] at hplace
        obtain ⟨head, hprefix, hlength⟩ := hplace
        refine ⟨c :: head, (List.prefix_cons_inj c).mpr hprefix, ?_⟩
        rw [List.flatMap_cons, List.length_append, hlen, hlength]
    · rintro ⟨head, hprefix, rfl⟩
      cases head with
      | nil => exact isBoundary_zero _
      | cons d head =>
        obtain ⟨rfl, htail⟩ := List.cons_prefix_cons.mp hprefix
        rw [List.flatMap_cons, List.length_append, hencode, hbehind, ih]
        exact ⟨head, htail, rfl⟩

/-- A text can be parted at a boundary of its bytes, and only there. -/
theorem isBoundary_encode_iff {text : String} :
    isBoundary (encode text) place = true ↔
      ∃ head tail, text = head ++ tail ∧ (encode head).length = place := by
  simp only [encode_eq, isBoundary_flatMap_iff]
  constructor
  · rintro ⟨head, ⟨tail, happend⟩, hlength⟩
    refine ⟨String.ofList head, String.ofList tail, ?_, by rwa [String.toList_ofList]⟩
    rw [← String.ofList_append, happend, String.ofList_toList]
  · rintro ⟨head, tail, rfl, hlength⟩
    exact ⟨head.toList, ⟨tail.toList, String.toList_append.symm⟩, hlength⟩

/-- No place is more than three bytes behind a boundary. -/
theorem exists_isBoundary_near {cs : List Char} {limit : Nat}
    (h : limit ≤ (cs.flatMap String.utf8EncodeChar).length) :
    ∃ place ≤ limit, limit ≤ place + 3 ∧
      isBoundary (cs.flatMap String.utf8EncodeChar) place = true := by
  induction cs generalizing limit with
  | nil => exact ⟨0, Nat.zero_le _, Nat.le_trans h (Nat.zero_le _), isBoundary_zero _⟩
  | cons c cs ih =>
    obtain ⟨b, more, hencode, -, -, hshort⟩ := exists_encodeChar c
    rw [List.flatMap_cons, hencode, List.length_append] at h
    rw [List.flatMap_cons, hencode]
    rcases Nat.lt_or_ge limit (b :: more).length with hlt | hge
    · rw [List.length_cons] at hlt
      exact ⟨0, Nat.zero_le _, by omega, isBoundary_zero _⟩
    · obtain ⟨k, rfl⟩ := Nat.exists_eq_add_of_le hge
      obtain ⟨place, hle, hnear, hboundary⟩ := ih (Nat.le_of_add_le_add_left h)
      refine ⟨(b :: more).length + place, Nat.add_le_add_left hle _, by omega, ?_⟩
      rw [isBoundary_behind _ _ _ (head?_flatMap_encodeChar cs), hboundary]

/-! ### Going back to a boundary -/

/-- The way back never comes below zero: it ends at the greatest boundary up to where it began. -/
theorem boundaryBefore?_eq (bytes : Bytes) (place : Nat) :
    boundaryBefore? bytes place =
      some (Nat.findGreatest (fun place => isBoundary bytes place = true) place) := by
  induction place with
  | zero => rfl
  | succ place ih =>
    rw [boundaryBefore?, Nat.findGreatest_succ]
    split
    · rfl
    · exact ih

end

/-- Of two parts that a text begins with, the one of fewer bytes begins the other. -/
theorem exists_eq_append_of_length_le {head tail cut rest : String}
    (h : head ++ tail = cut ++ rest) (hle : (encode head).length ≤ (encode cut).length) :
    ∃ more, cut = head ++ more := by
  have hhead : head.toList <+: (cut ++ rest).toList :=
    ⟨tail.toList, by rw [← h, String.toList_append]⟩
  have hcut : cut.toList <+: (cut ++ rest).toList := ⟨rest.toList, String.toList_append.symm⟩
  rcases List.prefix_or_prefix_of_prefix hhead hcut with ⟨more, hmore⟩ | ⟨more, hmore⟩
  · refine ⟨String.ofList more, String.toList_inj.mp ?_⟩
    rw [String.toList_append, String.toList_ofList, hmore]
  · -- What the other has more than this takes no bytes.
    have heq : head = cut ++ String.ofList more := by
      rw [← String.toList_inj, String.toList_append, String.toList_ofList, hmore]
    have hlength : (encode (String.ofList more)).length = 0 := by
      rw [heq, encode_append, List.length_append] at hle
      omega
    have hempty : String.ofList more = "" := by
      have hdecode := decode?_encode (String.ofList more)
      rw [List.length_eq_zero_iff.mp hlength] at hdecode
      exact Option.some.inj (hdecode.symm.trans (decode?_encode ""))
    exact ⟨"", by rw [heq, hempty, String.append_empty, String.append_empty]⟩

end Utf8

namespace DataBuffer

variable {b : DataBuffer} {limit : Nat}

/-- A text past the limit is cut at the greatest boundary up to it. -/
theorem getStringUpTo_of_long (h : limit < (Utf8.encode b.getString).length) :
    ∃ tail, b.getString = b.getStringUpTo limit ++ tail ∧
      (Utf8.encode (b.getStringUpTo limit)).length =
        Nat.findGreatest (fun place => Utf8.isBoundary (Utf8.encode b.getString) place = true)
          limit := by
  have hboundary := Nat.findGreatest_spec
    (P := fun place => Utf8.isBoundary (Utf8.encode b.getString) place = true)
    (Nat.zero_le limit) (Utf8.isBoundary_zero _)
  obtain ⟨head, tail, happend, hlength⟩ := Utf8.isBoundary_encode_iff.mp hboundary
  have htake : (Utf8.encode b.getString).take (Utf8.encode head).length = Utf8.encode head := by
    rw [happend, Utf8.encode_append, List.take_left]
  have hcut : b.getStringUpTo limit = head := by
    rw [getStringUpTo, if_neg (Nat.not_le_of_lt h), Utf8.boundaryBefore?_eq, ← hlength]
    simp only [Option.bind_some, htake, Utf8.decode?_encode, Option.getD_some]
  rw [hcut]
  exact ⟨tail, happend, hlength⟩

/-- The text that is left ends at the greatest boundary up to the limit and in the whole text. -/
theorem getStringUpTo_ends (b : DataBuffer) (limit : Nat) :
    ∃ tail, b.getString = b.getStringUpTo limit ++ tail ∧
      (Utf8.encode (b.getStringUpTo limit)).length =
        Nat.findGreatest (fun place => Utf8.isBoundary (Utf8.encode b.getString) place = true)
          (min limit (Utf8.encode b.getString).length) := by
  rcases Nat.lt_or_ge limit (Utf8.encode b.getString).length with hlong | hshort
  · rw [Nat.min_eq_left (Nat.le_of_lt hlong)]
    exact getStringUpTo_of_long hlong
  · have hwhole : b.getStringUpTo limit = b.getString := if_pos hshort
    have hend : Utf8.isBoundary (Utf8.encode b.getString) (Utf8.encode b.getString).length = true :=
      Utf8.isBoundary_encode_iff.mpr ⟨b.getString, "", String.append_empty.symm, rfl⟩
    rw [Nat.min_eq_right hshort, hwhole, Nat.findGreatest_eq hend]
    exact ⟨"", String.append_empty.symm, rfl⟩

/-- The text in at most so many bytes is the longest part that the whole text begins with, that is
not longer than the limit and that parts no character. It falls short of the limit by no more than
three bytes. -/
theorem getStringUpTo_longest (b : DataBuffer) (limit : Nat) :
    let whole := b.getString
    let cut := b.getStringUpTo limit
    (∃ tail, whole = cut ++ tail) ∧
      (Utf8.encode cut).length ≤ limit ∧
      Utf8.isBoundary (Utf8.encode whole) (Utf8.encode cut).length = true ∧
      (∀ place ≤ limit, Utf8.isBoundary (Utf8.encode whole) place = true →
        place ≤ (Utf8.encode cut).length) ∧
      (∀ head tail, whole = head ++ tail → (Utf8.encode head).length ≤ limit →
        ∃ more, cut = head ++ more) ∧
      min limit (Utf8.encode whole).length ≤ (Utf8.encode cut).length + 3 ∧
      (limit < (Utf8.encode whole).length →
        Utf8.boundaryBefore? (Utf8.encode whole) limit = some (Utf8.encode cut).length) := by
  intro whole cut
  obtain ⟨tail, happend, hlength⟩ := b.getStringUpTo_ends limit
  have hgreatest (place : Nat) (hle : place ≤ limit)
      (hboundary : Utf8.isBoundary (Utf8.encode whole) place = true) :
      place ≤ (Utf8.encode cut).length := by
    obtain ⟨head, rest, hhead, hplace⟩ := Utf8.isBoundary_encode_iff.mp hboundary
    have hinside : place ≤ (Utf8.encode whole).length := by
      rw [hhead, Utf8.encode_append, List.length_append, hplace]
      exact Nat.le_add_right _ _
    rw [hlength]
    exact Nat.le_findGreatest (Nat.le_min.mpr ⟨hle, hinside⟩) hboundary
  refine ⟨⟨tail, happend⟩, ?_, ?_, hgreatest, ?_, ?_, ?_⟩
  · rw [hlength]
    exact Nat.le_trans (Nat.findGreatest_le _) (Nat.min_le_left _ _)
  · exact Utf8.isBoundary_encode_iff.mpr ⟨cut, tail, happend, rfl⟩
  · intro head rest hhead hle
    have hboundary := Utf8.isBoundary_encode_iff.mpr ⟨head, rest, hhead, rfl⟩
    exact Utf8.exists_eq_append_of_length_le (hhead.symm.trans happend)
      (hgreatest _ hle hboundary)
  · have hinside : min limit (Utf8.encode whole).length ≤
        (whole.toList.flatMap String.utf8EncodeChar).length := by
      rw [← Utf8.encode_eq]
      exact Nat.min_le_right _ _
    obtain ⟨place, hle, hnear, hboundary⟩ := Utf8.exists_isBoundary_near hinside
    rw [← Utf8.encode_eq] at hboundary
    have hplace := hgreatest place (Nat.le_trans hle (Nat.min_le_left _ _)) hboundary
    omega
  · intro hlong
    rw [Utf8.boundaryBefore?_eq, hlength, Nat.min_eq_left (Nat.le_of_lt hlong)]

/-- A limit in the middle of a character of three bytes. -/
example : getStringUpTo ⟨.char, some [0x61, 0xE2, 0x82, 0xAC, 0x62], none⟩ 3 = "a" := by cbv

end DataBuffer

end GridClient
