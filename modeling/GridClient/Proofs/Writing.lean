import GridClient.Proofs.Reading
import GridClient.Wire.Request

/-!
When something can be written, and how a run of encodings reads back. The only thing that keeps a
value from being written is a length that its signed word cannot count.
-/
namespace GridClient

theorem bind_eq_ok {α β : Type} {x : Except Error α} {f : α → Except Error β} {b : β} :
    (x >>= f) = .ok b ↔ ∃ a, x = .ok a ∧ f a = .ok b := by
  cases x with
  | error e => simp [bind, Except.bind]
  | ok a => simp [bind, Except.bind]

theorem bind_eq_error {α β : Type} {x : Except Error α} {f : α → Except Error β} :
    (x >>= f) = .error e ↔ x = .error e ∨ ∃ a, x = .ok a ∧ f a = .error e := by
  cases x with
  | error e => simp [bind, Except.bind]
  | ok a => simp [bind, Except.bind]

theorem map_eq_ok {α β : Type} {x : Except Error α} {f : α → β} {b : β} :
    f <$> x = .ok b ↔ ∃ a, x = .ok a ∧ f a = b := by
  cases x with
  | error e => simp [Functor.map, Except.map]
  | ok a => simp [Functor.map, Except.map]

theorem lengthPrefixed_eq_ok {bytes written : Bytes} :
    lengthPrefixed bytes = .ok written ↔
      bytes.length < 0x80000000 ∧ LittleEndian.encode 4 bytes.length ++ bytes = written := by
  unfold lengthPrefixed
  split
  · rename_i h
    simp only [Except.ok.injEq, h, true_and]
  · rename_i h
    simp only [reduceCtorEq, h, false_and]

theorem Request.encodeCount_eq_ok {n : Nat} {bytes : Bytes} :
    encodeCount n = .ok bytes ↔ n < 0x80000000 ∧ LittleEndian.encode 4 n = bytes := by
  unfold encodeCount
  split
  · rename_i h
    simp only [Except.ok.injEq, h, true_and]
  · rename_i h
    simp only [reduceCtorEq, h, false_and]

/-- Encodings one after another. -/
def encodeAll {α : Type} (encode : α → Except Error Bytes) : List α → Except Error Bytes
  | [] => .ok []
  | a :: as => do
    let first ← encode a
    let rest ← encodeAll encode as
    pure (first ++ rest)

section

variable {α β : Type} {encode : α → Except Error Bytes} {a : α} {as : List α} {bytes : Bytes}

theorem encodeAll_cons_eq_ok :
    encodeAll encode (a :: as) = .ok bytes ↔
      ∃ first, encode a = .ok first ∧ ∃ rest, encodeAll encode as = .ok rest ∧
        first ++ rest = bytes := by
  rw [encodeAll, bind_eq_ok]
  simp only [bind_eq_ok]
  constructor
  · rintro ⟨first, hfirst, rest, hrest, ⟨⟩⟩
    exact ⟨first, hfirst, rest, hrest, rfl⟩
  · rintro ⟨first, hfirst, rest, hrest, rfl⟩
    exact ⟨first, hfirst, rest, hrest, rfl⟩

theorem exists_encodeAll_iff :
    (∃ bytes, encodeAll encode as = .ok bytes) ↔ ∀ a ∈ as, ∃ bytes, encode a = .ok bytes := by
  induction as with
  | nil => simp [encodeAll]
  | cons a as ih =>
    simp only [encodeAll_cons_eq_ok, List.forall_mem_cons, ← ih]
    constructor
    · rintro ⟨_, first, hfirst, rest, hrest, _⟩
      exact ⟨⟨first, hfirst⟩, rest, hrest⟩
    · rintro ⟨⟨first, hfirst⟩, rest, hrest⟩
      exact ⟨_, first, hfirst, rest, hrest, rfl⟩

/-- A run of encodings is read back by as many runs of what reads one. -/
theorem Decoder.reads_times {d : Decoder β} {f : α → β}
    (hd : ∀ a bytes, encode a = .ok bytes → Reads d bytes (f a))
    (h : encodeAll encode as = .ok bytes) : Reads (times as.length d) bytes (as.map f) := by
  induction as generalizing bytes with
  | nil =>
    cases h
    exact reads_pure []
  | cons a as ih =>
    obtain ⟨first, hfirst, rest, hrest, rfl⟩ := encodeAll_cons_eq_ok.mp h
    exact (hd a first hfirst).bind ((ih hrest).map (f := fun values => f a :: values))

end

end GridClient
