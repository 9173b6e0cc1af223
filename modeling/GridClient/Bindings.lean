/-!
Things bound to numbers: columns and parameters. The entries stand in ascending order of their
numbers, and each number occurs once.
-/

namespace GridClient

/-- Values bound to numbers, in ascending order. -/
structure Bindings (α : Type) where
  entries : List (UInt16 × α) := []
  ascending : entries.Pairwise (fun a b => a.1 < b.1) := by exact List.Pairwise.nil

namespace Bindings

variable {α : Type}

/-- Puts a value in its place among the entries, in place of one of the same number. -/
def insertEntry (key : UInt16) (value : α) : List (UInt16 × α) → List (UInt16 × α)
  | [] => [(key, value)]
  | (k, v) :: rest =>
    if key < k then (key, value) :: (k, v) :: rest
    else if key = k then (key, value) :: rest
    else (k, v) :: insertEntry key value rest

theorem fst_of_mem_insertEntry {key : UInt16} {value : α} {entries : List (UInt16 × α)}
    {e : UInt16 × α} (h : e ∈ insertEntry key value entries) : e.1 = key ∨ e ∈ entries := by
  induction entries with
  | nil =>
    simp only [insertEntry, List.mem_singleton] at h
    exact Or.inl (by rw [h])
  | cons p rest ih =>
    obtain ⟨k, v⟩ := p
    rw [insertEntry] at h
    split at h
    · rcases List.mem_cons.mp h with h | h
      · exact Or.inl (by rw [h])
      · exact Or.inr h
    · split at h
      · rcases List.mem_cons.mp h with h | h
        · exact Or.inl (by rw [h])
        · exact Or.inr (List.mem_cons_of_mem _ h)
      · rcases List.mem_cons.mp h with h | h
        · exact Or.inr (by rw [h]; exact List.mem_cons_self)
        · exact (ih h).imp id (List.mem_cons_of_mem _)

theorem pairwise_insertEntry {key : UInt16} {value : α} {entries : List (UInt16 × α)}
    (h : entries.Pairwise fun a b => a.1 < b.1) :
    (insertEntry key value entries).Pairwise fun a b => a.1 < b.1 := by
  induction entries with
  | nil => simp [insertEntry]
  | cons p rest ih =>
    obtain ⟨k, v⟩ := p
    obtain ⟨hhead, htail⟩ := List.pairwise_cons.mp h
    rw [insertEntry]
    split
    · rename_i hlt
      refine List.pairwise_cons.mpr ⟨?_, h⟩
      intro e he
      rcases List.mem_cons.mp he with he | he
      · rw [he]; exact hlt
      · exact UInt16.lt_trans hlt (hhead e he)
    · split
      · rename_i hk
        subst hk
        exact List.pairwise_cons.mpr ⟨hhead, htail⟩
      · rename_i hge hne
        refine List.pairwise_cons.mpr ⟨?_, ih htail⟩
        intro e he
        rcases fst_of_mem_insertEntry he with he | he
        · rw [he]
          rcases UInt16.lt_or_lt_of_ne hne with h' | h'
          · exact absurd h' hge
          · exact h'
        · exact hhead e he

/-- Binds a value to a number. -/
def insert (b : Bindings α) (key : UInt16) (value : α) : Bindings α :=
  ⟨insertEntry key value b.entries, pairwise_insertEntry b.ascending⟩

/-- Unbinds a number. -/
def erase (b : Bindings α) (key : UInt16) : Bindings α :=
  ⟨b.entries.filter (·.1 != key), b.ascending.filter _⟩

/-- The value bound to a number. -/
def get? (b : Bindings α) (key : UInt16) : Option α :=
  (b.entries.find? (·.1 == key)).map (·.2)

/-- The numbers that something is bound to. -/
def keys (b : Bindings α) : List UInt16 := b.entries.map (·.1)

/-- Binds the values of a list one after the other. -/
def ofList (entries : List (UInt16 × α)) : Bindings α :=
  entries.foldl (fun b e => b.insert e.1 e.2) {}

end Bindings

end GridClient
