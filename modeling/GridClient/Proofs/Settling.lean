import GridClient.Proofs.CursorTrips
import GridClient.Proofs.RowWarnings

/-!
What queries do to a connection never touches its options. Running and closing one has nothing to
tell besides an error.
-/
namespace GridClient

variable {ν : Type}

/-- Between two states of a connection: its options are kept, and what was done went well with
nothing to tell, or failed. -/
structure Settles (c : Connection ν) (result : Except Error Outcome) (c' : Connection ν) :
    Prop where
  options : c'.options = c.options
  judged : Judged result []

theorem Settles.refl (c : Connection ν) : Settles c (.ok .success) c := ⟨rfl, .success⟩

theorem Settles.error {c c' : Connection ν} (e : Error) (h : c'.options = c.options) :
    Settles c (.error e) c' := ⟨h, .error e⟩

theorem Settles.trans {c c₁ c₂ : Connection ν} {result result' : Except Error Outcome}
    (h : Settles c result c₁) (h' : Settles c₁ result' c₂) : Settles c result' c₂ :=
  ⟨h'.options.trans h.options, h'.judged⟩

variable [Network ν]

theorem Connection.options_exchange {α : Type} (encode : Encoder)
    (decode : Bytes → Except Error α) (c : Connection ν) :
    (c.exchange encode decode).2.options = c.options := by
  unfold exchange
  split
  · split
    · rfl
    · split
      · rfl
      · split <;> rfl
  · rfl

theorem Connection.options_of_exchange {α : Type} {encode : Encoder}
    {decode : Bytes → Except Error α} {c c' : Connection ν} {result : Except Error α}
    (h : c.exchange encode decode = (result, c')) : c'.options = c.options := by
  have hoptions := c.options_exchange encode decode
  rwa [h] at hoptions

theorem Cursor.options_loadPage (cursor : Cursor) (c : Connection ν) :
    (cursor.loadPage c).2.2.options = c.options := by
  fun_induction loadPage cursor c with
  | case1 cursor c _ e c' h => exact Connection.options_of_exchange h
  | case2 cursor c _ page c' h => exact Connection.options_of_exchange h
  | case3 cursor c _ page c' h => exact Connection.options_of_exchange h
  | case4 cursor c _ page c' h _ cursor' _ _ ih =>
    exact ih.trans (Connection.options_of_exchange h)
  | case5 cursor c _ page c' h => exact Connection.options_of_exchange h
  | case6 => rfl

namespace DataQuery

variable (q : DataQuery) (c : Connection ν)

theorem settles_close : Settles c (q.close c).1 (q.close c).2.2 := by
  unfold close
  cases q.cursor with
  | none => exact .refl c
  | some cursor =>
    dsimp only
    split
    · rename_i c' h
      exact ⟨Connection.options_of_exchange h, .success⟩
    · rename_i e c' h
      exact .error e (Connection.options_of_exchange h)

theorem settles_run (parameters : Bindings Parameter) :
    Settles c (q.run parameters c).1 (q.run parameters c).2.2 := by
  unfold run
  cases parameters.arguments with
  | error e => exact .error e rfl
  | ok args =>
    dsimp only
    split
    · rename_i e c' h
      exact .error e (Connection.options_of_exchange h)
    · rename_i result c' h
      exact ⟨Connection.options_of_exchange h, .success⟩

theorem settles_execute (parameters : Bindings Parameter) :
    Settles c (q.execute parameters c).1 (q.execute parameters c).2.2 := by
  have hclose := q.settles_close c
  unfold execute
  obtain ⟨⟨result, q', c'⟩, hr⟩ : ∃ r, q.close c = r := ⟨_, rfl⟩
  rw [hr] at hclose
  simp only [hr]
  cases result with
  | error e => exact hclose
  | ok _ => exact hclose.trans (q'.settles_run c' parameters)

theorem options_fetch (columns : Bindings DataBuffer) :
    (q.fetch c columns).connection.options = c.options := by
  unfold fetch
  cases q.cursor with
  | none => rfl
  | some cursor =>
    cases q.stalled with
    | some place => rfl
    | none =>
      have hload := cursor.options_loadPage c
      obtain ⟨⟨result, cursor', c'⟩, hr⟩ : ∃ r, cursor.loadPage c = r := ⟨_, rfl⟩
      rw [hr] at hload
      simp only [hr]
      split
      · rcases result with e | (_ | _)
        · exact hload
        · exact hload
        · simp only [(q.id?_enterRow cursor' c' columns).2]
          exact hload
      · rfl

end DataQuery

namespace CatalogQuery

variable {ε : Type} [CatalogEntry ε] (q : CatalogQuery ε) (c : Connection ν)

theorem settles_execute : Settles c (q.execute c).1 (q.execute c).2.2 := by
  unfold execute
  dsimp only
  split
  · rename_i e c' h
    exact .error e (Connection.options_of_exchange h)
  · rename_i found c' h
    exact ⟨Connection.options_of_exchange h, .success⟩

omit [Network ν] in
theorem connection_fetch (columns : Bindings DataBuffer) :
    (q.fetch c columns).connection = c := by
  unfold fetch
  split
  · split <;> rfl
  · rfl

end CatalogQuery

namespace Query

variable (query : Query) (c : Connection ν)

theorem settles_execute (parameters : Bindings Parameter) :
    Settles c (query.execute parameters c).1 (query.execute parameters c).2.2 := by
  cases query with
  | data q => exact q.settles_execute c parameters
  | columns q => exact q.settles_execute c
  | tables q => exact q.settles_execute c
  | foreignKeys q => exact .refl c

theorem settles_close : Settles c (query.close c).1 (query.close c).2.2 := by
  cases query with
  | data q => exact q.settles_close c
  | columns q => exact .refl c
  | tables q => exact .refl c
  | foreignKeys q => exact .refl c

theorem options_fetch (bound : Bindings DataBuffer) :
    (query.fetch c bound).connection.options = c.options := by
  cases query with
  | data q => exact q.options_fetch c bound
  | columns q => exact congrArg Connection.options (q.connection_fetch c bound)
  | tables q => exact congrArg Connection.options (q.connection_fetch c bound)
  | foreignKeys q => rfl

end Query

end GridClient
