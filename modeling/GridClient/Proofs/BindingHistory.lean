import GridClient.Proofs.Delivery
import GridClient.Proofs.StatementCursor

/-!
What is bound to a number after any number of changes: what the last change that is about the number
has bound it to. The parameters of a statement change by accepted bindings and by nothing else.
-/
namespace GridClient

/-- A change of what is bound to numbers. -/
inductive BindingChange (α : Type) where
  | bind (key : UInt16) (value : α)
  | unbind (key : UInt16)
  | unbindAll

/-- What a change leaves bound to a number, a value or nothing, if it is about that number. -/
def BindingChange.outcome? {α : Type} (key : UInt16) : BindingChange α → Option (Option α)
  | bind k value => if k = key then some (some value) else none
  | unbind k => if k = key then some none else none
  | unbindAll => some none

namespace Bindings

variable {α : Type} {b : Bindings α} {key key' : UInt16} {value : α}

/-- Makes a change. -/
def change (b : Bindings α) : BindingChange α → Bindings α
  | .bind key value => b.insert key value
  | .unbind key => b.erase key
  | .unbindAll => ofList []

/-- Makes one change after another. -/
def changeAll (b : Bindings α) (changes : List (BindingChange α)) : Bindings α :=
  changes.foldl change b

/-- What the last change that is about a number has left bound to it. A number that no change is
about is bound as it was before. -/
def boundAfter (b : Bindings α) (changes : List (BindingChange α)) (key : UInt16) : Option α :=
  (changes.reverse.findSome? (BindingChange.outcome? key)).getD (b.get? key)

/-! ### One change -/

theorem mem_entries_iff : (key, value) ∈ b.entries ↔ b.get? key = some value := by
  constructor
  · intro h
    rw [get?, find?_of_mem b.ascending h]
    rfl
  · intro h
    obtain ⟨e, he, rfl⟩ := Option.map_eq_some_iff.mp h
    have hkey : e.1 = key := by simpa using List.find?_some he
    subst hkey
    exact List.mem_of_find?_eq_some he

theorem find?_insertEntry (key key' : UInt16) (value : α) (entries : List (UInt16 × α)) :
    (insertEntry key value entries).find? (·.1 == key') =
      if key = key' then some (key, value) else entries.find? (·.1 == key') := by
  induction entries with
  | nil =>
    rw [insertEntry]
    by_cases hkey : key = key' <;> simp [hkey]
  | cons e rest ih =>
    obtain ⟨k, v⟩ := e
    rw [insertEntry]
    by_cases hlt : key < k
    · rw [if_pos hlt]
      by_cases hkey : key = key' <;> simp [hkey]
    · rw [if_neg hlt]
      by_cases heq : key = k
      · subst heq
        rw [if_pos rfl]
        by_cases hkey : key = key' <;> simp [hkey]
      · rw [if_neg heq, List.find?_cons, List.find?_cons, ih]
        by_cases hk : k = key'
        · have hkey : key ≠ key' := fun h => heq (h.trans hk.symm)
          simp [hk, hkey]
        · have hfalse : (k == key') = false := by simpa using hk
          rw [hfalse]

theorem get?_insert : (b.insert key value).get? key' =
    if key = key' then some value else b.get? key' := by
  unfold get? insert
  rw [find?_insertEntry]
  split <;> rfl

theorem get?_erase : (b.erase key).get? key' = if key = key' then none else b.get? key' := by
  apply Option.ext
  intro value
  rw [← mem_entries_iff]
  have hmem : (key', value) ∈ (b.erase key).entries ↔ (key', value) ∈ b.entries ∧ key' ≠ key := by
    simp [erase]
  rw [hmem, mem_entries_iff]
  by_cases hkey : key = key'
  · simp [hkey]
  · simp [hkey, Ne.symm hkey]

theorem get?_change (c : BindingChange α) :
    (b.change c).get? key = (c.outcome? key).getD (b.get? key) := by
  cases c with
  | bind k value =>
    rw [change, get?_insert, BindingChange.outcome?]
    split <;> rfl
  | unbind k =>
    rw [change, get?_erase, BindingChange.outcome?]
    split <;> rfl
  | unbindAll => rfl

/-! ### All changes -/

/-- Only the last change about a number counts. -/
theorem get?_changeAll (b : Bindings α) (changes : List (BindingChange α)) (key : UInt16) :
    (b.changeAll changes).get? key = b.boundAfter changes key := by
  induction changes generalizing b with
  | nil => rfl
  | cons c changes ih =>
    have hrest : (b.changeAll (c :: changes)).get? key = (b.change c).boundAfter changes key :=
      ih (b.change c)
    rw [hrest, boundAfter, boundAfter, get?_change, List.reverse_cons, List.findSome?_append]
    cases changes.reverse.findSome? (BindingChange.outcome? key) with
    | some outcome => rfl
    | none => cases h : c.outcome? key <;> simp [h]

end Bindings

/-! ### Parameters of a statement -/

/-- The change that an operation makes to the parameters. Numbers start at one, and a parameter is
refused whose buffer or SQL type is of a kind that cannot be sent. -/
def StatementOp.parameterChange? : StatementOp → Option (BindingChange Parameter)
  | bindParameter index buffer type =>
    if index ≠ 0 ∧ buffer.type ≠ .unsupported ∧ type.isSupported then
      some (.bind index ⟨buffer, type⟩)
    else none
  | unbindParameter index => some (.unbind index)
  | unbindAllParameters => some .unbindAll
  | _ => none

namespace Statement

variable {ν : Type}

theorem parameters_run {operation : Statement ν → Except Error Outcome × Statement ν}
    (h : ∀ s, (operation s).2.parameters = s.parameters) (s : Statement ν) :
    (run operation s).2.parameters = s.parameters :=
  h { s with diagnostics := .reset }

theorem parameters_bindParameter (index : UInt16) (buffer : DataBuffer) (type : SqlType)
    (s : Statement ν) : (s.bindParameter index buffer type).2.parameters =
      ((StatementOp.bindParameter index buffer type).parameterChange?).elim s.parameters
        s.parameters.change := by
  unfold bindParameter run StatementOp.parameterChange? checkBindable
  by_cases hindex : index = 0
  · simp [hindex]
  · by_cases htype : buffer.type = .unsupported
    · simp [hindex, htype]
    · by_cases hsupported : type.isSupported = true
      · simp [hindex, htype, hsupported, Bindings.change]
      · simp [hindex, htype, hsupported]

theorem parameters_checkQuery (e : Error) (s : Statement ν) :
    (s.checkQuery e).2.parameters = s.parameters := by
  refine parameters_run (fun s => ?_) s
  split <;> rfl

variable [Network ν]

theorem parameters_replaceQuery (query : Query) (s : Statement ν) :
    (s.replaceQuery query).2.parameters = s.parameters := by
  unfold replaceQuery
  split
  · rfl
  · split <;> rfl

theorem parameters_executeCurrent (s : Statement ν) :
    s.executeCurrent.2.parameters = s.parameters := by
  unfold executeCurrent
  split <;> rfl

theorem parameters_executeQuery (query : Query) (s : Statement ν) :
    (s.executeQuery query).2.parameters = s.parameters := by
  refine parameters_run (fun s => ?_) s
  have hreplace := s.parameters_replaceQuery query
  obtain ⟨⟨result, s'⟩, hr⟩ : ∃ r, s.replaceQuery query = r := ⟨_, rfl⟩
  rw [hr] at hreplace
  simp only [hr]
  cases result with
  | ok _ => exact (parameters_executeCurrent s').trans hreplace
  | error e => exact hreplace

theorem parameters_prepare (sql : String) (s : Statement ν) :
    (s.prepare sql).2.parameters = s.parameters := by
  refine parameters_run (fun s => ?_) s
  have hreplace := s.parameters_replaceQuery (.ofSql sql)
  obtain ⟨⟨result, s'⟩, hr⟩ : ∃ r, s.replaceQuery (.ofSql sql) = r := ⟨_, rfl⟩
  rw [hr] at hreplace
  simp only [hr]
  cases result <;> exact hreplace

/-- An operation changes the parameters as it is said to, and otherwise not at all. -/
theorem parameters_apply (s : Statement ν) (op : StatementOp) :
    (s.apply op).parameters = op.parameterChange?.elim s.parameters s.parameters.change := by
  cases op with
  | bindParameter index buffer type => exact s.parameters_bindParameter index buffer type
  | unbindParameter | unbindAllParameters | unbindColumn | unbindAllColumns => rfl
  | bindColumn index buffer =>
    refine parameters_run (fun s => ?_) s
    split
    · rfl
    · split <;> rfl
  | prepare sql => exact s.parameters_prepare sql
  | execute => exact parameters_run parameters_executeCurrent s
  | executeSql sql => exact s.parameters_executeQuery (.ofSql sql)
  | findColumns schema table column =>
    exact s.parameters_executeQuery (.ofColumns schema table column)
  | findTables catalog schema table tableType =>
    exact s.parameters_executeQuery (.ofTables catalog schema table tableType)
  | findForeignKeys primaryKey foreignKey =>
    exact s.parameters_executeQuery (.foreignKeys { primaryKey, foreignKey })
  | close =>
    refine parameters_run (fun s => ?_) s
    split <;> rfl
  | fetch =>
    refine parameters_run (fun s => ?_) s
    split <;> rfl
  | describe => exact parameters_checkQuery .queryNotPrepared s
  | affectedRows =>
    have hcheck := parameters_checkQuery .queryNotExecuted s
    show s.affectedRows.2.parameters = s.parameters
    unfold affectedRows
    dsimp only
    split <;> exact hcheck
  | getAttribute index attr buffer =>
    show (s.recordReport _).2.parameters = s.parameters
    refine parameters_run (fun s => ?_) s
    split <;> rfl

theorem parameters_applyAll (s : Statement ν) (ops : List StatementOp) :
    (s.applyAll ops).parameters =
      s.parameters.changeAll (ops.filterMap StatementOp.parameterChange?) := by
  induction ops generalizing s with
  | nil => rfl
  | cons op ops ih =>
    have hrest : (s.applyAll (op :: ops)).parameters = (s.apply op).parameters.changeAll
      (ops.filterMap StatementOp.parameterChange?) := ih (s.apply op)
    rw [hrest, parameters_apply, List.filterMap_cons]
    cases op.parameterChange? <;> rfl

end Statement

end GridClient
