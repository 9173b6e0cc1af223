import Mathlib.Data.List.Forall2
import Mathlib.Data.List.Induction
import GridClient.Diagnostics.Field

/-!
Diagnostic records by their numbers. Diagnostics are what has been done to them: the header tells
the last result, and the status records are those that were added since the last reset, the oldest
first, each stamped by the last completion since its addition. A record number is one for the
header, and two more than the place of a status record.
-/
namespace GridClient

/-- What can be done to diagnostics. -/
inductive DiagnosticsOp where
  | reset
  | add (record : StatusRecord)
  | setResult (result : Outcome)
  | setRowsAffected (rows : Int64)
  | complete (result : Except Error Outcome) (origin : Options)

namespace DiagnosticsOp

def isReset : DiagnosticsOp → Bool
  | reset => true
  | _ => false

/-- The record that is added. -/
def record? : DiagnosticsOp → Option StatusRecord
  | add record => some record
  | complete (.error e) _ => some (.ofError e)
  | _ => none

/-- What the records are stamped with. -/
def origin? : DiagnosticsOp → Option Options
  | complete _ origin => some origin
  | _ => none

/-- The result that the header tells afterwards, if it changes. -/
def result? : DiagnosticsOp → Option Outcome
  | reset => some .error
  | setResult result => some result
  | complete (.ok result) _ => some result
  | complete (.error _) _ => some .error
  | _ => none

/-- The number of rows that the header tells afterwards, if it changes. A new result comes with
none. -/
def rows? : DiagnosticsOp → Option Int64
  | setRowsAffected rows => some rows
  | add _ => none
  | _ => some 0

end DiagnosticsOp

/-! ### What the operations come to -/

/-- The last of the things that some operations tell. -/
def lastTold {α : Type} (tell : DiagnosticsOp → Option α) (ops : List DiagnosticsOp) : Option α :=
  ops.reverse.findSome? tell

/-- The operations behind the last reset. -/
def sinceReset (ops : List DiagnosticsOp) : List DiagnosticsOp :=
  (ops.reverse.takeWhile fun op => !op.isReset).reverse

/-- The records that were added since the last reset, the oldest first. -/
def addedRecords (ops : List DiagnosticsOp) : List StatusRecord :=
  (sinceReset ops).filterMap DiagnosticsOp.record?

/-- A record that the last completion has stamped, if there was one. -/
def StatusRecord.stampedBy (ops : List DiagnosticsOp) (r : StatusRecord) : StatusRecord :=
  (lastTold DiagnosticsOp.origin? ops).elim r r.stamp

/-- The records that some operations add, each stamped by the last completion since its addition,
which can be what has added it. -/
def standingRecords : List DiagnosticsOp → List StatusRecord
  | [] => []
  | op :: later =>
    (op.record?.map (StatusRecord.stampedBy (op :: later))).toList ++ standingRecords later

namespace Diagnostics

/-- Does one thing to diagnostics. -/
def apply (d : Diagnostics) : DiagnosticsOp → Diagnostics
  | .reset => .reset
  | .add record => d.append [record]
  | .setResult result => d.withResult result
  | .setRowsAffected rows => d.withRowsAffected rows
  | .complete result origin => (d.complete result origin).2

/-- Does one thing after another to diagnostics. -/
def applyAll (d : Diagnostics) (ops : List DiagnosticsOp) : Diagnostics := ops.foldl apply d

/-- The diagnostics that some operations have left of fresh ones. -/
def ofHistory (ops : List DiagnosticsOp) : Diagnostics :=
  { result := (lastTold DiagnosticsOp.result? ops).getD .success
    rowsAffected := (lastTold DiagnosticsOp.rows? ops).getD 0
    records := standingRecords (sinceReset ops) }

end Diagnostics

/-! ### One operation more -/

section

variable {op : DiagnosticsOp} {ops : List DiagnosticsOp}

theorem lastTold_concat {α : Type} (tell : DiagnosticsOp → Option α) :
    lastTold tell (ops ++ [op]) = (tell op).or (lastTold tell ops) := by
  rw [lastTold, lastTold, List.reverse_append, List.reverse_singleton, List.singleton_append,
    List.findSome?_cons]
  cases tell op <;> rfl

theorem sinceReset_concat_of_reset (h : op.isReset = true) : sinceReset (ops ++ [op]) = [] := by
  simp [sinceReset, h]

theorem sinceReset_concat (h : op.isReset = false) :
    sinceReset (ops ++ [op]) = sinceReset ops ++ [op] := by
  simp [sinceReset, h]

theorem StatusRecord.stampedBy_singleton (r : StatusRecord) (op : DiagnosticsOp) :
    r.stampedBy [op] = op.origin?.elim r r.stamp := by
  rw [stampedBy, lastTold, List.reverse_singleton, List.findSome?_singleton]

/-- A later completion takes the place of an earlier one. -/
theorem StatusRecord.stampedBy_concat (r : StatusRecord) :
    r.stampedBy (ops ++ [op]) = (r.stampedBy ops).stampedBy [op] := by
  rw [stampedBy_singleton, stampedBy, stampedBy, lastTold_concat]
  cases op.origin? with
  | none => rfl
  | some origin => cases lastTold DiagnosticsOp.origin? ops <;> rfl

theorem standingRecords_concat : standingRecords (ops ++ [op]) =
    (standingRecords ops ++ op.record?.toList).map (StatusRecord.stampedBy [op]) := by
  induction ops with
  | nil => cases h : op.record? <;> simp [standingRecords, h]
  | cons first later ih =>
    rw [List.cons_append, standingRecords, standingRecords, ih]
    cases h : first.record? with
    | none => simp
    | some record => simp [← StatusRecord.stampedBy_concat]

theorem standingRecords_sinceReset_concat (h : op.isReset = false) :
    standingRecords (sinceReset (ops ++ [op])) =
      (standingRecords (sinceReset ops) ++ op.record?.toList).map fun r =>
        op.origin?.elim r r.stamp := by
  rw [sinceReset_concat h, standingRecords_concat]
  exact List.map_congr_left fun r _ => r.stampedBy_singleton op

/-- One operation more leaves what its own effect is on what the others have left. -/
theorem Diagnostics.apply_ofHistory (ops : List DiagnosticsOp) (op : DiagnosticsOp) :
    (ofHistory ops).apply op = ofHistory (ops ++ [op]) := by
  rw [ofHistory, ofHistory, lastTold_concat, lastTold_concat]
  cases op with
  | reset =>
    rw [sinceReset_concat_of_reset rfl]
    rfl
  | add | setResult | setRowsAffected =>
    rw [standingRecords_sinceReset_concat rfl]
    simp [apply, append, withResult, withRowsAffected, DiagnosticsOp.record?,
      DiagnosticsOp.origin?, DiagnosticsOp.result?, DiagnosticsOp.rows?]
  | complete result origin =>
    rw [standingRecords_sinceReset_concat rfl]
    cases result <;> simp [apply, complete, DiagnosticsOp.record?, DiagnosticsOp.origin?,
      DiagnosticsOp.result?, DiagnosticsOp.rows?]

/-- Diagnostics are told by what has been done to them. -/
theorem Diagnostics.applyAll_eq (ops : List DiagnosticsOp) :
    applyAll {} ops = ofHistory ops := by
  induction ops using List.reverseRecOn with
  | nil => rfl
  | append_singleton ops op ih =>
    have hstep : applyAll {} (ops ++ [op]) = (applyAll {} ops).apply op := List.foldl_append
    rw [hstep, ih, apply_ofHistory]

/-! ### Records as they were added -/

/-- A completion changes nothing of a record but where it comes from. -/
theorem StatusRecord.stampedBy_eq_withOrigin (ops : List DiagnosticsOp) (r : StatusRecord) :
    ∃ connection server, r.stampedBy ops = r.withOrigin connection server := by
  rw [stampedBy]
  cases lastTold DiagnosticsOp.origin? ops with
  | none => exact ⟨r.connection, r.server, rfl⟩
  | some origin => exact ⟨origin.cache, origin.serverName, rfl⟩

/-- The records stand in the order of their additions. -/
theorem standingRecords_forall₂ (ops : List DiagnosticsOp) :
    List.Forall₂ (fun added standing => ∃ connection server,
      standing = added.withOrigin connection server)
      (ops.filterMap DiagnosticsOp.record?) (standingRecords ops) := by
  induction ops with
  | nil => exact .nil
  | cons op later ih =>
    rw [List.filterMap_cons, standingRecords]
    cases op.record? with
    | none => exact ih
    | some record => exact .cons (record.stampedBy_eq_withOrigin (op :: later)) ih

end

/-- So a record stands where it was added, and is what it was but for its origin. -/
theorem getElem?_standingRecords {ops : List DiagnosticsOp} {place : Nat} {record : StatusRecord}
    (h : (ops.filterMap DiagnosticsOp.record?)[place]? = some record) :
    ∃ connection server,
      (standingRecords ops)[place]? = some (record.withOrigin connection server) := by
  obtain ⟨hplace, rfl⟩ := List.getElem?_eq_some_iff.mp h
  have hlength := (standingRecords_forall₂ ops).length_eq
  have hplace' : place < (standingRecords ops).length := by omega
  obtain ⟨connection, server, hstanding⟩ := (standingRecords_forall₂ ops).get hplace hplace'
  refine ⟨connection, server, ?_⟩
  rw [List.getElem?_eq_getElem hplace']
  exact congrArg some hstanding

/-! ### Fields -/

/-- A buffer after a field of a status record has gone into it. -/
inductive StatusRecord.Puts (r : StatusRecord) (b : DataBuffer) :
    DiagnosticField → DataBuffer → Prop where
  | classOrigin : Puts r b .classOrigin (b.putString r.state.classOrigin).2
  | columnNumber : Puts r b .columnNumber (b.putNumber (.int32 r.column)).2
  | connectionName : Puts r b .connectionName (b.putString r.connection).2
  | messageText : Puts r b .messageText (b.putString r.message).2
  | native : Puts r b .native (b.putNumber (.int32 0)).2
  | rowNumber : Puts r b .rowNumber (b.putNumber (.int64 r.row.toInt64)).2
  | serverName : Puts r b .serverName (b.putString r.server).2
  | sqlState : Puts r b .sqlState (b.putString r.state.code).2
  | subclassOrigin : Puts r b .subclassOrigin (b.putString r.state.subclassOrigin).2

namespace Diagnostics

/-- A buffer after a field of the header has gone into it. -/
inductive Puts (d : Diagnostics) (b : DataBuffer) : DiagnosticField → DataBuffer → Prop where
  | cursorRowCount : Puts d b .cursorRowCount (b.putNumber (.int64 d.rowCount)).2
  | dynamicFunction : Puts d b .dynamicFunction (b.putString d.dynamicFunction).2
  | dynamicFunctionCode :
    Puts d b .dynamicFunctionCode (b.putNumber (.int32 d.dynamicFunctionCode)).2
  | number : Puts d b .number (b.putNumber (.int32 (Int32.ofNat d.records.length))).2
  | returnCode : Puts d b .returnCode (b.putNumber (.int16 d.result.returnCode)).2
  | rowCount : Puts d b .rowCount (b.putNumber (.int64 d.rowsAffected)).2

variable {d : Diagnostics} {number : Int32} {field : DiagnosticField} {b b' : DataBuffer}
  {record : StatusRecord} {value : FieldValue}

theorem puts_headerField? (h : d.headerField? field = some value) :
    d.Puts b field (value.putInto b).2 := by
  cases field <;> cases h <;> constructor

theorem puts_field? (h : record.field? field = some value) :
    record.Puts b field (value.putInto b).2 := by
  cases field <;> cases h <;> constructor

theorem headerField?_eq_none_iff : d.headerField? field = none ↔ field.isHeader = false := by
  cases field <;> simp [headerField?, DiagnosticField.isHeader]

theorem field?_eq_none_iff : record.field? field = none ↔ field.isHeader = true := by
  cases field <;> simp [StatusRecord.field?, DiagnosticField.isHeader]

theorem Puts.isHeader (h : d.Puts b field b') : field.isHeader = true := by
  cases h <;> rfl

theorem not_isHeader_of_puts (h : record.Puts b field b') : field.isHeader = false := by
  cases h <;> rfl

/-- The number of the status record at a place is two more than the place. -/
theorem record?_eq_some_iff : d.record? number = some record ↔
    ∃ place : Nat, number.toInt = place + 2 ∧ d.records[place]? = some record := by
  unfold record?
  constructor
  · intro h
    split at h
    · cases h
    · exact ⟨number.toInt.toNat - 2, by omega, h⟩
  · rintro ⟨place, hplace, hrecord⟩
    rw [if_neg (by omega), show number.toInt.toNat - 2 = place by omega]
    exact hrecord

theorem record?_eq_none_iff : d.record? number = none ↔
    ¬ (2 ≤ number.toInt ∧ number.toInt ≤ d.records.length + 1) := by
  unfold record?
  split
  · simp only [true_iff]
    omega
  · rw [List.getElem?_eq_none_iff]
    omega

theorem ne_one_of_two_le (h : 2 ≤ number.toInt) : number ≠ 1 := by
  rintro rfl
  exact absurd h (by decide)

/-- The header apart, a record is found exactly under the numbers of the status records. -/
theorem found_iff : number ≠ 1 ∧ d.record? number ≠ none ↔
    2 ≤ number.toInt ∧ number.toInt ≤ d.records.length + 1 := by
  rw [ne_eq (d.record? number), record?_eq_none_iff, not_not]
  exact ⟨And.right, fun h => ⟨ne_one_of_two_le h.1, h⟩⟩

theorem length_applyAll (ops : List DiagnosticsOp) :
    (applyAll {} ops).records.length = (addedRecords ops).length := by
  rw [applyAll_eq]
  exact (standingRecords_forall₂ (sinceReset ops)).length_eq.symm

theorem getElem?_applyAll {ops : List DiagnosticsOp} {place : Nat}
    (h : (addedRecords ops)[place]? = some record) : ∃ connection server,
      (applyAll {} ops).records[place]? = some (record.withOrigin connection server) := by
  rw [applyAll_eq]
  exact getElem?_standingRecords h

/-- What is answered when a field of a record is asked for, with the buffer that it leaves. -/
inductive Answers (d : Diagnostics) (number : Int32) (field : DiagnosticField) (b : DataBuffer) :
    Outcome → DataBuffer → Prop where
  | header {b' : DataBuffer} (number_eq : number = 1) (puts : d.Puts b field b') :
    Answers d number field b .success b'
  | notOfHeader (number_eq : number = 1) (kind : field.isHeader = false) :
    Answers d number field b .error b
  | absent (number_ne : number ≠ 1) (missing : d.record? number = none) :
    Answers d number field b .noData b
  | status {record : StatusRecord} {b' : DataBuffer} (number_ne : number ≠ 1)
    (addressed : d.record? number = some record) (puts : record.Puts b field b') :
    Answers d number field b .success b'
  | notOfStatus {record : StatusRecord} (number_ne : number ≠ 1)
    (addressed : d.record? number = some record) (kind : field.isHeader = true) :
    Answers d number field b .error b

theorem answers_getField (d : Diagnostics) (number : Int32) (field : DiagnosticField)
    (b : DataBuffer) :
    d.Answers number field b (d.getField number field b).1 (d.getField number field b).2 := by
  unfold getField
  by_cases hone : number = 1
  · simp only [hone, if_true]
    cases hfield : d.headerField? field with
    | none => exact .notOfHeader rfl (headerField?_eq_none_iff.mp hfield)
    | some value => exact .header rfl (puts_headerField? hfield)
  · simp only [hone, if_false]
    cases hrecord : d.record? number with
    | none => exact .absent hone hrecord
    | some record =>
      dsimp only
      cases hfield : record.field? field with
      | none => exact .notOfStatus hone hrecord (field?_eq_none_iff.mp hfield)
      | some value => exact .status hone hrecord (puts_field? hfield)

namespace Answers

variable {outcome : Outcome}

theorem noData_iff (h : d.Answers number field b outcome b') :
    outcome = .noData ↔ number ≠ 1 ∧ d.record? number = none := by
  cases h with
  | header number_eq | notOfHeader number_eq => simp [number_eq]
  | absent number_ne missing => simp [number_ne, missing]
  | status _ addressed | notOfStatus _ addressed => simp [addressed]

theorem error_iff (h : d.Answers number field b outcome b') :
    outcome = .error ↔ number = 1 ∧ field.isHeader = false ∨
      (number ≠ 1 ∧ d.record? number ≠ none) ∧ field.isHeader = true := by
  cases h with
  | header number_eq puts => simp [number_eq, puts.isHeader]
  | notOfHeader number_eq kind => simp [number_eq, kind]
  | absent number_ne missing => simp [number_ne, missing]
  | status number_ne _ puts => simp [number_ne, not_isHeader_of_puts puts]
  | notOfStatus number_ne addressed kind => simp [number_ne, addressed, kind]

theorem success_iff (h : d.Answers number field b outcome b') :
    outcome = .success ↔ number = 1 ∧ field.isHeader = true ∨
      (number ≠ 1 ∧ d.record? number ≠ none) ∧ field.isHeader = false := by
  cases h with
  | header number_eq puts => simp [number_eq, puts.isHeader]
  | notOfHeader number_eq kind => simp [number_eq, kind]
  | absent number_ne missing => simp [number_ne, missing]
  | status number_ne addressed puts => simp [number_ne, addressed, not_isHeader_of_puts puts]
  | notOfStatus number_ne _ kind => simp [number_ne, kind]

theorem untouched (h : d.Answers number field b outcome b') (hne : outcome ≠ .success) :
    b' = b := by
  cases h with
  | header | status => exact absurd rfl hne
  | notOfHeader | absent | notOfStatus => rfl

theorem of_header (h : d.Answers number field b outcome b') (hone : number = 1)
    (hkind : field.isHeader = true) : d.Puts b field b' := by
  cases h with
  | header _ puts => exact puts
  | notOfHeader _ kind => cases kind.symm.trans hkind
  | absent number_ne | status number_ne | notOfStatus number_ne => exact absurd hone number_ne

theorem of_status (h : d.Answers number field b outcome b') (hone : number ≠ 1)
    (hrecord : d.record? number = some record) (hkind : field.isHeader = false) :
    record.Puts b field b' := by
  cases h with
  | header number_eq | notOfHeader number_eq => exact absurd number_eq hone
  | absent _ missing => cases missing.symm.trans hrecord
  | status _ addressed puts =>
    cases addressed.symm.trans hrecord
    exact puts
  | notOfStatus _ _ kind => cases kind.symm.trans hkind

end Answers

/-- Diagnostics address their records by number, whatever has been done to them: the header by one,
and from two on the records that were added since the last reset, as they were added but for what a
completion names. A field of the other kind is an error, and only what is found is written. -/
theorem getField_addresses_records (ops : List DiagnosticsOp) (number : Int32)
    (field : DiagnosticField) (b : DataBuffer) :
    let d := applyAll {} ops
    let isStatus := 2 ≤ number.toInt ∧ number.toInt ≤ (addedRecords ops).length + 1
    let answer := d.getField number field b
    d = ofHistory ops ∧
    d.records.length = (addedRecords ops).length ∧
    (answer.1 = .noData ↔ number ≠ 1 ∧ ¬ isStatus) ∧
    (answer.1 = .error ↔
      number = 1 ∧ field.isHeader = false ∨ isStatus ∧ field.isHeader = true) ∧
    (answer.1 = .success ↔
      number = 1 ∧ field.isHeader = true ∨ isStatus ∧ field.isHeader = false) ∧
    (answer.1 ≠ .success → answer.2 = b) ∧
    (number = 1 → field.isHeader = true → d.Puts b field answer.2) ∧
    ∀ (place : Nat) (record : StatusRecord), number.toInt = place + 2 →
      (addedRecords ops)[place]? = some record →
      ∃ connection server, d.records[place]? = some (record.withOrigin connection server) ∧
        (field.isHeader = false →
          (record.withOrigin connection server).Puts b field answer.2) := by
  intro d isStatus answer
  have hlength : d.records.length = (addedRecords ops).length := length_applyAll ops
  have habsent : d.record? number = none ↔ ¬ isStatus := by
    rw [record?_eq_none_iff, hlength]
  have hstatus : number ≠ 1 ∧ d.record? number ≠ none ↔ isStatus := by
    rw [found_iff, hlength]
  have hanswer : d.Answers number field b answer.1 answer.2 := d.answers_getField number field b
  refine ⟨applyAll_eq ops, hlength, ?_, ?_, ?_, hanswer.untouched, hanswer.of_header, ?_⟩
  · rw [hanswer.noData_iff, habsent]
  · rw [hanswer.error_iff, hstatus]
  · rw [hanswer.success_iff, hstatus]
  · intro place record hplace hrecord
    obtain ⟨connection, server, hstanding⟩ := getElem?_applyAll hrecord
    have haddressed := record?_eq_some_iff.mpr ⟨place, hplace, hstanding⟩
    have hne : number ≠ 1 := ne_one_of_two_le (by omega)
    exact ⟨connection, server, hstanding, hanswer.of_status hne haddressed⟩

end Diagnostics

end GridClient
