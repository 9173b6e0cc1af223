import GridClient.Row
import GridClient.Wire.Response

/-!
The client's side of a server cursor: the page it holds and how many of its rows it has entered.
Before the first page a row may always follow, so that the first fetch asks for one.
-/

namespace GridClient

/-- A server cursor with the page at hand. -/
structure Cursor where
  id : QueryId
  /-- The place in the page, once a page has come. -/
  row : Option Row
  /-- The rows that the page announces. -/
  rowCount : Nat
  /-- The rows of the page entered so far. -/
  entered : Nat
  /-- Whether no page follows. -/
  lastPage : Bool
  deriving DecidableEq, Repr

namespace Cursor

/-- A cursor that has just been opened. -/
def opened (id : QueryId) : Cursor := ⟨id, none, 0, 0, false⟩

variable (c : Cursor)

/-- Whether a further row may exist. -/
def hasNext : Bool := c.row.isNone || c.entered < c.rowCount || !c.lastPage

/-- Whether the page is used up and another one is to be had. -/
def needsPage : Bool := c.row.isNone || (c.rowCount ≤ c.entered && !c.lastPage)

/-- Takes a page in place of the one at hand. A page that announces rows must hold at least the
header of the first. -/
def takePage (page : ResultPage) : Except Error Cursor :=
  if 0 < page.rowCount.toInt ∧ page.data.isEmpty then .error .invalidPacket
  else match Row.ofPage page.data with
    | .ok row => .ok ⟨c.id, some row, page.rowCount.toInt.toNat, 0, page.last⟩
    | .error e => .error e

/-- Enters the next row of the page, or tells that there is none. -/
def increment : EStateM Error Cursor Bool := fun c =>
  match c.row with
  | none => .ok false c
  | some row =>
    if c.rowCount ≤ c.entered then .ok false c
    else if c.entered = 0 then .ok true { c with entered := 1 }
    else match row.next with
      | .ok _ row => .ok true { c with row := some row, entered := c.entered + 1 }
      | .error e row => .error e { c with row := some row }

/-- What an attempt to enter a row comes to. -/
inductive Attempted (cursor : Cursor) : EStateM.Result Error Cursor Bool → Prop where
  | ended (none_left : cursor.row = none ∨ cursor.rowCount ≤ cursor.entered) :
    Attempted cursor (.ok false cursor)
  | first {row : Row} (row_eq : cursor.row = some row) (entered_eq : cursor.entered = 0)
    (further : cursor.entered < cursor.rowCount) :
    Attempted cursor (.ok true { cursor with entered := 1 })
  | next {row behind : Row} (row_eq : cursor.row = some row) (entered_ne : cursor.entered ≠ 0)
    (further : cursor.entered < cursor.rowCount) (next_eq : Row.next row = .ok () behind) :
    Attempted cursor (.ok true
      { cursor with row := some behind, entered := cursor.entered + 1 })
  | stuck {row behind : Row} {e : Error} (row_eq : cursor.row = some row)
    (entered_ne : cursor.entered ≠ 0) (further : cursor.entered < cursor.rowCount)
    (next_eq : Row.next row = .error e behind) :
    Attempted cursor (.error e { cursor with row := some behind })

theorem attempted_increment (cursor : Cursor) : cursor.Attempted cursor.increment := by
  unfold increment
  split
  · rename_i hrow
    exact .ended (.inl hrow)
  · rename_i row hrow
    split
    · rename_i hle
      exact .ended (.inr hle)
    · rename_i hlt
      split
      · rename_i hzero
        exact .first hrow hzero (Nat.lt_of_not_le hlt)
      · rename_i hne
        split
        · rename_i hnext
          exact .next hrow hne (Nat.lt_of_not_le hlt) hnext
        · rename_i hnext
          exact .stuck hrow hne (Nat.lt_of_not_le hlt) hnext

/-- The row at hand, once one has been entered. -/
def currentRow : Option Row := if c.entered = 0 then none else c.row

theorem row_of_currentRow {c : Cursor} {row : Row} (h : c.currentRow = some row) :
    c.row = some row := by
  unfold currentRow at h
  split at h
  · cases h
  · exact h

end Cursor

end GridClient
