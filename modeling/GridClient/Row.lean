import GridClient.Wire.Column

/-!
Rows of a page. Each row is its column count and then that many tagged values. A column that
cannot be read leaves the row in front of it.
-/

namespace GridClient

/-- A place in a page: a row, how many of its columns are read, and what is left of the page. -/
structure Row where
  /-- Where the columns of the row begin. -/
  start : Nat
  /-- The number of columns that the row announces. -/
  size : Nat
  /-- The number of columns read. -/
  position : Nat
  reader : Reader
  deriving DecidableEq, Repr

namespace Row

def isExhausted (row : Row) : Bool := row.size ≤ row.position

/-- Where the next byte to read stands in the page. -/
def streamPosition (row : Row) : Nat := row.reader.position

/-- Enters the row that begins here. A header that is cut short or negative is no row. -/
def enter : EStateM Error Row Unit := fun row =>
  match Decoder.length row.reader with
  | .ok size reader => .ok () ⟨reader.position, size, 0, reader⟩
  | .error _ _ => .error .invalidPacket row

/-- The first row of a page. A page of no bytes has none, and stands at a row of no columns. -/
def ofPage (page : Bytes) : Except Error Row :=
  let row : Row := ⟨0, 0, 0, .ofBytes page⟩
  if page.isEmpty then .ok row
  else match row.enter with
    | .ok _ row => .ok row
    | .error e _ => .error e

/-- Reads the next column. -/
def readColumn : EStateM Error Row ColumnValue := fun row =>
  if row.size ≤ row.position then .error .rowExhausted row
  else match Decoder.columnValue row.reader with
    | .ok value reader => .ok value { row with reader, position := row.position + 1 }
    | .error e _ => .error e row

/-- Reads the next column and drops it. -/
def skipColumn : EStateM Error Row Unit := do
  let _ ← readColumn

/-- Skips `n` columns, or as many as can be read. -/
def skipColumns : Nat → EStateM Error Row Unit
  | 0 => pure ()
  | n + 1 => do
    skipColumn
    skipColumns n

/-- Skips what is left of the row and enters the next one. -/
def next : EStateM Error Row Unit := do
  let row ← get
  skipColumns (row.size - row.position)
  enter

/-- Reads the next column into a buffer. -/
def readInto (b : DataBuffer) : EStateM Error Row (Conversion × DataBuffer) := do
  let value ← readColumn
  pure (value.putInto b)

end Row

end GridClient
