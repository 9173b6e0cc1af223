/-! The one-byte tags that open the values of the wire format. -/

namespace GridClient

/-- The kind of a tagged value. -/
inductive TypeTag where
  | byte | short | int | long | float | double | char | bool | string | uuid | date
  | byteArray | shortArray | intArray | longArray | floatArray | doubleArray | charArray
  | boolArray | stringArray | uuidArray | dateArray | array | collection | map | mapEntry
  | binary | enumeration | enumArray | decimal | decimalArray | timestamp | timestampArray
  /-- The null marker, with no payload. -/
  | null
  | handle
  /-- The header of an object. -/
  | object
  deriving DecidableEq, Repr

namespace TypeTag

/-- The byte of a tag. -/
def code : TypeTag → UInt8
  | byte => 1 | short => 2 | int => 3 | long => 4 | float => 5 | double => 6 | char => 7
  | bool => 8 | string => 9 | uuid => 10 | date => 11 | byteArray => 12 | shortArray => 13
  | intArray => 14 | longArray => 15 | floatArray => 16 | doubleArray => 17 | charArray => 18
  | boolArray => 19 | stringArray => 20 | uuidArray => 21 | dateArray => 22 | array => 23
  | collection => 24 | map => 25 | mapEntry => 26 | binary => 27 | enumeration => 28
  | enumArray => 29 | decimal => 30 | decimalArray => 31 | timestamp => 33
  | timestampArray => 34 | null => 101 | handle => 102 | object => 103

/-- Every tag, in the order of their bytes. -/
def all : List TypeTag :=
  [byte, short, int, long, float, double, char, bool, string, uuid, date, byteArray, shortArray,
    intArray, longArray, floatArray, doubleArray, charArray, boolArray, stringArray, uuidArray,
    dateArray, array, collection, map, mapEntry, binary, enumeration, enumArray, decimal,
    decimalArray, timestamp, timestampArray, null, handle, object]

/-- The tag of a byte. -/
def ofCode? (b : UInt8) : Option TypeTag := all.find? fun tag => tag.code == b

theorem ofCode?_code (tag : TypeTag) : ofCode? tag.code = some tag := by cases tag <;> rfl

/-- Whether looking at the tag of a column takes it off the stream: its payload, if any, follows
directly. The readers of all other kinds read their own tag. -/
def isConsumedOnPeek : TypeTag → Bool
  | byte | short | int | long | float | double | char | bool | null => true
  | _ => false

end TypeTag

end GridClient
