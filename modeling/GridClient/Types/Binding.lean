/-! The native types of the caller's buffers. -/

namespace GridClient

/-- The native type of a buffer. -/
inductive BindingType where
  | char
  /-- Text in UTF-16 code units. -/
  | wideChar
  | signedTinyInt | unsignedTinyInt | signedShort | unsignedShort | signedLong | unsignedLong
  | signedBigInt | unsignedBigInt | float | double | bit | binary | date | time | timestamp
  | numeric | guid
  /-- Whatever bytes the value has. -/
  | native
  | unsupported
  deriving DecidableEq, Repr

namespace BindingType

/-- The type of a standard code; every other code is of no supported type. -/
def ofCode (n : Int16) : BindingType :=
  match n.toInt with
  | 1 => char
  | -8 => wideChar
  | -15 => signedShort
  | -17 => unsignedShort
  | -16 => signedLong
  | -18 => unsignedLong
  | 7 => float
  | 8 => double
  | -7 => bit
  | -26 => signedTinyInt
  | -28 => unsignedTinyInt
  | -25 => signedBigInt
  | -27 => unsignedBigInt
  | -2 => binary
  | 91 => date
  | 92 => time
  | 93 => timestamp
  | 2 => numeric
  | -11 => guid
  | 99 => native
  | _ => unsupported

def isSupported (ty : BindingType) : Bool := ty != unsupported

/-- The name that messages call the type by. -/
def label : BindingType → String
  | char => "Char" | wideChar => "WChar" | signedTinyInt => "SignedTinyInt"
  | unsignedTinyInt => "UnsignedTinyInt" | signedShort => "SignedShort"
  | unsignedShort => "UnsignedShort" | signedLong => "SignedLong" | unsignedLong => "UnsignedLong"
  | signedBigInt => "SignedBigInt" | unsignedBigInt => "UnsignedBigInt" | float => "Float"
  | double => "Double" | bit => "Bit" | binary => "Binary" | date => "TDate" | time => "TTime"
  | timestamp => "TTimestamp" | numeric => "Numeric" | guid => "Guid" | native => "Default"
  | unsupported => "Unsupported"

def all : List BindingType :=
  [char, wideChar, signedTinyInt, unsignedTinyInt, signedShort, unsignedShort, signedLong,
    unsignedLong, signedBigInt, unsignedBigInt, float, double, bit, binary, date, time, timestamp,
    numeric, guid, native, unsupported]

/-- The type of a name. -/
def ofLabel? (label : String) : Option BindingType := all.find? fun ty => ty.label == label

theorem ofLabel?_label (ty : BindingType) : ofLabel? ty.label = some ty := by
  cases ty <;> decide

end BindingType

end GridClient
