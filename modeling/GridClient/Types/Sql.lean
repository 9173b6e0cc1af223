import GridClient.Types.Tag

/-!
The SQL types that columns and parameters are described by, with what a catalog reports of each.
-/

namespace GridClient

/-- An SQL data type. -/
inductive SqlType where
  | char | numeric | decimal | integer | smallInt | float | real | double | varchar
  | date | time | timestamp | longVarchar | binary | varBinary | longVarBinary
  | bigInt | tinyInt | bit | wideChar | wideVarchar | wideLongVarchar | guid
  deriving DecidableEq, Repr

namespace SqlType

/-- The standard code of a type. -/
def code : SqlType → Int16
  | char => 1 | numeric => 2 | decimal => 3 | integer => 4 | smallInt => 5 | float => 6
  | real => 7 | double => 8 | varchar => 12 | date => 91 | time => 92 | timestamp => 93
  | longVarchar => -1 | binary => -2 | varBinary => -3 | longVarBinary => -4 | bigInt => -5
  | tinyInt => -6 | bit => -7 | wideChar => -8 | wideVarchar => -9 | wideLongVarchar => -10
  | guid => -11

def all : List SqlType :=
  [char, numeric, decimal, integer, smallInt, float, real, double, varchar, date, time, timestamp,
    longVarchar, binary, varBinary, longVarBinary, bigInt, tinyInt, bit, wideChar, wideVarchar,
    wideLongVarchar, guid]

/-- The type of a code. -/
def ofCode? (n : Int16) : Option SqlType := all.find? fun ty => ty.code == n

theorem ofCode?_code (ty : SqlType) : ofCode? ty.code = some ty := by cases ty <;> rfl

/-- The name that messages call the type by. -/
def label : SqlType → String
  | char => "Char" | numeric => "Numeric" | decimal => "Decimal" | integer => "Integer"
  | smallInt => "SmallInt" | float => "Float" | real => "Real" | double => "Double"
  | varchar => "Varchar" | date => "TypeDate" | time => "TypeTime" | timestamp => "TypeTimestamp"
  | longVarchar => "LongVarchar" | binary => "Binary" | varBinary => "VarBinary"
  | longVarBinary => "LongVarBinary" | bigInt => "BigInt" | tinyInt => "TinyInt" | bit => "Bit"
  | wideChar => "WChar" | wideVarchar => "WVarchar" | wideLongVarchar => "WLongVarchar"
  | guid => "Guid"

/-- The type of a name. -/
def ofLabel? (label : String) : Option SqlType := all.find? fun ty => ty.label == label

theorem ofLabel?_label (ty : SqlType) : ofLabel? ty.label = some ty := by
  cases ty <;> decide

/-- The type name in catalog result sets. -/
def name : SqlType → String
  | char => "CHAR" | numeric => "NUMERIC" | decimal => "DECIMAL" | integer => "INTEGER"
  | smallInt => "SMALLINT" | float => "FLOAT" | real => "REAL" | double => "DOUBLE"
  | varchar => "VARCHAR" | date => "DATE" | time => "TIME" | timestamp => "TIMESTAMP"
  | longVarchar => "LONGVARCHAR" | binary => "BINARY" | varBinary => "VARBINARY"
  | longVarBinary => "LONGVARBINARY" | bigInt => "BIGINT" | tinyInt => "TINYINT" | bit => "BIT"
  | wideChar => "WCHAR" | wideVarchar => "WVARCHAR" | wideLongVarchar => "WLONGVARCHAR"
  | guid => "GUID"

/-- Whether a parameter can be sent as the type. -/
def isSupported : SqlType → Bool
  | char | varchar | longVarchar | smallInt | integer | float | double | bit | tinyInt | bigInt
  | binary | varBinary | longVarBinary | guid => true
  | _ => false

/-- The characters that the widest value takes. -/
def displaySize : SqlType → Int32
  | varchar | char | wideChar | binary => 1024
  | bit => 1
  | tinyInt => 4
  | smallInt => 6
  | integer => 11
  | bigInt => 20
  | real => 14
  | float | double => 24
  | date => 10
  | time => 8
  | timestamp => 19
  | guid => 36
  | _ => 34

/-- The digits or characters that the type holds. -/
def columnSize : SqlType → Int32
  | varchar | char | wideChar | binary => 1024
  | bit => 1
  | tinyInt => 3
  | smallInt => 5
  | integer => 10
  | bigInt => 19
  | real => 7
  | float | double => 15
  | date => 10
  | time => 8
  | timestamp => 19
  | guid => 36
  | _ => 34

/-- The bytes that a fixed binding of the type transfers. -/
def transferLength : SqlType → Int32
  | varchar | char | wideChar | binary => 1024
  | bit | tinyInt => 1
  | smallInt => 2
  | integer | real | float => 4
  | bigInt | double => 8
  | date | time => 6
  | timestamp | guid => 16
  | _ => 34

/-- The base that the precision counts digits of, zero for what is not a number. -/
def precisionRadix : SqlType → Int32
  | real | float | double => 2
  | bit | tinyInt | smallInt | integer | bigInt => 10
  | _ => 0

/-- The scale is not tracked for any type. -/
def decimalDigits (_ : SqlType) : Int32 := -1

/-- Whether the type is not a signed number. -/
def isUnsigned : SqlType → Bool
  | bit | tinyInt | smallInt | integer | bigInt | real | float | double => false
  | _ => true

/-- The type of the column values that carry a tag. Collections, objects and bytes that are no tag
count as binary. -/
def ofTag (tag : UInt8) : SqlType :=
  match TypeTag.ofCode? tag with
  | some .byte | some .char => tinyInt
  | some .short => smallInt
  | some .int => integer
  | some .long => bigInt
  | some .float => float
  | some .double => double
  | some .bool => bit
  | some .decimal => decimal
  | some .string => varchar
  | some .uuid => guid
  | some .date => date
  | some .timestamp => timestamp
  | _ => binary

/-- The node does not say whether a column may be null. -/
def nullabilityUnknown : Int64 := 2

end SqlType

end GridClient
