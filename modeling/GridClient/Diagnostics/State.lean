/-! The SQLSTATE classes that status records use. -/

namespace GridClient

/-- A five-character state, or none. -/
inductive SqlState where
  | unknown
  | dataTruncated
  | cannotConnect
  | alreadyConnected
  | notConnected
  | generalError
  | optionalFeatureNotImplemented
  deriving DecidableEq, Repr

namespace SqlState

def code : SqlState → String
  | unknown => ""
  | dataTruncated => "01004"
  | cannotConnect => "08001"
  | alreadyConnected => "08002"
  | notConnected => "08003"
  | generalError => "HY000"
  | optionalFeatureNotImplemented => "HYC00"

def all : List SqlState :=
  [unknown, dataTruncated, cannotConnect, alreadyConnected, notConnected, generalError,
    optionalFeatureNotImplemented]

/-- The state of a code. -/
def ofCode? (code : String) : Option SqlState := all.find? fun state => state.code == code

theorem ofCode?_code (state : SqlState) : ofCode? state.code = some state := by
  cases state <;> decide

/-- The standard that defines the first two characters. -/
def classOrigin (state : SqlState) : String :=
  if state.code.startsWith "IM" then "ODBC 3.0" else "ISO 9075"

/-- The states whose last three characters the call-level interface defines. -/
def interfaceSubclasses : List String :=
  ["01S00", "01S01", "01S02", "01S06", "01S07", "07S01", "08S01", "21S01", "21S02", "25S01",
    "25S02", "25S03", "42S01", "42S02", "42S11", "42S12", "42S21", "42S22", "HY095", "HY097",
    "HY098", "HY099", "HY100", "HY101", "HY105", "HY107", "HY109", "HY110", "HY111", "HYT00",
    "HYT01", "IM001", "IM002", "IM003", "IM004", "IM005", "IM006", "IM007", "IM008", "IM010",
    "IM011", "IM012"]

/-- The standard that defines the last three characters. -/
def subclassOrigin (state : SqlState) : String :=
  if interfaceSubclasses.contains state.code then "ODBC 3.0" else "ISO 9075"

end SqlState

end GridClient
