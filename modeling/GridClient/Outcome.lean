/-! What an operation reports to its caller. -/

namespace GridClient

/-- The result of an operation. -/
inductive Outcome where
  | success
  /-- It succeeded, and the diagnostics hold warnings. -/
  | successWithInfo
  /-- There is no row, or no record, of that number. -/
  | noData
  | error
  deriving DecidableEq, Repr

namespace Outcome

/-- The numeric return code. -/
def returnCode : Outcome → Int16
  | success => 0
  | successWithInfo => 1
  | noData => 100
  | error => -1

def isSuccess : Outcome → Bool
  | success | successWithInfo => true
  | _ => false

/-- The result of work that may have truncated something. -/
def ofTruncated (truncated : Bool) : Outcome := if truncated then successWithInfo else success

end Outcome

end GridClient
