import PollRoster.Bulk
import PollRoster.RuleError

/-!
# Failures of operations
-/

namespace PollRoster

/-- Why reading or changing assignments fails. -/
inductive OperationError where
  /-- Another representative holds the slot. -/
  | slotOccupied (sectionId : Int) (role : Role) (occupant : Int)
  | notFound (resource : String) (id : Int)
  | validation (field : String) (reason : String)
  /-- Some sections of a bulk assignment failed; the others stay assigned. -/
  | partialFailure (report : BulkReport)
  | cancelled
  | ruleBreach (error : RuleError)
  | repository (reason : String)
  deriving DecidableEq, Repr

namespace OperationError

def message : OperationError → String
  | .slotOccupied sectionId role occupant =>
    let code := role.code
    s!"Section {sectionId} already has a {code} assigned (representative {occupant})"
  | .notFound resource id => s!"{resource} {id} not found"
  | .validation field reason => s!"Invalid {field}: {reason}"
  | .partialFailure report => report.failureText
  | .cancelled => "Operation cancelled"
  | .ruleBreach error => "Domain violation: " ++ error.message
  | .repository reason => s!"Repository error: {reason}"

/-- The failure of a scope that does not resolve: a record that does not exist is not found, any
other breach is a fault of the scope. -/
def ofScope : RuleError → OperationError
  | .nodeNotFound level id => .notFound level id
  | error => .validation "scope" error.message

def checkId (field : String) (value : Int) : Except OperationError Unit :=
  match checkIdentifier field value with
  | .ok _ => .ok ()
  | .error error => .error (.validation field error.message)

end OperationError

/-- A report without failed items as an answer, any other as a failure. -/
def BulkReport.toResult (r : BulkReport) : Except OperationError BulkReport :=
  if r.isPartialFailure then .error (.partialFailure r) else .ok r

end PollRoster
