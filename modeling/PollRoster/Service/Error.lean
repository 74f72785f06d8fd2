import PollRoster.Database.Error
import PollRoster.OperationError
import PollRoster.View

/-!
# Failures of requests

What a request is refused with, in the words of the one who made it. Each breach of a domain rule,
failure of an operation and failure of the database has one such refusal.
-/

namespace PollRoster

/-- The answer to a bulk assignment: what became of every section, and the view afterwards unless
the batch failed before it could be shown. -/
structure BulkAnswer where
  report : BulkReport
  view : Option View
  deriving DecidableEq, Repr

inductive ServiceError where
  /-- A rule of the domain, known by its name, is broken. -/
  | ruleViolation (rule : String) (reason : String)
  | invalidInput (field : String) (reason : String)
  | resourceNotFound (resource : String) (reason : String)
  /-- Another representative holds the slot. -/
  | slotOccupied (sectionId : Int) (role : Role) (occupant : Int)
  /-- Some sections of a bulk assignment failed; the others stay assigned. -/
  | partialFailure (answer : BulkAnswer)
  | cancelled (reason : String)
  | internal (reason : String)
  deriving DecidableEq, Repr

namespace ServiceError

def message : ServiceError → String
  | .ruleViolation rule reason => s!"Domain rule violation ({rule}): {reason}"
  | .invalidInput field reason => s!"Invalid input for field '{field}': {reason}"
  | .resourceNotFound resource reason => s!"{resource} not found: {reason}"
  | .slotOccupied sectionId role occupant =>
    let code := role.code
    s!"Slot {code} of section {sectionId} is held by representative {occupant}"
  | .partialFailure answer => answer.report.failureText
  | .cancelled reason => s!"Operation cancelled: {reason}"
  | .internal reason => s!"Internal error: {reason}"

def missing (resource : String) (id : Int) : ServiceError :=
  .resourceNotFound resource s!"{resource} {id} does not exist"

/-- A breach of a domain rule: faults of the request are invalid input, faults of the reference data
are violations of a named rule. -/
def ofRule : RuleError → ServiceError
  | .invalidIdentifier field value =>
    .invalidInput (field ++ "_id") s!"Identifier must be positive, got {value}"
  | .invalidRole text =>
    .invalidInput "role" s!"Unknown role '{text}'. Expected RDL or SUPPLENTE"
  | .nodeNotFound level id => missing level id
  | .inconsistentScope reason => .invalidInput "scope" reason
  | .invalidDistrict municipalityId district =>
    .invalidInput "district"
      s!"District {district} is not defined for municipality {municipalityId}"
  | .invalidSection sectionId reason =>
    .ruleViolation "section_structure" s!"Section {sectionId}: {reason}"
  | .invalidRepresentative representativeId reason =>
    .ruleViolation "representative_structure" s!"Representative {representativeId}: {reason}"
  | .duplicateIdentifier kind id =>
    .ruleViolation "unique_identifier" s!"Duplicate {kind} identifier {id}"

def ofOperation : OperationError → ServiceError
  | .slotOccupied sectionId role occupant => .slotOccupied sectionId role occupant
  | .notFound resource id => missing resource id
  | .validation field reason => .invalidInput field reason
  | .partialFailure report => .partialFailure ⟨report, none⟩
  | .cancelled => .cancelled "cancellation was requested before the write"
  | .ruleBreach error => ofRule error
  | .repository reason => .internal s!"Storage error: {reason}"

/-- The failure of a database: only faults of what was asked of it are the caller's. -/
def ofStorage : StorageError → ServiceError
  | .alreadySeeded =>
    .ruleViolation "reference_data_loaded_once" "Reference data has already been loaded"
  | .invalidReferenceData reason => .invalidInput "fixture" reason
  | .notFound resource id => missing resource id
  | .slotOccupied sectionId role =>
    let code := role.code
    .ruleViolation "slot_exclusive" s!"Slot {code} of section {sectionId} is already assigned"
  | e => .internal e.message

end ServiceError

end PollRoster
