import PollRoster.Role

/-!
# Failures of the database
-/

namespace PollRoster

/-- Why the database refuses a call or cannot answer it. -/
inductive StorageError where
  /-- A rule of the tables is broken, or the database itself failed. -/
  | database (reason : String)
  | connection (reason : String)
  | migration (reason : String)
  | query (reason : String)
  | initialization (reason : String)
  | foreignKeysDisabled
  /-- A row names another row that is not stored. -/
  | foreignKey (reason : String)
  | slotOccupied (sectionId : Int) (role : Role)
  /-- A stored row stands for no record. -/
  | invalidData (reason : String)
  /-- Reference data that is not sound or does not fit into the tables. -/
  | invalidReferenceData (reason : String)
  | alreadySeeded
  | notFound (resource : String) (id : Int)
  deriving DecidableEq, Repr

def StorageError.message : StorageError → String
  | .database reason => s!"Database error: {reason}"
  | .connection reason => s!"Database connection failed: {reason}"
  | .migration reason => s!"Migration failed: {reason}"
  | .query reason => s!"Query failed: {reason}"
  | .initialization reason => s!"Initialization error: {reason}"
  | .foreignKeysDisabled => "Foreign key enforcement is not enabled"
  | .foreignKey reason => s!"Foreign key violation: {reason}"
  | .slotOccupied sectionId role =>
    let code := role.code
    s!"Slot {code} of section {sectionId} is already assigned"
  | .invalidData reason => s!"Invalid stored data: {reason}"
  | .invalidReferenceData reason => s!"Invalid reference data: {reason}"
  | .alreadySeeded => "Reference data already loaded"
  | .notFound resource id => s!"{resource} {id} not found"

end PollRoster
