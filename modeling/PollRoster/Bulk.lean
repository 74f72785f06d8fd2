import PollRoster.Role

/-!
# Bulk reports

A bulk assignment puts one representative into the same slot of many sections, each on its own. The
report says what became of every section.
-/

namespace PollRoster

/-- What became of one section of a bulk assignment. -/
inductive BulkStatus where
  | assigned (assignmentId : Int)
  /-- The representative held the slot before. -/
  | alreadyAssigned (assignmentId : Int)
  /-- Another representative holds the slot. -/
  | slotOccupied (occupant : Int)
  | notFound
  /-- The operator cancelled before it was the section's turn. -/
  | cancelled
  deriving DecidableEq, Repr

/-- Whether the representative holds the slot afterwards. -/
def BulkStatus.isSuccess : BulkStatus → Bool
  | .assigned _ | .alreadyAssigned _ => true
  | .slotOccupied _ | .notFound | .cancelled => false

/-- Whether the slot was filled by the bulk assignment. -/
def BulkStatus.isCreated : BulkStatus → Bool
  | .assigned _ => true
  | _ => false

structure BulkItem where
  sectionId : Int
  status : BulkStatus
  deriving DecidableEq, Repr

structure BulkReport where
  representativeId : Int
  role : Role
  items : List BulkItem
  deriving DecidableEq, Repr

namespace BulkReport

def succeeded (r : BulkReport) : List BulkItem := r.items.filter (·.status.isSuccess)

def failed (r : BulkReport) : List BulkItem := r.items.filter fun i => !i.status.isSuccess

def createdCount (r : BulkReport) : Nat := (r.items.filter (·.status.isCreated)).length

def isPartialFailure (r : BulkReport) : Bool := !r.failed.isEmpty

def failureText (r : BulkReport) : String :=
  let failed := r.failed.length
  let all := r.items.length
  s!"Bulk assignment partially failed: {failed} of {all} sections not assigned"

end BulkReport

end PollRoster
