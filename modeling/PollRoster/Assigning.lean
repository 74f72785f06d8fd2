import PollRoster.Order
import PollRoster.Program

/-!
# Assigning representatives

The programs that change assignments. A slot is looked at before it is filled; when another client
is faster the repository refuses the insertion, and whoever holds the slot then decides the outcome.

* `assign` puts a representative into one slot; to hold the slot already is no failure.
* `remove` takes an assignment away.
* `bulkAssign` puts a representative into the same slot of many sections, each on its own.
-/

namespace PollRoster

/-- What an assignment of one slot came to. -/
inductive AssignOutcome where
  | created (a : Assignment)
  /-- The representative held the slot before. -/
  | unchanged (a : Assignment)
  deriving DecidableEq, Repr

namespace AssignOutcome

def assignment : AssignOutcome → Assignment
  | .created a | .unchanged a => a

def isCreated : AssignOutcome → Bool
  | .created _ => true
  | .unchanged _ => false

end AssignOutcome

namespace Assigning

open Program (ask ofExcept)

/-- A slot that `existing` holds is fine for its representative and occupied for anybody else. -/
def heldOrOccupied (existing : Assignment) (representativeId : Int) :
    Except OperationError AssignOutcome :=
  if existing.representativeId = representativeId then .ok (.unchanged existing)
  else .error (.slotOccupied existing.sectionId existing.role existing.representativeId)

def requireRepresentative (id : Int) : Program Unit := do
  match ← ask (.representative id) with
  | some _ => return ()
  | none => .fail (.notFound "Representative" id)

/-- The reason given when a slot is refused as occupied and found empty. -/
def vanishedOccupant (sectionId : Int) (role : Role) : String :=
  let code := role.code
  s!"slot {code} of section {sectionId} reported occupied but is empty"

/-- Reports who holds a slot that was refused as occupied. -/
def reportHolder (sectionId representativeId : Int) (role : Role) : Program AssignOutcome := do
  match ← ask (.findSlot sectionId role) with
  | some existing => ofExcept (heldOrOccupied existing representativeId)
  | none => .fail (.repository (vanishedOccupant sectionId role))

/-- Fills a slot that was found empty. -/
def insertInto (sectionId representativeId : Int) (role : Role) : Program AssignOutcome := do
  match ← Program.tryAsk (.insert sectionId representativeId role) with
  | .ok a => do
    Program.tell (.assigned a)
    return .created a
  -- another client was faster, perhaps for the same representative
  | .error (.slotOccupied _ _ _) => reportHolder sectionId representativeId role
  | .error e => .fail e

/-- Fills one slot for a representative who is known to exist. -/
def fillSlot (sectionId representativeId : Int) (role : Role) : Program AssignOutcome := do
  ofExcept (OperationError.checkId "section_id" sectionId)
  if !(← ask (.sectionExists sectionId)) then
    .fail (.notFound "Section" sectionId)
  else
    match ← ask (.findSlot sectionId role) with
    | some existing => ofExcept (heldOrOccupied existing representativeId)
    | none => insertInto sectionId representativeId role

/-- Puts a representative into one slot of one section. -/
def assign (sectionId representativeId : Int) (role : Role) : Program AssignOutcome := do
  if ← Program.isCancelled then
    .fail .cancelled
  else
    ofExcept (OperationError.checkId "representative_id" representativeId)
    requireRepresentative representativeId
    fillSlot sectionId representativeId role

/-- Takes an assignment away and answers it. -/
def remove (assignmentId : Int) : Program Assignment := do
  if ← Program.isCancelled then
    .fail .cancelled
  else
    ofExcept (OperationError.checkId "assignment_id" assignmentId)
    let removed ← ask (.delete assignmentId)
    Program.tell (.removed removed)
    return removed

/-- The status of a section in a bulk report. Only an occupied slot and a missing section leave the
rest of the batch undisturbed. -/
def statusOf : Except OperationError AssignOutcome → Except OperationError BulkStatus
  | .ok (.created a) => .ok (.assigned a.id)
  | .ok (.unchanged a) => .ok (.alreadyAssigned a.id)
  | .error (.slotOccupied _ _ occupant) => .ok (.slotOccupied occupant)
  | .error (.notFound _ _) => .ok .notFound
  | .error e => .error e

/-- Fills the slot of one section of a batch, unless the operator has cancelled. -/
def fillNext (representativeId : Int) (role : Role) (sectionId : Int) : Program BulkStatus := do
  if ← Program.isCancelled then
    return .cancelled
  else
    let outcome ← (fillSlot sectionId representativeId role).attempt
    ofExcept (statusOf outcome)

/-- Fills the slot of one section after another. -/
def fillSlots (representativeId : Int) (role : Role) : List Int → Program (List BulkItem)
  | [] => return []
  | sectionId :: rest => do
    let status ← fillNext representativeId role sectionId
    let items ← fillSlots representativeId role rest
    return ⟨sectionId, status⟩ :: items

/-- The failure of a selection with nothing in it. -/
def emptySelection : OperationError := .validation "section_ids" "bulk selection is empty"

/-- Puts a representative into the same slot of many sections. Repeated sections count once, where
they first stand. -/
def bulkAssign (representativeId : Int) (sectionIds : List Int) (role : Role) :
    Program BulkReport := do
  if sectionIds.isEmpty then
    .fail emptySelection
  else
    -- what concerns the batch as a whole fails before anything is written
    ofExcept (OperationError.checkId "representative_id" representativeId)
    ofExcept (sectionIds.forM (OperationError.checkId "section_id"))
    requireRepresentative representativeId
    let items ← fillSlots representativeId role (distinct sectionIds)
    return ⟨representativeId, role, items⟩

end Assigning

/-! ## Commands -/

inductive Command where
  | assign (sectionId representativeId : Int) (role : Role)
  | remove (assignmentId : Int)
  | bulkAssign (representativeId : Int) (sectionIds : List Int) (role : Role)
  /-- Counters of scopes related to this one are to be counted anew. -/
  | invalidateCache (scope : Scope)
  deriving DecidableEq, Repr

inductive CommandOutcome where
  | assigned (outcome : AssignOutcome)
  | removed (assignment : Assignment)
  | bulk (report : BulkReport)
  | invalidated (scope : Scope)
  deriving DecidableEq, Repr

namespace Command

def name : Command → String
  | .assign _ _ _ => "Assign"
  | .remove _ => "Remove"
  | .bulkAssign _ _ _ => "BulkAssign"
  | .invalidateCache _ => "InvalidateCache"

def execute : Command → Program CommandOutcome
  | .assign sectionId representativeId role =>
    return .assigned (← Assigning.assign sectionId representativeId role)
  | .remove assignmentId => return .removed (← Assigning.remove assignmentId)
  | .bulkAssign representativeId sectionIds role =>
    return .bulk (← Assigning.bulkAssign representativeId sectionIds role)
  | .invalidateCache scope => do
    Program.tell (.invalidated scope)
    return .invalidated scope

end Command

end PollRoster
