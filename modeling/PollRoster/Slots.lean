import PollRoster.Records

/-!
# Slots

Who holds which slot, looked up over one list of assignments. `SlotTable.ofAssignments` files every
assignment under its section and under its representative.
-/

namespace PollRoster

/-- Changes the entry of a key; a key without an entry gets one at the end. -/
def alter [DecidableEq κ] (key : κ) (f : Option β → β) : List (κ × β) → List (κ × β)
  | [] => [(key, f none)]
  | (k, b) :: rest => if k = key then (k, f (some b)) :: rest else (k, b) :: alter key f rest

/-- The occupants of the two slots of a section. -/
structure SectionSlots where
  primary : Option Assignment
  alternate : Option Assignment
  deriving DecidableEq, Repr

namespace SectionSlots

def empty : SectionSlots := ⟨none, none⟩

def occupant? (s : SectionSlots) : Role → Option Assignment
  | .primary => s.primary
  | .alternate => s.alternate

/-- The slots once `a` holds the slot of its role. -/
def fill (s : SectionSlots) (a : Assignment) : SectionSlots :=
  match a.role with
  | .primary => { s with primary := some a }
  | .alternate => { s with alternate := some a }

def isFull (s : SectionSlots) : Bool := s.primary.isSome && s.alternate.isSome

/-- The roles that nobody holds, the primary first. -/
def freeRoles (s : SectionSlots) : List Role :=
  Role.all.filter fun role => (s.occupant? role).isNone

def hasOrphanAlternate (s : SectionSlots) : Bool := s.primary.isNone && s.alternate.isSome

end SectionSlots

/-- Assignments filed by section and by representative. -/
structure SlotTable where
  bySection : List (Int × SectionSlots)
  byRepresentative : List (Int × List Assignment)

namespace SlotTable

/-- Files one more assignment; it takes the place of an earlier one in the same slot. -/
def file (t : SlotTable) (a : Assignment) : SlotTable where
  bySection := alter a.sectionId (fun s => (s.getD .empty).fill a) t.bySection
  byRepresentative := alter a.representativeId (fun as => as.getD [] ++ [a]) t.byRepresentative

def ofAssignments (assignments : List Assignment) : SlotTable :=
  assignments.foldl file ⟨[], []⟩

def slots (t : SlotTable) (sectionId : Int) : SectionSlots :=
  (t.bySection.lookup sectionId).getD .empty

def occupant? (t : SlotTable) (sectionId : Int) (role : Role) : Option Assignment :=
  (t.slots sectionId).occupant? role

/-- The assignments of a representative in the order of the list. -/
def heldBy (t : SlotTable) (representativeId : Int) : List Assignment :=
  (t.byRepresentative.lookup representativeId).getD []

end SlotTable

end PollRoster
