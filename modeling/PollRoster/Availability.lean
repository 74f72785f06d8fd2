import PollRoster.Building
import PollRoster.Preference
import PollRoster.Slots

/-!
# Preferences against sections

Which of the sections that a preference asks for exist, and whether the representative can still be
assigned to them. Section numbers are unique within a building only, so one number may stand for
several sections.
-/

namespace PollRoster

/-- Whether a representative can be assigned to a section. -/
inductive Availability where
  /-- Somebody may take one of these roles. -/
  | available (freeRoles : List Role)
  /-- The representative holds this role already. -/
  | held (role : Role)
  /-- Others hold both slots. -/
  | full
  deriving DecidableEq, Repr

def SectionSlots.availability (s : SectionSlots) (representativeId : Int) : Availability :=
  let heldHere (role : Role) := (s.occupant? role).any (·.representativeId = representativeId)
  match Role.all.find? heldHere with
  | some role => .held role
  | none => if s.isFull then .full else .available s.freeRoles

/-- A section that a preference asks for. -/
structure PreferenceEntry where
  sectionId : Int
  number : Nat
  buildingName : String
  address : String
  availability : Availability
  deriving DecidableEq, Repr

namespace PreferenceEntry

/-- Whether an operator may choose the section for an assignment. -/
def isSelectable (e : PreferenceEntry) : Bool :=
  match e.availability with
  | .available _ => true
  | .held _ | .full => false

/-- Entries are listed by number, then building. -/
def compareForDisplay : PreferenceEntry → PreferenceEntry → Ordering :=
  compareLex (compareOn PreferenceEntry.number) (compareOn fun e => normalizeLabel e.buildingName)

def ofSection (slots : SlotTable) (representativeId : Int) (s : PollingSection) : PreferenceEntry :=
  ⟨s.id, s.number, s.buildingName, s.address, (slots.slots s.id).availability representativeId⟩

end PreferenceEntry

structure PreferenceMatch where
  /-- The numbers asked for, ascending. -/
  requested : List Nat
  entries : List PreferenceEntry
  /-- The numbers asked for that no section has, ascending. -/
  unmatched : List Nat
  oversized : List NumberRange
  deriving DecidableEq, Repr

namespace PreferenceMatch

def selectable (m : PreferenceMatch) : List PreferenceEntry := m.entries.filter (·.isSelectable)

def unavailable (m : PreferenceMatch) : List PreferenceEntry :=
  m.entries.filter fun e => !e.isSelectable

end PreferenceMatch

/-- Matches a preference with the sections where the representative may serve. -/
def Preference.matchSections (p : Preference) (sections : List PollingSection) (slots : SlotTable)
    (representativeId : Int) : PreferenceMatch :=
  let wanted := sections.filter fun s => p.numbers.contains s.number
  { requested := p.numbers
    entries := sortBy PreferenceEntry.compareForDisplay
      (wanted.map (.ofSection slots representativeId))
    unmatched := p.numbers.filter fun n => !wanted.any (·.number = n)
    oversized := p.oversized }

end PollRoster
