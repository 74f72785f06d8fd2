import PollRoster.Counters
import PollRoster.Conflicts
import PollRoster.Program

/-!
# Snapshots

Everything that a view needs, read from the repository at once, and the counters that follow from
it.
-/

namespace PollRoster

/-- One reading of the repository. -/
structure Snapshot where
  territory : Territory
  representatives : List Representative
  assignments : List Assignment

namespace Snapshot

def load : Program Snapshot := do
  let territory ← Program.ask .territory
  let representatives ← Program.ask .representatives
  let assignments ← Program.ask .assignments
  return ⟨territory, representatives, assignments⟩

def slots (s : Snapshot) : SlotTable := .ofAssignments s.assignments

/-- The first representative with an identifier. -/
def representative? (s : Snapshot) (id : Int) : Option Representative :=
  s.representatives.find? (·.id = id)

/-- The active sections of a scope in display order. -/
def activeSections (s : Snapshot) (scope : Scope) : List PollingSection :=
  (s.territory.sectionsIn scope).filter (·.isActive)

/-- Counts the active sections of a scope and the representatives declared in it. -/
def count (s : Snapshot) (scope : Scope) : Counters :=
  let slots := s.slots
  let sections := s.activeSections scope
  let filled := sections.filter fun x => (slots.occupant? x.id .primary).isSome
  let free := s.representatives.filter fun r =>
    s.territory.placeInScope r.municipalityId r.district scope && (slots.heldBy r.id).isEmpty
  { total := sections.length
    assigned := filled.length
    unassigned := sections.length - filled.length
    available := free.length }

end Snapshot

end PollRoster
