import PollRoster.Availability
import PollRoster.View

/-!
# Selections

The sections that an operator has ticked for a bulk assignment. Moving to another scope or changing
the filter drops them, so that nothing out of sight is ever assigned.
-/

namespace PollRoster

structure Selection where
  scope : Scope
  filter : String
  sectionIds : List Int
  deriving DecidableEq, Repr

namespace Selection

def start (scope : Scope) : Selection := ⟨scope, "", []⟩

def isSelected (s : Selection) (sectionId : Int) : Bool := s.sectionIds.contains sectionId

def size (s : Selection) : Nat := s.sectionIds.length

def isEmpty (s : Selection) : Bool := s.sectionIds.isEmpty

def select (s : Selection) (sectionIds : List Int) : Selection :=
  { s with sectionIds := sectionIds.foldl (fun ids id => insertAscending id ids) s.sectionIds }

def toggle (s : Selection) (sectionId : Int) : Selection :=
  if s.isSelected sectionId then { s with sectionIds := s.sectionIds.filter (· ≠ sectionId) }
  else s.select [sectionId]

def selectBuilding (s : Selection) (b : BuildingView) : Selection :=
  s.select (b.rows.map (·.pollingSection.id))

def selectAll (s : Selection) (v : View) : Selection :=
  match v.content with
  | .nodes _ => s
  | .sections buildings => buildings.foldl selectBuilding s

/-- Adds the sections of a match that may be chosen. -/
def selectPreferences (s : Selection) (m : PreferenceMatch) : Selection :=
  s.select (m.selectable.map (·.sectionId))

def clear (s : Selection) : Selection := { s with sectionIds := [] }

def moveTo (s : Selection) (scope : Scope) : Selection :=
  if s.scope = scope then s else { s with scope := scope, sectionIds := [] }

def setFilter (s : Selection) (filter : String) : Selection :=
  if s.filter = filter then s else { s with filter := filter, sectionIds := [] }

end Selection

end PollRoster
