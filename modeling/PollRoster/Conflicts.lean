import PollRoster.Building
import PollRoster.Slots
import PollRoster.Territory

/-!
# Conflicts

Advisory flags on occupied slots. They are worked out from one reading of the data and never stand
in the way of an assignment.
-/

namespace PollRoster

structure SlotFlags where
  /-- The occupant also holds a slot in another building. -/
  severalBuildings : Bool
  /-- The section lies outside the place that the occupant declared. -/
  outsideTerritory : Bool
  deriving DecidableEq, Repr

def SlotFlags.any (f : SlotFlags) : Bool := f.severalBuildings || f.outsideTerritory

/-- Whether a section lies in another municipality than the declared one, or in another district
when both name one. -/
def isOutsideTerritory (r : Representative) (s : PollingSection) : Bool :=
  r.municipalityId ≠ s.municipalityId ||
    -- where one of the two names no district, the municipality alone decides
    match r.district, s.district with
    | some declared, some actual => declared ≠ actual
    | _, _ => false

/-- What flags are worked out from. -/
structure ConflictDetector where
  territory : Territory
  slots : SlotTable
  representatives : List Representative

namespace ConflictDetector

/-- The representative with an identifier; of several the last. -/
def representative? (c : ConflictDetector) (id : Int) : Option Representative :=
  findLast? (·.id = id) c.representatives

/-- The buildings of the known sections that a representative holds, each once. -/
def buildingsOf (c : ConflictDetector) (representativeId : Int) : List BuildingKey :=
  distinct (((c.slots.heldBy representativeId).filterMap
    fun a => c.territory.section? a.sectionId).map BuildingKey.ofSection)

/-- Whether a representative holds slots in two or more buildings. -/
def spansBuildings (c : ConflictDetector) (representativeId : Int) : Bool :=
  2 ≤ (c.buildingsOf representativeId).length

/-- The flags of an occupied slot. An unknown section or representative raises none of the
territory. -/
def flagsFor (c : ConflictDetector) (a : Assignment) : SlotFlags where
  severalBuildings := c.spansBuildings a.representativeId
  outsideTerritory :=
    match c.representative? a.representativeId, c.territory.section? a.sectionId with
    | some r, some s => isOutsideTerritory r s
    | _, _ => false

end ConflictDetector

/-- The number of sections with an alternate but no primary. -/
def countWarnings (sections : List PollingSection) (slots : SlotTable) : Nat :=
  (sections.filter fun s => (slots.slots s.id).hasOrphanAlternate).length

end PollRoster
