import PollRoster.Bounds
import PollRoster.Order
import PollRoster.Records

/-!
# Polling buildings

Buildings are not recorded. The sections of a municipality that agree in denomination and address,
up to letter case and white space, form one building.
-/

namespace PollRoster

/-- The text in upper case, its words separated by single blanks. -/
def normalizeLabel (value : String) : String :=
  Text.toUpper (" ".intercalate (Text.words value))

/-- The identity of a building: its municipality and its normalized name and address. -/
structure BuildingKey where
  municipalityId : Int
  name : String
  address : String
  deriving DecidableEq, Repr

namespace BuildingKey

def ofSection (s : PollingSection) : BuildingKey :=
  ⟨s.municipalityId, normalizeLabel s.buildingName, normalizeLabel s.address⟩

/-- Buildings are listed by name, then address, then municipality. -/
def compareForDisplay : BuildingKey → BuildingKey → Ordering :=
  compareLex (compareOn BuildingKey.name)
    (compareLex (compareOn BuildingKey.address) (compareOn BuildingKey.municipalityId))

end BuildingKey

/-- The sections that share one building. -/
structure PollingBuilding where
  key : BuildingKey
  /-- The name as written on the first section. -/
  name : String
  /-- The address as written on the first section. -/
  address : String
  sectionIds : List Int
  /-- The electors of all sections together, as far as the counter reaches. -/
  electorCount : Nat
  deriving DecidableEq, Repr

namespace PollingBuilding

def add (b : PollingBuilding) (s : PollingSection) : PollingBuilding :=
  { b with
    sectionIds := b.sectionIds ++ [s.id]
    electorCount := min maxNumber (b.electorCount + s.electorCount) }

/-- The building before its first section, with the names written on that one. -/
def foundedBy (key : BuildingKey) (s : PollingSection) : PollingBuilding :=
  ⟨key, Text.trim s.buildingName, Text.trim s.address, [], 0⟩

/-- Adds a section with the given key to buildings in display order. -/
def place (key : BuildingKey) (s : PollingSection) : List PollingBuilding → List PollingBuilding
  | [] => [(foundedBy key s).add s]
  | b :: rest =>
    match key.compareForDisplay b.key with
    | .lt => (foundedBy key s).add s :: b :: rest
    | .eq => b.add s :: rest
    | .gt => b :: place key s rest

/-- Groups sections into buildings in display order; within a building they keep their order. -/
def group (sections : List PollingSection) : List PollingBuilding :=
  sections.foldl (fun buildings s => place (.ofSection s) s buildings) []

end PollingBuilding

end PollRoster
