import PollRoster.Json.Reader
import PollRoster.Validation
import PollRoster.Wire.Records

/-!
# Reference data

The records that a consultation starts from: the territory and the representatives. They come as one
JSON object with a list for each kind of record.
-/

namespace PollRoster

structure ReferenceData where
  territory : TerritoryData
  representatives : List Representative
  deriving DecidableEq, Repr

namespace ReferenceData

/-- Checks the representatives in order: no identifier occurs twice and every record is sound. -/
def checkRepresentatives (t : Territory) (seen : List Int) :
    List Representative → Except String Unit
  | [] => .ok ()
  | r :: rest => do
    require (!seen.contains r.id) s!"duplicate representative identifier {r.id}"
    match t.validateRepresentative r with
    | .error e => throw e.message
    | .ok () => checkRepresentatives t (r.id :: seen) rest

/-- Checks the structure of the territory and every representative; fails with the first breach. -/
def validate (d : ReferenceData) : Except String Unit := do
  let territory := Territory.ofData d.territory
  match territory.validate with
  | .error e => throw e.message
  | .ok () => checkRepresentatives territory [] d.representatives

open PollRoster.Json (Decoder RecordField asList)

/-- The representatives stand beside the lists of the territory. -/
def toJson (d : ReferenceData) : Json :=
  Json.ofMembers (Wire.territoryMembers d.territory ++
    [("representatives", Json.ofList Wire.ofRepresentative d.representatives)])

/-- Reads the object of the lists; a missing list is empty. -/
def ofJson : Decoder ReferenceData := fun j => do
  let representatives := RecordField.withDefault "representatives" (asList Wire.asRepresentative) []
  let (own, nested) ← j.nestedRecord [representatives.check] Wire.territoryChecks
  return {
    territory := ← Wire.territoryOfMembers nested
    representatives := ← own.get representatives }

def ofText? (text : String) : Option ReferenceData :=
  let document := Json.read text
  if document.endsThere then (ofJson document.value).toOption else none

end ReferenceData

end PollRoster
