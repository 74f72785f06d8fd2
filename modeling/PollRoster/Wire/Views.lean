import PollRoster.Engine
import PollRoster.Navigator
import PollRoster.Wire.Records

/-!
# Views as JSON
-/

namespace PollRoster.Wire

open PollRoster.Json (Decoder RecordField Flaw ofMembers ofOption ofList ofNat string)
open PollRoster.Json (asId asNumber asCount asString asBool asList)

/-! ## Buildings and counters -/

def ofBuildingKey (k : BuildingKey) : Json :=
  ofMembers [("municipality_id", .integer k.municipalityId), ("name", string k.name),
    ("address", string k.address)]

def asBuildingKey : Decoder BuildingKey := fun j => do
  let municipalityId := RecordField.required "municipality_id" asId
  let name := RecordField.required "name" asString
  let address := RecordField.required "address" asString
  let m ← j.record [municipalityId.check, name.check, address.check]
  return {
    municipalityId := ← m.get municipalityId, name := ← m.get name, address := ← m.get address }

def ofBuilding (b : PollingBuilding) : Json :=
  ofMembers [("key", ofBuildingKey b.key), ("name", string b.name), ("address", string b.address),
    ("section_ids", ofList .integer b.sectionIds), ("elector_count", ofNat b.electorCount)]

def asBuilding : Decoder PollingBuilding := fun j => do
  let key := RecordField.required "key" asBuildingKey
  let name := RecordField.required "name" asString
  let address := RecordField.required "address" asString
  let sectionIds := RecordField.required "section_ids" (asList asId)
  let electorCount := RecordField.required "elector_count" asNumber
  let m ← j.record [key.check, name.check, address.check, sectionIds.check, electorCount.check]
  return {
    key := ← m.get key, name := ← m.get name, address := ← m.get address
    sectionIds := ← m.get sectionIds, electorCount := ← m.get electorCount }

def ofCounters (c : Counters) : Json :=
  ofMembers [("total_sections", ofNat c.total), ("assigned_sections", ofNat c.assigned),
    ("unassigned_sections", ofNat c.unassigned),
    ("available_representatives", ofNat c.available)]

def asCounters : Decoder Counters := fun j => do
  let total := RecordField.required "total_sections" asCount
  let assigned := RecordField.required "assigned_sections" asCount
  let unassigned := RecordField.required "unassigned_sections" asCount
  let available := RecordField.required "available_representatives" asCount
  let m ← j.record [total.check, assigned.check, unassigned.check, available.check]
  return {
    total := ← m.get total, assigned := ← m.get assigned, unassigned := ← m.get unassigned
    available := ← m.get available }

/-! ## Rows and nodes -/

def ofFlags (f : SlotFlags) : Json :=
  ofMembers [("multi_plesso", .bool f.severalBuildings),
    ("territorio_mismatch", .bool f.outsideTerritory)]

def asFlags : Decoder SlotFlags := fun j => do
  let severalBuildings := RecordField.required "multi_plesso" asBool
  let outsideTerritory := RecordField.required "territorio_mismatch" asBool
  let m ← j.record [severalBuildings.check, outsideTerritory.check]
  return {
    severalBuildings := ← m.get severalBuildings, outsideTerritory := ← m.get outsideTerritory }

def ofSlotView (v : SlotView) : Json :=
  ofMembers [("assignment_id", .integer v.assignmentId),
    ("representative_id", .integer v.representativeId),
    ("representative_name", string v.representativeName), ("flags", ofFlags v.flags)]

def asSlotView : Decoder SlotView := fun j => do
  let assignmentId := RecordField.required "assignment_id" asId
  let representativeId := RecordField.required "representative_id" asId
  let representativeName := RecordField.required "representative_name" asString
  let flags := RecordField.required "flags" asFlags
  let m ← j.record [assignmentId.check, representativeId.check, representativeName.check,
    flags.check]
  return {
    assignmentId := ← m.get assignmentId, representativeId := ← m.get representativeId
    representativeName := ← m.get representativeName, flags := ← m.get flags }

def ofRow (r : SectionRow) : Json :=
  ofMembers [("section", ofSection r.pollingSection), ("primary", ofOption ofSlotView r.primary),
    ("alternate", ofOption ofSlotView r.alternate)]

def asRow : Decoder SectionRow := fun j => do
  let pollingSection := RecordField.required "section" asSection
  let primary := RecordField.optional "primary" asSlotView
  let alternate := RecordField.optional "alternate" asSlotView
  let m ← j.record [pollingSection.check, primary.check, alternate.check]
  return {
    pollingSection := ← m.get pollingSection, primary := ← m.get primary
    alternate := ← m.get alternate }

def ofBuildingView (b : BuildingView) : Json :=
  ofMembers [("building", ofBuilding b.building), ("sections", ofList ofRow b.rows),
    ("warning_count", ofNat b.warnings), ("primary_filled", ofNat b.primaryFilled),
    ("alternate_filled", ofNat b.alternateFilled)]

def asBuildingView : Decoder BuildingView := fun j => do
  let building := RecordField.required "building" asBuilding
  let rows := RecordField.required "sections" (asList asRow)
  let warnings := RecordField.required "warning_count" asCount
  let primaryFilled := RecordField.required "primary_filled" asCount
  let alternateFilled := RecordField.required "alternate_filled" asCount
  let m ← j.record [building.check, rows.check, warnings.check, primaryFilled.check,
    alternateFilled.check]
  return {
    building := ← m.get building, rows := ← m.get rows, warnings := ← m.get warnings
    primaryFilled := ← m.get primaryFilled, alternateFilled := ← m.get alternateFilled }

def ofNode (n : Node) : Json :=
  ofMembers [("level", ofLevel n.level), ("scope", ofScope n.scope), ("id", .integer n.id),
    ("name", string n.name), ("aggregates", ofCounters n.counters)]

/-- A node of a content. The nodes are kept until the tag of the content is known. -/
def asNode : Decoder Node := fun j => do
  let level := RecordField.required "level" asKeptLevel
  let scope := RecordField.required "scope" asScope
  let id := RecordField.required "id" asId
  let name := RecordField.required "name" asString
  let counters := RecordField.required "aggregates" asCounters
  let m ← j.record [level.check, scope.check, id.check, name.check, counters.check]
  return {
    level := ← m.get level, scope := ← m.get scope, id := ← m.get id, name := ← m.get name
    counters := ← m.get counters }

def ofContent : Content → Json
  | .nodes ns => ofMembers [("kind", string "nodes"), ("nodes", ofList ofNode ns)]
  | .sections bs =>
    ofMembers [("kind", string "sections"), ("buildings", ofList ofBuildingView bs)]

def asContent : Decoder Content := fun j => do
  let nodes := RecordField.required "nodes" (asList asNode)
  let buildings := RecordField.required "buildings" (asList asBuildingView)
  let (kind, fields) ← j.splitTag "kind" ["nodes", "sections"]
  if kind = "nodes" then
    return .nodes (← (← fields.record [nodes.check]).get nodes)
  else
    return .sections (← (← fields.record [buildings.check]).get buildings)

/-! ## Views -/

def ofBreadcrumb (b : Breadcrumb) : Json :=
  ofMembers [("scope", ofScope b.scope), ("label", string b.label)]

/-- A view, with its content under the given name. -/
def ofView (contentName : String) (v : View) : Json :=
  ofMembers [("scope", ofScope v.scope), ("level", ofLevel v.level),
    (contentName, ofContent v.content), ("summary", ofCounters v.summary),
    ("breadcrumbs", ofList ofBreadcrumb v.breadcrumbs), ("auto_skip", .bool v.autoSkip)]

def ofNavigatorState (s : NavigatorState) : Json :=
  ofMembers [("path", ofScope s.path), ("level", ofLevel s.level)]

def actionNames : List String := ["refresh", "drill_down", "back"]

/-- The movement of the given name with the given fields. -/
def asActionNamed (name : String) : Decoder NavigationAction := fun fields => do
  let scope := RecordField.required "scope" asScope
  match name with
  | "drill_down" => return .drillDown (← (← fields.record [scope.check]).get scope)
  | "back" => fields.fieldless .back
  | _ => fields.fieldless .refresh

def asAction : Decoder NavigationAction := fun j => do
  let (name, fields) ← j.splitTag "action" actionNames
  asActionNamed name fields

/-- The movement that members kept for later describe; its name may be its position there. -/
def actionOfKept (kept : List (Option String × Json)) : Except Flaw NavigationAction := do
  let action := RecordField.required "action" (Json.asTagOrPosition actionNames)
  let m ← Json.readMembers [action.check] (fun _ => true) [] kept
  asActionNamed (← m.get action) (.object kept)

/-! ## Preferences -/

def ofAvailability : Availability → Json
  | .available roles =>
    ofMembers [("status", string "available"), ("free_roles", ofList ofRole roles)]
  | .held role => ofMembers [("status", string "held_by_representative"), ("role", ofRole role)]
  | .full => ofMembers [("status", string "full")]

def ofPreferenceEntry (e : PreferenceEntry) : Json :=
  ofMembers [("section_id", .integer e.sectionId), ("number", ofNat e.number),
    ("building_name", string e.buildingName), ("address", string e.address),
    ("availability", ofAvailability e.availability)]

def ofNumberRange (r : NumberRange) : Json :=
  ofMembers [("low", ofNat r.low), ("high", ofNat r.high)]

def ofPreferenceMatch (m : PreferenceMatch) : Json :=
  ofMembers [("requested", ofList ofNat m.requested),
    ("entries", ofList ofPreferenceEntry m.entries), ("unmatched", ofList ofNat m.unmatched),
    ("oversized_ranges", ofList ofNumberRange m.oversized)]

/-! ## Representatives -/

def ofHeldSlot (h : HeldSlot) : Json :=
  ofMembers [("assignment_id", .integer h.assignmentId), ("section_id", .integer h.sectionId),
    ("section_number", ofNat h.sectionNumber), ("building_name", string h.buildingName),
    ("role", ofRole h.role)]

def ofSummary (s : RepresentativeSummary) : Json :=
  ofMembers [("representative", ofRepresentative s.representative),
    ("sections_held", ofNat s.sectionsHeld), ("assignments", ofList ofHeldSlot s.held)]

/-! ## Bulk reports -/

def ofBulkStatus : BulkStatus → Json
  | .assigned id => ofMembers [("status", string "assigned"), ("assignment_id", .integer id)]
  | .alreadyAssigned id =>
    ofMembers [("status", string "already_assigned"), ("assignment_id", .integer id)]
  | .slotOccupied occupant =>
    ofMembers [("status", string "slot_occupied"), ("occupant", .integer occupant)]
  | .notFound => ofMembers [("status", string "not_found")]
  | .cancelled => ofMembers [("status", string "cancelled")]

def asBulkStatus : Decoder BulkStatus := fun j => do
  let assignmentId := RecordField.required "assignment_id" asId
  let occupant := RecordField.required "occupant" asId
  let (status, fields) ← j.splitTag "status"
    ["assigned", "already_assigned", "slot_occupied", "not_found", "cancelled"]
  match status with
  | "assigned" => return .assigned (← (← fields.record [assignmentId.check]).get assignmentId)
  | "already_assigned" =>
    return .alreadyAssigned (← (← fields.record [assignmentId.check]).get assignmentId)
  | "slot_occupied" => return .slotOccupied (← (← fields.record [occupant.check]).get occupant)
  | "not_found" => fields.fieldless .notFound
  | _ => fields.fieldless .cancelled

def ofBulkItem (i : BulkItem) : Json :=
  ofMembers [("section_id", .integer i.sectionId), ("status", ofBulkStatus i.status)]

def asBulkItem : Decoder BulkItem := fun j => do
  let sectionId := RecordField.required "section_id" asId
  let status := RecordField.required "status" asBulkStatus
  let m ← j.record [sectionId.check, status.check]
  return { sectionId := ← m.get sectionId, status := ← m.get status }

def ofBulkReport (r : BulkReport) : Json :=
  ofMembers [("representative_id", .integer r.representativeId), ("role", ofRole r.role),
    ("items", ofList ofBulkItem r.items)]

def asBulkReport : Decoder BulkReport := fun j => do
  let representativeId := RecordField.required "representative_id" asId
  let role := RecordField.required "role" asRole
  let items := RecordField.required "items" (asList asBulkItem)
  let m ← j.record [representativeId.check, role.check, items.check]
  return {
    representativeId := ← m.get representativeId, role := ← m.get role, items := ← m.get items }

/-! ## Events -/

def ofEvent : Event → Json
  | .assigned a => ofMembers [("event", string "assigned"), ("assignment", ofAssignment a)]
  | .removed a => ofMembers [("event", string "removed"), ("assignment", ofAssignment a)]
  | .invalidated scope => ofMembers [("event", string "invalidated"), ("scope", ofScope scope)]

end PollRoster.Wire
