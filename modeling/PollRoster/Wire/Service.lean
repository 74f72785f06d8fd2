import PollRoster.Service
import PollRoster.Wire.Views

/-!
# Requests and replies as JSON

How the requests of the service are read and its replies written. An identifier may be any integer
of its width and a role any text; what they stand for is checked by the service.
-/

namespace PollRoster.Wire

open PollRoster.Json (Decoder RecordField Flaw ofMembers ofOption ofList ofNat string)
open PollRoster.Json (asId asString asList)
open PollRoster.Service (Request Reply)

/-! ## Requests -/

def asHierarchyRequest : Decoder Request := fun j => do
  return .hierarchy (← asScope j)

/-- The components of the scope stand beside the filter. -/
def asRepresentativesRequest : Decoder Request := fun j => do
  let filter := RecordField.optional "filter" asString
  let (own, nested) ← j.nestedRecord [filter.check] scopeChecks
  return .representatives (← scopeOfMembers nested) (← own.get filter)

def asCreateRequest : Decoder Request := fun j => do
  let sectionId := RecordField.required "section_id" asId
  let representativeId := RecordField.required "representative_id" asId
  let role := RecordField.required "role" asString
  let m ← j.record [sectionId.check, representativeId.check, role.check]
  return .create (← m.get sectionId) (← m.get representativeId) (← m.get role)

def asBulkRequest : Decoder Request := fun j => do
  let representativeId := RecordField.required "representative_id" asId
  let sectionIds := RecordField.required "section_ids" (asList asId)
  let role := RecordField.required "role" asString
  let scope := RecordField.optional "scope" asScope
  let m ← j.record [representativeId.check, sectionIds.check, role.check, scope.check]
  return .bulkAssign (← m.get representativeId) (← m.get sectionIds) (← m.get role)
    (← m.get scope)

def asInvalidateRequest : Decoder Request := fun j => do
  let scope := RecordField.withDefault "scope" asScope .root
  return .invalidate (← (← j.record [scope.check]).get scope)

def asAnalyzeRequest : Decoder Request := fun j => do
  let representativeId := RecordField.required "representative_id" asId
  let text := RecordField.optional "preference_text" asString
  let m ← j.record [representativeId.check, text.check]
  return .analyze (← m.get representativeId) (← m.get text)

/-- The fields of the movement stand beside the path. They are kept until the whole object was read,
and its name may then be its position. -/
def asNavigateRequest : Decoder Request
  | .object members => do
    let path := RecordField.withDefault "path" asScope .root
    let (own, kept) ← Json.splitMembers [path.check] [] [] members
    let action ← Json.whenKept (actionOfKept kept)
    return .navigate (← own.get path) action
  | .array _ => .error .illTyped
  | j => .error j.mismatch

/-! ## Replies -/

/-- What is said about an assignment that was asked for. -/
def assignedText (o : AssignOutcome) : String :=
  let a := o.assignment
  let code := a.role.code
  if o.isCreated then
    s!"Representative {a.representativeId} assigned as {code} to section {a.sectionId}"
  else s!"Representative {a.representativeId} already holds {code} in section {a.sectionId}"

def removedText (a : Assignment) : String :=
  s!"Assignment {a.id} removed from section {a.sectionId}"

def ofHierarchy (v : View) : Json := ofView "items" v

def ofCandidate (s : RepresentativeSummary) : Json :=
  let r := s.representative
  ofMembers [("representative_id", .integer r.id), ("full_name", string r.fullName),
    ("email", string r.email), ("phone", ofOption string r.phone),
    ("municipality_id", .integer r.municipalityId), ("district", ofOption ofNat r.district),
    ("preference", string r.preference), ("notes", ofOption string r.notes),
    ("sections_held", ofNat s.sectionsHeld), ("assignments", ofList ofHeldSlot s.held)]

/-- The view is left out when there is none. -/
def ofBulkAnswer (b : BulkAnswer) : Json :=
  let view := match b.view with
    | none => []
    | some v => [("view", ofHierarchy v)]
  ofMembers ([("representative_id", .integer b.report.representativeId),
    ("role", string b.report.role.code), ("results", ofList ofBulkItem b.report.items),
    ("succeeded", ofNat b.report.succeeded.length), ("failed", ofNat b.report.failed.length),
    ("partial_failure", .bool b.report.isPartialFailure)] ++ view)

def ofAnalysis (representativeId : Int) (m : PreferenceMatch) : Json :=
  ofMembers [("representative_id", .integer representativeId),
    ("requested", ofList ofNat m.requested),
    ("matched_sections", ofList ofPreferenceEntry m.selectable),
    ("already_assigned", ofList ofPreferenceEntry m.unavailable),
    ("unmatched", ofList ofNat m.unmatched),
    ("oversized_ranges", ofList ofNumberRange m.oversized)]

def ofLoaded (d : ReferenceData) : Json :=
  ofMembers [("regions", ofNat d.territory.regions.length),
    ("provinces", ofNat d.territory.provinces.length),
    ("municipalities", ofNat d.territory.municipalities.length),
    ("sections", ofNat d.territory.sections.length),
    ("representatives", ofNat d.representatives.length)]

def ofReply : Reply → Json
  | .view v => ofHierarchy v
  | .representatives found => ofMembers [("representatives", ofList ofCandidate found)]
  | .assigned o =>
    ofMembers [("assignment", ofAssignment o.assignment), ("created", .bool o.isCreated),
      ("message", string (assignedText o))]
  | .removed a =>
    ofMembers [("assignment", ofAssignment a), ("message", string (removedText a))]
  | .bulk b => ofBulkAnswer b
  | .invalidated scope =>
    ofMembers [("scope", ofScope scope), ("message", string "Cached counters invalidated")]
  | .analysis representativeId m => ofAnalysis representativeId m
  | .moved n =>
    ofMembers [("state", ofNavigatorState n.state), ("view", ofOption ofHierarchy n.view)]
  | .loaded d => ofLoaded d

end PollRoster.Wire
