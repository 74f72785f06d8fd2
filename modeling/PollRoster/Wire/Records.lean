import PollRoster.Json.Decode
import PollRoster.Territory

/-!
# Records as JSON

How the reference data and the assignments are written and read. Every member is written, an empty
optional one as `null`; on reading, optional members and members with a default may be missing.
-/

namespace PollRoster.Wire

open PollRoster.Json (Decoder RecordField Flaw ofMembers ofOption ofList ofNat string)
open PollRoster.Json (asId asNumber asString asBool asList)

/-! ## Roles, levels, scopes -/

def ofRole : Role → Json
  | .primary => string "PRIMARY"
  | .alternate => string "ALTERNATE"

/-- Roles are read under each of their names, in upper case only. -/
def roleNames : List (String × Role) :=
  [("PRIMARY", .primary), ("RDL", .primary), ("EFFETTIVO", .primary),
    ("ALTERNATE", .alternate), ("SUPPLENTE", .alternate)]

def asRole : Decoder Role := Json.asCase roleNames

def levelName : Level → String
  | .region => "region"
  | .province => "province"
  | .municipality => "municipality"
  | .district => "district"
  | .sectionList => "section_list"

def ofLevel (l : Level) : Json := string (levelName l)

def levelNames : List (String × Level) :=
  [.region, .province, .municipality, .district, .sectionList].map fun l => (levelName l, l)

def asLevel : Decoder Level := Json.asCase levelNames

/-- A level in a value that was kept for later. -/
def asKeptLevel : Decoder Level := Json.asKeptCase levelNames

def ofScope (s : Scope) : Json :=
  ofMembers [("region", ofOption .integer s.region), ("province", ofOption .integer s.province),
    ("municipality", ofOption .integer s.municipality), ("district", ofOption ofNat s.district)]

def scopeChecks : List RecordField.Check :=
  [(RecordField.optional "region" asId).check, (RecordField.optional "province" asId).check,
    (RecordField.optional "municipality" asId).check,
    (RecordField.optional "district" asNumber).check]

def scopeOfMembers (m : Json.Members) : Except Flaw Scope := do
  return {
    region := ← m.get (RecordField.optional "region" asId)
    province := ← m.get (RecordField.optional "province" asId)
    municipality := ← m.get (RecordField.optional "municipality" asId)
    district := ← m.get (RecordField.optional "district" asNumber) }

def asScope : Decoder Scope := fun j => do
  scopeOfMembers (← j.record scopeChecks)

/-! ## Reference data -/

def ofRegion (r : Region) : Json := ofMembers [("id", .integer r.id), ("name", string r.name)]

def asRegion : Decoder Region := fun j => do
  let id := RecordField.required "id" asId
  let name := RecordField.required "name" asString
  let m ← j.record [id.check, name.check]
  return { id := ← m.get id, name := ← m.get name }

def ofProvince (p : Province) : Json :=
  ofMembers [("id", .integer p.id), ("region_id", .integer p.regionId), ("name", string p.name),
    ("code", string p.code)]

def asProvince : Decoder Province := fun j => do
  let id := RecordField.required "id" asId
  let regionId := RecordField.required "region_id" asId
  let name := RecordField.required "name" asString
  let code := RecordField.withDefault "code" asString ""
  let m ← j.record [id.check, regionId.check, name.check, code.check]
  return {
    id := ← m.get id, regionId := ← m.get regionId, name := ← m.get name, code := ← m.get code }

def ofMunicipality (x : Municipality) : Json :=
  ofMembers [("id", .integer x.id), ("province_id", .integer x.provinceId),
    ("name", string x.name), ("is_districted", .bool x.isDistricted)]

def asMunicipality : Decoder Municipality := fun j => do
  let id := RecordField.required "id" asId
  let provinceId := RecordField.required "province_id" asId
  let name := RecordField.required "name" asString
  let isDistricted := RecordField.withDefault "is_districted" asBool false
  let m ← j.record [id.check, provinceId.check, name.check, isDistricted.check]
  return {
    id := ← m.get id, provinceId := ← m.get provinceId, name := ← m.get name
    isDistricted := ← m.get isDistricted }

def ofDistrict (d : District) : Json :=
  ofMembers [("municipality_id", .integer d.municipalityId), ("number", ofNat d.number),
    ("name", string d.name)]

def asDistrict : Decoder District := fun j => do
  let municipalityId := RecordField.required "municipality_id" asId
  let number := RecordField.required "number" asNumber
  let name := RecordField.required "name" asString
  let m ← j.record [municipalityId.check, number.check, name.check]
  return {
    municipalityId := ← m.get municipalityId, number := ← m.get number, name := ← m.get name }

def ofSection (s : PollingSection) : Json :=
  ofMembers [("id", .integer s.id), ("number", ofNat s.number),
    ("building_name", string s.buildingName), ("address", string s.address),
    ("municipality_id", .integer s.municipalityId), ("district", ofOption ofNat s.district),
    ("is_active", .bool s.isActive), ("elector_count", ofNat s.electorCount)]

/-- A section is active unless the record says otherwise. -/
def asSection : Decoder PollingSection := fun j => do
  let id := RecordField.required "id" asId
  let number := RecordField.required "number" asNumber
  let buildingName := RecordField.required "building_name" asString
  let address := RecordField.required "address" asString
  let municipalityId := RecordField.required "municipality_id" asId
  let district := RecordField.optional "district" asNumber
  let isActive := RecordField.withDefault "is_active" asBool true
  let electorCount := RecordField.withDefault "elector_count" asNumber 0
  let m ← j.record [id.check, number.check, buildingName.check, address.check,
    municipalityId.check, district.check, isActive.check, electorCount.check]
  return {
    id := ← m.get id, number := ← m.get number, buildingName := ← m.get buildingName
    address := ← m.get address, municipalityId := ← m.get municipalityId
    district := ← m.get district, isActive := ← m.get isActive
    electorCount := ← m.get electorCount }

def ofRepresentative (r : Representative) : Json :=
  ofMembers [("id", .integer r.id), ("full_name", string r.fullName), ("email", string r.email),
    ("phone", ofOption string r.phone), ("municipality_id", .integer r.municipalityId),
    ("district", ofOption ofNat r.district), ("preference", string r.preference),
    ("notes", ofOption string r.notes)]

def asRepresentative : Decoder Representative := fun j => do
  let id := RecordField.required "id" asId
  let fullName := RecordField.required "full_name" asString
  let email := RecordField.required "email" asString
  let phone := RecordField.optional "phone" asString
  let municipalityId := RecordField.required "municipality_id" asId
  let district := RecordField.optional "district" asNumber
  let preference := RecordField.withDefault "preference" asString ""
  let notes := RecordField.optional "notes" asString
  let m ← j.record [id.check, fullName.check, email.check, phone.check, municipalityId.check,
    district.check, preference.check, notes.check]
  return {
    id := ← m.get id, fullName := ← m.get fullName, email := ← m.get email
    phone := ← m.get phone, municipalityId := ← m.get municipalityId
    district := ← m.get district, preference := ← m.get preference, notes := ← m.get notes }

def ofAssignment (a : Assignment) : Json :=
  ofMembers [("id", .integer a.id), ("section_id", .integer a.sectionId),
    ("representative_id", .integer a.representativeId), ("role", ofRole a.role)]

def asAssignment : Decoder Assignment := fun j => do
  let id := RecordField.required "id" asId
  let sectionId := RecordField.required "section_id" asId
  let representativeId := RecordField.required "representative_id" asId
  let role := RecordField.required "role" asRole
  let m ← j.record [id.check, sectionId.check, representativeId.check, role.check]
  return {
    id := ← m.get id, sectionId := ← m.get sectionId
    representativeId := ← m.get representativeId, role := ← m.get role }

def territoryMembers (d : TerritoryData) : List (String × Json) :=
  [("regions", ofList ofRegion d.regions), ("provinces", ofList ofProvince d.provinces),
    ("municipalities", ofList ofMunicipality d.municipalities),
    ("districts", ofList ofDistrict d.districts), ("sections", ofList ofSection d.sections)]

def ofTerritoryData (d : TerritoryData) : Json := ofMembers (territoryMembers d)

/-- The fields of territorial data; a missing list is empty. -/
def territoryChecks : List RecordField.Check :=
  [(RecordField.withDefault "regions" (asList asRegion) []).check,
    (RecordField.withDefault "provinces" (asList asProvince) []).check,
    (RecordField.withDefault "municipalities" (asList asMunicipality) []).check,
    (RecordField.withDefault "districts" (asList asDistrict) []).check,
    (RecordField.withDefault "sections" (asList asSection) []).check]

def territoryOfMembers (m : Json.Members) : Except Flaw TerritoryData := do
  return {
    regions := ← m.get (RecordField.withDefault "regions" (asList asRegion) [])
    provinces := ← m.get (RecordField.withDefault "provinces" (asList asProvince) [])
    municipalities := ← m.get (RecordField.withDefault "municipalities" (asList asMunicipality) [])
    districts := ← m.get (RecordField.withDefault "districts" (asList asDistrict) [])
    sections := ← m.get (RecordField.withDefault "sections" (asList asSection) []) }

def asTerritoryData : Decoder TerritoryData := fun j => do
  territoryOfMembers (← j.record territoryChecks)

end PollRoster.Wire
