import PollRoster.Order
import PollRoster.Positions
import PollRoster.Records
import PollRoster.Scope

/-!
# The territory

Regions hold provinces, provinces hold municipalities, and these hold sections, some of them through
districts. A `Territory` keeps its records in display order: by name, districts and sections by
number within their municipality.

* `Territory.region?` and its kin look a record up by its identifier, through an index of positions.
  Of several records with one identifier the last in display order counts.
* `Territory.placeInScope` decides whether a declared place lies in a scope.
* `Territory.resolve` fills in the ancestors that the components of a scope imply.
-/

namespace PollRoster

/-- The records of a territory in the order in which they were given. -/
structure TerritoryData where
  regions : List Region
  provinces : List Province
  municipalities : List Municipality
  districts : List District
  sections : List PollingSection
  deriving DecidableEq, Repr

/-- The records of a territory in display order. -/
structure Territory where
  data : TerritoryData
  deriving DecidableEq, Repr

namespace Territory

/-! ## Display order -/

def compareDistricts : District → District → Ordering :=
  compareLex (compareOn District.municipalityId) (compareOn District.number)

def compareSections : PollingSection → PollingSection → Ordering :=
  compareLex (compareOn PollingSection.municipalityId)
    (compareLex (compareOn PollingSection.number) (compareOn PollingSection.buildingName))

/-- Sorts the records for display. Nothing is checked. -/
def ofData (data : TerritoryData) : Territory where
  data :=
    { regions := sortBy (compareOn Region.name) data.regions
      provinces := sortBy (compareOn Province.name) data.provinces
      municipalities := sortBy (compareOn Municipality.name) data.municipalities
      districts := sortBy compareDistricts data.districts
      sections := sortBy compareSections data.sections }

def regions (t : Territory) : List Region := t.data.regions
def provinces (t : Territory) : List Province := t.data.provinces
def municipalities (t : Territory) : List Municipality := t.data.municipalities
def districts (t : Territory) : List District := t.data.districts
def sections (t : Territory) : List PollingSection := t.data.sections

/-! ## Looking records up -/

def regionIndex (t : Territory) : Positions := .ofList Region.id t.regions
def provinceIndex (t : Territory) : Positions := .ofList Province.id t.provinces
def municipalityIndex (t : Territory) : Positions := .ofList Municipality.id t.municipalities
def sectionIndex (t : Territory) : Positions := .ofList PollingSection.id t.sections

def region? (t : Territory) (id : Int) : Option Region := do
  t.regions[← t.regionIndex.get? id]?

def province? (t : Territory) (id : Int) : Option Province := do
  t.provinces[← t.provinceIndex.get? id]?

def municipality? (t : Territory) (id : Int) : Option Municipality := do
  t.municipalities[← t.municipalityIndex.get? id]?

def section? (t : Territory) (id : Int) : Option PollingSection := do
  t.sections[← t.sectionIndex.get? id]?

/-- The first district of a municipality with the given number. -/
def district? (t : Territory) (municipalityId : Int) (number : Nat) : Option District :=
  t.districts.find? fun d => d.municipalityId = municipalityId && d.number = number

def provincesOf (t : Territory) (regionId : Int) : List Province :=
  t.provinces.filter (·.regionId = regionId)

def municipalitiesOf (t : Territory) (provinceId : Int) : List Municipality :=
  t.municipalities.filter (·.provinceId = provinceId)

def districtsOf (t : Territory) (municipalityId : Int) : List District :=
  t.districts.filter (·.municipalityId = municipalityId)

/-- The region and the province that hold a municipality. -/
def ancestry? (t : Territory) (municipalityId : Int) : Option (Int × Int) := do
  let municipality ← t.municipality? municipalityId
  let province ← t.province? municipality.provinceId
  return (province.regionId, province.id)

/-! ## Places and scopes -/

/-- Whether a place, a municipality and perhaps a district of it, lies in a scope. Components above
a municipality are not looked at when the scope names one. -/
def placeInScope (t : Territory) (municipalityId : Int) (district : Option Nat) (scope : Scope) :
    Bool :=
  match scope.municipality with
  | some wanted =>
    wanted = municipalityId && (scope.district.isNone || scope.district == district)
  | none =>
    match t.ancestry? municipalityId with
    | none => false
    | some (regionId, provinceId) =>
      Scope.covers scope.region (some regionId) && Scope.covers scope.province (some provinceId)

/-- The sections of a scope in display order. -/
def sectionsIn (t : Territory) (scope : Scope) : List PollingSection :=
  t.sections.filter fun s => t.placeInScope s.municipalityId s.district scope

/-- The province of the municipality that a scope names, once it is known that the province given
beside it is the same and that the district given with it exists. -/
def resolveMunicipality (t : Territory) (scope : Scope) : Except RuleError (Option Int) :=
  match scope.municipality with
  | none =>
    if scope.district.isSome then
      .error (.inconsistentScope "a district requires a municipality")
    else .ok scope.province
  | some id =>
    match t.municipality? id with
    | none => .error (.nodeNotFound "Municipality" id)
    | some municipality =>
      if !Scope.covers scope.province (some municipality.provinceId) then
        .error (.inconsistentScope s!"municipality {id} does not belong to the given province")
      else
        match scope.district with
        | none => .ok (some municipality.provinceId)
        | some number =>
          -- districts recorded below an undivided municipality do not count
          if municipality.isDistricted && (t.district? id number).isSome then
            .ok (some municipality.provinceId)
          else .error (.invalidDistrict id number)

/-- The region of a province, once it is known that the region given beside it is the same. -/
def resolveProvince (t : Territory) (given : Option Int) : Option Int →
    Except RuleError (Option Int)
  | none => .ok given
  | some id =>
    match t.province? id with
    | none => .error (.nodeNotFound "Province" id)
    | some province =>
      if !Scope.covers given (some province.regionId) then
        .error (.inconsistentScope s!"province {id} does not belong to the given region")
      else .ok (some province.regionId)

/-- The scope with the ancestors that its components imply. Every component has to exist and to
belong to the component above it. -/
def resolve (t : Territory) (scope : Scope) : Except RuleError Scope := do
  -- from the bottom: each level is checked against what the one below implies
  let province ← t.resolveMunicipality scope
  let region ← t.resolveProvince scope.region province
  match region with
  | some id => if (t.region? id).isNone then throw (.nodeNotFound "Region" id)
  | none => pure ()
  return { scope with region := region, province := province }

end Territory

end PollRoster
