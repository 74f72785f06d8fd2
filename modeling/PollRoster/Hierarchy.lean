import PollRoster.Snapshot
import PollRoster.View

/-!
# The hierarchy of a territory

`Snapshot.view` answers what there is below a scope: regions, provinces, municipalities or districts
with their counters, and at the bottom the sections with their occupants.
-/

namespace PollRoster

namespace Territory

/-- A child of a scope before its counters are known. -/
structure Child where
  scope : Scope
  id : Int
  name : String

/-- What lies below a resolved scope: the children of the next level, or the sections. A districted
municipality lists its districts if it has any. -/
def below (t : Territory) (scope : Scope) : Level × List Child :=
  -- a resolved scope has all components above its deepest one
  match scope.region, scope.province, scope.municipality with
  | none, _, _ => (.region, t.regions.map fun r => ⟨.ofRegion r.id, r.id, r.name⟩)
  | some regionId, none, _ =>
    (.province,
      (t.provincesOf regionId).map fun p => ⟨{ scope with province := some p.id }, p.id, p.name⟩)
  | some _, some provinceId, none =>
    (.municipality,
      (t.municipalitiesOf provinceId).map fun m =>
        ⟨{ scope with municipality := some m.id }, m.id, m.name⟩)
  | some _, some _, some municipalityId =>
    let districts := t.districtsOf municipalityId
    if (t.municipality? municipalityId).any (·.isDistricted) && !districts.isEmpty
        && scope.district.isNone then
      (.district, districts.map fun d => ⟨scope.withDistrict d.number, d.number, d.name⟩)
    else (.sectionList, [])

def rootLabel : String := "Italia"

/-- The path from the root to a scope. Components whose record is missing are passed over. -/
def breadcrumbs (t : Territory) (scope : Scope) : List Breadcrumb :=
  let region := scope.region.bind t.region?
  let province := scope.province.bind t.province?
  let municipality := scope.municipality.bind t.municipality?
  let district := municipality.bind fun m => scope.district.bind (t.district? m.id)
  let toRegion : Scope := { Scope.root with region := region.map (·.id) }
  let toProvince : Scope := { toRegion with province := province.map (·.id) }
  let toMunicipality : Scope := { toProvince with municipality := municipality.map (·.id) }
  let toDistrict : Scope := { toMunicipality with district := district.map (·.number) }
  ⟨Scope.root, rootLabel⟩ ::
    (region.toList.map (⟨toRegion, ·.name⟩) ++ province.toList.map (⟨toProvince, ·.name⟩) ++
      municipality.toList.map (⟨toMunicipality, ·.name⟩) ++
      district.toList.map (⟨toDistrict, ·.name⟩))

end Territory

namespace Snapshot

/-- The children of a scope with their counters, kept ones where there are any. -/
def listNodes (s : Snapshot) (level : Level) :
    List Territory.Child → CounterCache → List Node × CounterCache
  | [], cache => ([], cache)
  | child :: rest, cache =>
    let (counters, cache) := cache.fetch child.scope s.count
    let (nodes, cache) := s.listNodes level rest cache
    (⟨level, child.scope, child.id, child.name, counters⟩ :: nodes, cache)

def slotView (s : Snapshot) (detector : ConflictDetector) (a : Assignment) : SlotView where
  assignmentId := a.id
  representativeId := a.representativeId
  representativeName := ((s.representative? a.representativeId).map (·.fullName)).getD ""
  flags := detector.flagsFor a

def sectionRow (s : Snapshot) (detector : ConflictDetector) (x : PollingSection) : SectionRow :=
  let slots := detector.slots.slots x.id
  ⟨x, slots.primary.map (s.slotView detector), slots.alternate.map (s.slotView detector)⟩

def buildingView (s : Snapshot) (detector : ConflictDetector) (b : PollingBuilding) :
    BuildingView :=
  -- a building knows its sections by identifier only
  let sections := b.sectionIds.filterMap s.territory.section?
  let rows := sections.map (s.sectionRow detector)
  { building := b
    rows := rows
    warnings := countWarnings sections detector.slots
    primaryFilled := (rows.filter (·.primary.isSome)).length
    alternateFilled := (rows.filter (·.alternate.isSome)).length }

/-- The active sections of a scope by building. -/
def listSections (s : Snapshot) (scope : Scope) : List BuildingView :=
  let detector : ConflictDetector := ⟨s.territory, s.slots, s.representatives⟩
  (PollingBuilding.group (s.activeSections scope)).map (s.buildingView detector)

/-- What there is below a resolved scope. -/
def content (s : Snapshot) (scope : Scope) (cache : CounterCache) :
    Level × Content × CounterCache :=
  match s.territory.below scope with
  | (.sectionList, _) => (.sectionList, .sections (s.listSections scope), cache)
  | (level, children) =>
    let (nodes, cache) := s.listNodes level children cache
    (level, .nodes nodes, cache)

/-- The view of a scope, with counters from the cache where it has them, and the cache with the
counters that were counted for it. -/
def view (s : Snapshot) (scope : Scope) (cache : CounterCache) :
    Except OperationError View × CounterCache :=
  match s.territory.resolve scope with
  | .error e => (.error (.ofScope e), cache)
  | .ok resolved =>
    let (level, content, cache) := s.content resolved cache
    -- the children come first, so their counters are kept even before those of the scope
    let (summary, cache) := cache.fetch resolved s.count
    let view : View :=
      { scope := resolved
        level := level
        content := content
        summary := summary
        breadcrumbs := s.territory.breadcrumbs resolved
        autoSkip := level ≠ .sectionList && content.size = 1 }
    (.ok view, cache)

end Snapshot

end PollRoster
