import PollRoster.Database
import PollRoster.ReferenceData

/-!
# Loading reference data

Reference data is loaded once, all of it or nothing. The data is checked as a whole first; then its
records are stored one by one under the rules of the tables, and the first that breaks one decides.
-/

namespace PollRoster.Database

def repeatedKey (columns : String) : StorageError :=
  .database s!"UNIQUE constraint failed: {columns}"

def insertRegion (db : Database) (r : Region) : Except StorageError Database := do
  require (!db.regions.any (·.id = r.id)) (repeatedKey "regions.region_id")
  return { db with regions := insertBy (compareOn Region.id) r db.regions }

def insertProvince (db : Database) (p : Province) : Except StorageError Database := do
  require (!db.provinces.any (·.id = p.id)) (repeatedKey "provinces.province_id")
  require (db.regions.any (·.id = p.regionId)) missingParent
  return { db with provinces := insertBy (compareOn Province.id) p db.provinces }

def insertMunicipality (db : Database) (m : Municipality) : Except StorageError Database := do
  require (!db.municipalities.any (·.id = m.id)) (repeatedKey "municipalities.municipality_id")
  require (db.provinces.any (·.id = m.provinceId)) missingParent
  return { db with municipalities := insertBy (compareOn Municipality.id) m db.municipalities }

def municipalityExists (db : Database) (id : Int) : Bool := db.municipalities.any (·.id = id)

def insertDistrict (db : Database) (d : District) : Except StorageError Database := do
  let row ← DistrictRow.ofDistrict d
  require (!db.districtRows.any fun x => x.municipalityId = row.municipalityId &&
      x.number = row.number)
    (repeatedKey "districts.municipality_id, districts.number")
  require (db.municipalityExists row.municipalityId) missingParent
  return { db with districtRows := db.districtRows ++ [row] }

def insertSection (db : Database) (s : PollingSection) : Except StorageError Database := do
  let row ← PollingSectionRow.ofSection s
  require (!db.sectionExists row.id) (repeatedKey "sections.section_id")
  require (db.municipalityExists row.municipalityId) missingParent
  return { db with sectionRows := insertBy (compareOn PollingSectionRow.id) row db.sectionRows }

def insertRepresentative (db : Database) (r : Representative) : Except StorageError Database := do
  let row ← RepresentativeRow.ofRepresentative r
  require (!db.representativeRows.any (·.id = row.id))
    (repeatedKey "representatives.representative_id")
  require (db.municipalityExists row.municipalityId) missingParent
  return { db with
    representativeRows := insertBy (compareOn RepresentativeRow.id) row db.representativeRows }

/-- The database with all records of the data added, parents first. -/
def insertAll (db : Database) (d : ReferenceData) : Except StorageError Database := do
  let db ← d.territory.regions.foldlM insertRegion db
  let db ← d.territory.provinces.foldlM insertProvince db
  let db ← d.territory.municipalities.foldlM insertMunicipality db
  let db ← d.territory.districts.foldlM insertDistrict db
  let db ← d.territory.sections.foldlM insertSection db
  d.representatives.foldlM insertRepresentative db

/-- The database with sound reference data in it, unless it has some already. -/
def seeded (db : Database) (d : ReferenceData) : Except StorageError Database := do
  match d.validate with
  | .error reason => throw (.invalidReferenceData reason)
  -- data that is not sound is refused as such, even when there is some already
  | .ok () =>
    require (!db.isSeeded) .alreadySeeded
    db.insertAll d

def seed (d : ReferenceData) : Step Unit := Action.transaction fun db => db.seeded d

end PollRoster.Database
