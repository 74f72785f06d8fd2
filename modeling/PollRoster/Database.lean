import PollRoster.Action
import PollRoster.Database.Row
import PollRoster.Territory

/-!
# The database

Tables that keep the reference data and the assignments, with the rules of a relational store: keys
are unique, and a row may name only rows that are stored. Rows with an identifier are kept in
ascending order, districts in the order in which they came. A row is decoded when it is read, and a
read fails when one of its rows does not decode.
-/

namespace PollRoster

structure Database where
  regions : List Region
  provinces : List Province
  municipalities : List Municipality
  districtRows : List DistrictRow
  sectionRows : List PollingSectionRow
  representativeRows : List RepresentativeRow
  assignmentRows : List AssignmentRow
  nextId : Int
  deriving DecidableEq, Repr

namespace Database

def empty : Database := ⟨[], [], [], [], [], [], [], 1⟩

/-! ## Reading -/

/-- Whether reference data was loaded. -/
def isSeeded (db : Database) : Bool := !db.regions.isEmpty

def territoryData (db : Database) : Except StorageError TerritoryData := do
  let districts ← db.districtRows.mapM DistrictRow.toDistrict
  let sections ← db.sectionRows.mapM PollingSectionRow.toSection
  return ⟨db.regions, db.provinces, db.municipalities, districts, sections⟩

/-- Whether a section is stored. Its row is not decoded. -/
def sectionExists (db : Database) (id : Int) : Bool := db.sectionRows.any (·.id = id)

def representatives (db : Database) : Except StorageError (List Representative) :=
  db.representativeRows.mapM RepresentativeRow.toRepresentative

/-- Decodes the row that was found, if there is one. -/
def decodeFound (decode : ρ → Except StorageError α) : Option ρ → Except StorageError (Option α)
  | none => .ok none
  | some row => (decode row).map some

def representative? (db : Database) (id : Int) : Except StorageError (Option Representative) :=
  decodeFound RepresentativeRow.toRepresentative (db.representativeRows.find? (·.id = id))

def assignments (db : Database) : Except StorageError (List Assignment) :=
  db.assignmentRows.mapM AssignmentRow.toAssignment

def assignmentsOf (db : Database) (representativeId : Int) :
    Except StorageError (List Assignment) :=
  (db.assignmentRows.filter (·.representativeId = representativeId)).mapM
    AssignmentRow.toAssignment

def assignment? (db : Database) (id : Int) : Except StorageError (Option Assignment) :=
  decodeFound AssignmentRow.toAssignment (db.assignmentRows.find? (·.id = id))

def findSlot (db : Database) (sectionId : Int) (role : Role) :
    Except StorageError (Option Assignment) :=
  decodeFound AssignmentRow.toAssignment (db.assignmentRows.find? (·.takes sectionId role))

/-! ## Writing assignments -/

/-- What happens to the database: it answers or refuses, and stays as it is left. -/
abbrev Step (α : Type) := Action Database StorageError α

/-- The refusal of a row that names a row which is not stored. -/
def missingParent : StorageError := .foreignKey "FOREIGN KEY constraint failed"

/-- Adds an assignment under the next identifier. A taken slot is refused before a missing section
or representative; identifiers are used up by stored rows only. -/
def insert (sectionId representativeId : Int) (role : Role) : Step Assignment := fun db =>
  if db.assignmentRows.any (·.takes sectionId role) then
    (.error (.slotOccupied sectionId role), db)
  else if db.sectionExists sectionId && db.representativeRows.any (·.id = representativeId) then
    let row : AssignmentRow := ⟨db.nextId, sectionId, representativeId, role.code⟩
    (.ok ⟨db.nextId, sectionId, representativeId, role⟩,
      { db with assignmentRows := db.assignmentRows ++ [row], nextId := db.nextId + 1 })
  else (.error missingParent, db)

/-- Takes an assignment away and answers it. A row that does not decode stays. -/
def delete (id : Int) : Step Assignment := fun db =>
  match db.assignment? id with
  | .error e => (.error e, db)
  | .ok none => (.error (.notFound "Assignment" id), db)
  | .ok (some a) =>
    (.ok a, { db with assignmentRows := db.assignmentRows.filter (·.id ≠ id) })

end Database

end PollRoster
