import PollRoster.Database
import PollRoster.Repository

/-!
# The database as a repository

Failures of the database become failures of operations. A slot that is refused as taken is looked up
again, so that the failure names its occupant.
-/

namespace PollRoster.Database

/-- The failure of a call that the database could not answer. -/
def repositoryError : StorageError → OperationError
  | .notFound resource id => .notFound resource id
  | e => .repository e.message

/-- The reason given when a slot is refused as taken and found empty. -/
def lostOccupant (sectionId : Int) (role : Role) : String :=
  let code := role.code
  s!"slot {code} of section {sectionId} was reported occupied but is empty"

def insertionError (db : Database) : StorageError → OperationError
  | .slotOccupied sectionId role =>
    -- a look-up of its own, so the failure of it is told too
    match db.findSlot sectionId role with
    | .ok (some occupant) => .slotOccupied sectionId role occupant.representativeId
    | .ok none => .repository (lostOccupant sectionId role)
    | .error e => .repository e.message
  | e => repositoryError e

/-- An answer read from the database, which stays as it is. -/
def reading (db : Database) (x : Except StorageError α) : Except OperationError α × Database :=
  (x.mapError repositoryError, db)

/-- Answers a call; only `insert` and `delete` change the database. -/
def answer : (c : RepositoryCall) → Database → Except OperationError c.Answer × Database
  | .territory, db => reading db (db.territoryData.map Territory.ofData)
  | .sectionExists sectionId, db => (.ok (db.sectionExists sectionId), db)
  | .representatives, db => reading db db.representatives
  | .representative id, db => reading db (db.representative? id)
  | .assignments, db => reading db db.assignments
  | .assignment id, db => reading db (db.assignment? id)
  | .findSlot sectionId role, db => reading db (db.findSlot sectionId role)
  | .insert sectionId representativeId role, db =>
    match insert sectionId representativeId role db with
    | (.ok a, db) => (.ok a, db)
    | (.error e, db) => (.error (db.insertionError e), db)
  | .delete id, db => Action.mapError repositoryError (delete id) db

instance : Repository Database := ⟨answer⟩

end PollRoster.Database
