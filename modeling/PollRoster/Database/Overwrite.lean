import PollRoster.Database.ColumnValue
import PollRoster.Database.Seeding

/-!
# Overwriting columns

Changes made to columns of stored rows without a look at what the values mean, as somebody with a
database editor could make them. What they leave may no longer decode. Two rules of the tables hold
all the same: a column that needs a value keeps one, and keys stay unique. A change that breaks one
of them is refused as a whole.
-/

namespace PollRoster

inductive Column where
  | sectionDistrict
  | sectionNumber
  | sectionElectors
  | districtNumber
  | representativeDistrict
  | assignmentRole
  deriving DecidableEq, Repr

/-- A new value for a column of the rows with the given key. Districts are found by their
municipality, all other rows by their identifier. -/
structure Overwrite where
  column : Column
  key : Int
  value : ColumnValue
  deriving DecidableEq, Repr

/-- The rows with `change` made to those that satisfy `p`, and the number of these. -/
def changeWhere (p : α → Bool) (change : α → α) (rows : List α) : List α × Nat :=
  (rows.map fun row => if p row then change row else row, rows.countP p)

namespace Database

/-- The refusal of a row without a value in a column that needs one. -/
def missingValue (column : String) : StorageError :=
  .database s!"NOT NULL constraint failed: {column}"

def unwritableValue : StorageError := .query "a text contains the character NUL"

/-- Sets a column that needs a value. No value is refused when there is a row that would lose its
own. -/
def setWhere (column : String) (p : α → Bool) (set : α → β → α) (value : Option β)
    (rows : List α) : Except StorageError (List α × Nat) :=
  match value with
  | some value => .ok (changeWhere p (set · value) rows)
  | none => if rows.any p then .error (missingValue column) else .ok (rows, 0)

/-- The database after the change, with the number of rows changed. -/
def overwrite (db : Database) (o : Overwrite) : Except StorageError (Database × Nat) := do
  require o.value.isWritable unwritableValue
  match o.column with
  | .sectionDistrict =>
    let (rows, n) := changeWhere (·.id = o.key)
      (fun r => { r with district := o.value.number? }) db.sectionRows
    return ({ db with sectionRows := rows }, n)
  | .sectionNumber =>
    let (rows, n) ← setWhere "sections.number" (·.id = o.key)
      (fun r number => { r with number := number }) o.value.number? db.sectionRows
    return ({ db with sectionRows := rows }, n)
  | .sectionElectors =>
    let (rows, n) ← setWhere "sections.elector_count" (·.id = o.key)
      (fun r count => { r with electorCount := count }) o.value.number? db.sectionRows
    return ({ db with sectionRows := rows }, n)
  | .districtNumber =>
    let (rows, n) ← setWhere "districts.number" (·.municipalityId = o.key)
      (fun r number => { r with number := number }) o.value.number? db.districtRows
    require (decide (rows.map fun r => (r.municipalityId, r.number)).Nodup)
      (repeatedKey "districts.municipality_id, districts.number")
    return ({ db with districtRows := rows }, n)
  | .representativeDistrict =>
    let (rows, n) := changeWhere (·.id = o.key)
      (fun r => { r with district := o.value.number? }) db.representativeRows
    return ({ db with representativeRows := rows }, n)
  | .assignmentRole =>
    let (rows, n) ← setWhere "assignments.role" (·.id = o.key)
      (fun r role => { r with role := role }) o.value.text? db.assignmentRows
    require (decide (rows.map fun r => (r.sectionId, r.role)).Nodup)
      (repeatedKey "assignments.section_id, assignments.role")
    return ({ db with assignmentRows := rows }, n)

end Database

end PollRoster
