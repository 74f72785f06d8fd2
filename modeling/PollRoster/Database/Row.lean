import PollRoster.Bounds
import PollRoster.Database.Error
import PollRoster.Records
import PollRoster.Validation

/-!
# Rows

Records as they are stored. A number column holds a signed number of 32 bits, and the role of an
assignment is stored as its code. Writing refuses the numbers that do not fit; reading refuses the
values that no record can have.
-/

namespace PollRoster

/-- The greatest value of a number column. -/
def columnLimit : Nat := 2147483647

def writeNumber (column : String) (value : Nat) : Except StorageError Int :=
  if value ≤ columnLimit then .ok value
  else .error (.invalidReferenceData s!"{column} out of range: {value}")

/-- A number from the lowest 32 bits of what a column stores. What takes more than 64 bits is read
as the nearest number that does not. -/
def readNumber (column : String) (stored : Int) : Except StorageError Nat :=
  let value := (max minId (min maxId stored)).bmod 4294967296
  if 0 ≤ value then .ok value.toNat
  else .error (.invalidData s!"{column} must not be negative, got {value}")

def writeNumber? (column : String) : Option Nat → Except StorageError (Option Int)
  | none => .ok none
  | some value => (writeNumber column value).map some

def readNumber? (column : String) : Option Int → Except StorageError (Option Nat)
  | none => .ok none
  | some stored => (readNumber column stored).map some

/-- The refusal of a row whose number is not positive. -/
def notPositive : StorageError := .database "CHECK constraint failed: number > 0"

/-! ## Districts -/

structure DistrictRow where
  municipalityId : Int
  number : Int
  name : String
  deriving DecidableEq, Repr

namespace DistrictRow

def ofDistrict (d : District) : Except StorageError DistrictRow := do
  let number ← writeNumber "districts.number" d.number
  require (0 < number) notPositive
  return ⟨d.municipalityId, number, d.name⟩

def toDistrict (row : DistrictRow) : Except StorageError District := do
  let number ← readNumber "districts.number" row.number
  return ⟨row.municipalityId, number, row.name⟩

end DistrictRow

/-! ## Sections -/

structure PollingSectionRow where
  id : Int
  number : Int
  buildingName : String
  address : String
  municipalityId : Int
  district : Option Int
  isActive : Bool
  electorCount : Int
  deriving DecidableEq, Repr

namespace PollingSectionRow

def ofSection (s : PollingSection) : Except StorageError PollingSectionRow := do
  let district ← writeNumber? "sections.district" s.district
  let number ← writeNumber "sections.number" s.number
  let electorCount ← writeNumber "sections.elector_count" s.electorCount
  require (0 < number) notPositive
  return {
    id := s.id, number := number, buildingName := s.buildingName, address := s.address
    municipalityId := s.municipalityId, district := district, isActive := s.isActive
    electorCount := electorCount }

def toSection (row : PollingSectionRow) : Except StorageError PollingSection := do
  let number ← readNumber "sections.number" row.number
  let district ← readNumber? "sections.district" row.district
  let electorCount ← readNumber "sections.elector_count" row.electorCount
  return {
    id := row.id, number := number, buildingName := row.buildingName, address := row.address
    municipalityId := row.municipalityId, district := district, isActive := row.isActive
    electorCount := electorCount }

end PollingSectionRow

/-! ## Representatives -/

structure RepresentativeRow where
  id : Int
  fullName : String
  email : String
  phone : Option String
  municipalityId : Int
  district : Option Int
  preference : String
  notes : Option String
  deriving DecidableEq, Repr

namespace RepresentativeRow

def ofRepresentative (r : Representative) : Except StorageError RepresentativeRow := do
  let district ← writeNumber? "representatives.district" r.district
  return {
    id := r.id, fullName := r.fullName, email := r.email, phone := r.phone
    municipalityId := r.municipalityId, district := district, preference := r.preference
    notes := r.notes }

def toRepresentative (row : RepresentativeRow) : Except StorageError Representative := do
  let district ← readNumber? "representatives.district" row.district
  return {
    id := row.id, fullName := row.fullName, email := row.email, phone := row.phone
    municipalityId := row.municipalityId, district := district, preference := row.preference
    notes := row.notes }

end RepresentativeRow

/-! ## Assignments -/

structure AssignmentRow where
  id : Int
  sectionId : Int
  representativeId : Int
  role : String
  deriving DecidableEq, Repr

namespace AssignmentRow

/-- Whether the row takes the slot. The code is compared as it is stored, so a row with another name
of the role takes no slot. -/
def takes (row : AssignmentRow) (sectionId : Int) (role : Role) : Bool :=
  row.sectionId = sectionId && row.role = role.code

/-- The assignment of a row; the role may be written under any of its names. -/
def toAssignment (row : AssignmentRow) : Except StorageError Assignment :=
  match Role.ofText row.role with
  | .ok role => .ok ⟨row.id, row.sectionId, row.representativeId, role⟩
  | .error e => .error (.invalidData e.message)

end AssignmentRow

end PollRoster
