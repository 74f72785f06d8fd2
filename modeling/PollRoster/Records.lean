import PollRoster.Role
import PollRoster.Text.Infix

/-!
# Records

The reference data that an election office keeps, and the assignments made from it. Identifiers are
integers; section and district numbers and counts of electors are natural numbers.
-/

namespace PollRoster

structure Region where
  id : Int
  name : String
  deriving DecidableEq, Repr

structure Province where
  id : Int
  regionId : Int
  name : String
  /-- The two-letter vehicle code. -/
  code : String
  deriving DecidableEq, Repr

structure Municipality where
  id : Int
  provinceId : Int
  name : String
  isDistricted : Bool
  deriving DecidableEq, Repr

/-- A district, known by its number within its municipality. -/
structure District where
  municipalityId : Int
  number : Nat
  name : String
  deriving DecidableEq, Repr

/-- A voting section. Its number tells it apart within its building only. -/
structure PollingSection where
  id : Int
  number : Nat
  buildingName : String
  address : String
  municipalityId : Int
  district : Option Nat
  /-- Whether the section is open in the current consultation. -/
  isActive : Bool
  electorCount : Nat
  deriving DecidableEq, Repr

/-- A person who can be assigned to sections. -/
structure Representative where
  id : Int
  fullName : String
  email : String
  phone : Option String
  /-- The municipality where the person declared to serve. -/
  municipalityId : Int
  /-- The district where the person declared to serve. -/
  district : Option Nat
  /-- The sections that the person asks for, in words. -/
  preference : String
  notes : Option String
  deriving DecidableEq, Repr

/-- A representative who holds one slot of a section. -/
structure Assignment where
  id : Int
  sectionId : Int
  representativeId : Int
  role : Role
  deriving DecidableEq, Repr

namespace Representative

/-- The number of assignments that the representative holds, in any role. -/
def sectionsHeld (r : Representative) (assignments : List Assignment) : Nat :=
  (assignments.filter (·.representativeId = r.id)).length

/-- Whether name or email contains `needle`, without regard to letter case. -/
def matchesText (r : Representative) (needle : String) : Bool :=
  let needle := Text.toLower needle
  Text.contains (Text.toLower r.fullName) needle || Text.contains (Text.toLower r.email) needle

end Representative

end PollRoster
