/-!
# Breaches of the domain rules
-/

namespace PollRoster

/-- Why a value or a record is refused by the domain rules. -/
inductive RuleError where
  /-- An identifier that is zero or negative. -/
  | invalidIdentifier (field : String) (value : Int)
  | invalidRole (text : String)
  /-- A record of the given level that does not exist. -/
  | nodeNotFound (level : String) (id : Int)
  /-- A scope whose components do not belong together. -/
  | inconsistentScope (reason : String)
  /-- A district of a municipality without districts, or a number that it does not have. -/
  | invalidDistrict (municipalityId : Int) (district : Nat)
  | invalidSection (sectionId : Int) (reason : String)
  | invalidRepresentative (representativeId : Int) (reason : String)
  | duplicateIdentifier (kind : String) (id : Int)
  deriving DecidableEq, Repr

def RuleError.message : RuleError → String
  | .invalidIdentifier field value => s!"Invalid {field} identifier: {value}"
  | .invalidRole text =>
    s!"Invalid role '{text}'. Expected one of RDL, EFFETTIVO, PRIMARY, SUPPLENTE, ALTERNATE"
  | .nodeNotFound level id => s!"{level} {id} not found"
  | .inconsistentScope reason => s!"Inconsistent scope: {reason}"
  | .invalidDistrict municipalityId district =>
    s!"District {district} is not defined for municipality {municipalityId}"
  | .invalidSection sectionId reason => s!"Invalid section {sectionId}: {reason}"
  | .invalidRepresentative representativeId reason =>
    s!"Invalid representative {representativeId}: {reason}"
  | .duplicateIdentifier kind id => s!"Duplicate {kind} identifier {id}"

def checkIdentifier (field : String) (value : Int) : Except RuleError Int :=
  if value ≤ 0 then .error (.invalidIdentifier field value) else .ok value

end PollRoster
