/-!
# Scopes

A scope is a partial path into the territory: region, province, municipality and district. The
component set deepest decides its depth, also when components above it are left out.
-/

namespace PollRoster

/-- What a view of the territory lists. -/
inductive Level where
  | region
  | province
  | municipality
  | district
  | sectionList
  deriving DecidableEq, Repr

def Level.name : Level → String
  | .region => "Region"
  | .province => "Province"
  | .municipality => "Municipality"
  | .district => "District"
  | .sectionList => "SectionList"

/-- How far down the territory a level lies. -/
def Level.rank : Level → Nat
  | .region => 0
  | .province => 1
  | .municipality => 2
  | .district => 3
  | .sectionList => 4

/-- A partial path into the territory. -/
@[ext]
structure Scope where
  region : Option Int
  province : Option Int
  municipality : Option Int
  district : Option Nat
  deriving DecidableEq, Repr

namespace Scope

def root : Scope := ⟨none, none, none, none⟩

def ofRegion (region : Int) : Scope := { root with region := some region }

def ofMunicipality (municipality : Int) : Scope := { root with municipality := some municipality }

/-- The scope of a place: a municipality and perhaps a district of it. -/
def ofPlace (municipality : Int) (district : Option Nat) : Scope :=
  { ofMunicipality municipality with district := district }

def withDistrict (s : Scope) (district : Nat) : Scope := { s with district := some district }

def isRoot (s : Scope) : Bool :=
  s.region.isNone && s.province.isNone && s.municipality.isNone && s.district.isNone

/-- The place of the deepest component that is set, counted from one; zero for the root. -/
def depth (s : Scope) : Nat :=
  if s.district.isSome then 4
  else if s.municipality.isSome then 3
  else if s.province.isSome then 2
  else if s.region.isSome then 1
  else 0

/-- The scope without its deepest component; the root has no parent. -/
def parent? (s : Scope) : Option Scope :=
  if s.district.isSome then some { s with district := none }
  else if s.municipality.isSome then some { s with municipality := none }
  else if s.province.isSome then some { s with province := none }
  else if s.region.isSome then some { s with region := none }
  else none

theorem depth_of_parent? {s p : Scope} (h : s.parent? = some p) : p.depth < s.depth := by
  obtain ⟨r, v, m, d⟩ := s
  cases d <;> cases m <;> cases v <;> cases r <;> simp_all [parent?, depth] <;>
    subst h <;> simp

/-- The scopes above `s`, nearest first. -/
def ancestors (s : Scope) : List Scope :=
  match _above : s.parent? with
  | none => []
  | some p => p :: ancestors p
termination_by s.depth
decreasing_by exact depth_of_parent? _above

/-- Whether an outer component admits an inner one. -/
def covers [DecidableEq α] (outer inner : Option α) : Bool :=
  outer.isNone || outer == inner

/-- Whether every component set in `s` is set alike in `t`. -/
def contains (s t : Scope) : Bool :=
  covers s.region t.region && covers s.province t.province &&
    covers s.municipality t.municipality && covers s.district t.district

/-- Whether one of the scopes contains the other, so that their counters may overlap. -/
def isRelated (s t : Scope) : Bool := s.contains t || t.contains s

end Scope

end PollRoster
