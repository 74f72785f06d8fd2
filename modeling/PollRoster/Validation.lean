import PollRoster.Territory

/-!
# Validation of reference data

The structural rules of a territory and of the representatives that serve in it. Each check reports
the first breach in display order.
-/

namespace PollRoster

/-- Fails with `error` unless the condition holds. -/
def require (condition : Bool) (error : ε) : Except ε Unit :=
  if condition then .ok () else .error error

/-- Checks records in order: no identifier occurs twice and every record passes `check`. -/
def checkRecords (kind : String) (id : α → Int) (check : α → Except RuleError Unit)
    (seen : List Int) : List α → Except RuleError Unit
  | [] => .ok ()
  | x :: xs => do
    require (!seen.contains (id x)) (.duplicateIdentifier kind (id x))
    check x
    checkRecords kind id check (id x :: seen) xs

namespace Territory

/-- A district belongs to a municipality that is split into districts. -/
def checkDistrict (t : Territory) (d : District) : Except RuleError Unit :=
  require ((t.municipality? d.municipalityId).any (·.isDistricted))
    (.invalidDistrict d.municipalityId d.number)

/-- A section lies in an existing municipality, and in an existing district of it if it names
one. -/
def checkSection (t : Territory) (s : PollingSection) : Except RuleError Unit :=
  match t.municipality? s.municipalityId with
  | none => .error (.invalidSection s.id s!"municipality {s.municipalityId} does not exist")
  | some municipality =>
    match s.district with
    | none => .ok ()
    | some number => do
      let name := municipality.name
      require municipality.isDistricted
        (.invalidSection s.id
          s!"municipality '{name}' is not districted but district {number} was given")
      require (t.district? municipality.id number).isSome
        (.invalidDistrict municipality.id number)

/-- Checks that identifiers are distinct within their kind and that every parent exists. -/
def validate (t : Territory) : Except RuleError Unit := do
  checkRecords "region" Region.id (fun _ => .ok ()) [] t.regions
  checkRecords "province" Province.id
    (fun p => require (t.region? p.regionId).isSome (.nodeNotFound "Region" p.regionId))
    [] t.provinces
  checkRecords "municipality" Municipality.id
    (fun m => require (t.province? m.provinceId).isSome (.nodeNotFound "Province" m.provinceId))
    [] t.municipalities
  t.districts.forM t.checkDistrict
  checkRecords "section" PollingSection.id t.checkSection [] t.sections

/-- Checks that a representative has a name and declared an existing place. -/
def validateRepresentative (t : Territory) (r : Representative) : Except RuleError Unit := do
  require (!(Text.trim r.fullName).isEmpty)
    (.invalidRepresentative r.id "name must not be empty")
  require (t.municipality? r.municipalityId).isSome
    (.invalidRepresentative r.id s!"declared municipality {r.municipalityId} does not exist")
  match r.district with
  | none => return ()
  | some number =>
    require (t.district? r.municipalityId number).isSome
      (.invalidDistrict r.municipalityId number)

end Territory

end PollRoster
