import PollRoster.Proofs.WrittenForm
import PollRoster.ReferenceData

/-!
# Records that come back from their JSON

What is exchanged as JSON is written field by field and comes back from every text of what is
written: the records of a territory, the representatives beside them, and assignments, scopes and
roles. The integers have to be those that records carry. A member that may be left out is read as if
it had been written with its default.

Main result: `records_survive_json`.
-/

namespace PollRoster

open PollRoster.Json (RecordField Members Spells Survives Carries IsDefault IsId IsNumber string
  ofMembers ofOption ofList ofNat asId asNumber asString asBool asList)

/-! ## Bounds

The integers of a record are within the bounds of what records carry; its texts are arbitrary.
-/

structure Region.InBounds (r : Region) : Prop where
  id : IsId r.id

structure Province.InBounds (p : Province) : Prop where
  id : IsId p.id
  regionId : IsId p.regionId

structure Municipality.InBounds (x : Municipality) : Prop where
  id : IsId x.id
  provinceId : IsId x.provinceId

structure District.InBounds (d : District) : Prop where
  municipalityId : IsId d.municipalityId
  number : IsNumber d.number

structure PollingSection.InBounds (s : PollingSection) : Prop where
  id : IsId s.id
  number : IsNumber s.number
  municipalityId : IsId s.municipalityId
  district : ∀ n ∈ s.district, IsNumber n
  electorCount : IsNumber s.electorCount

structure Representative.InBounds (r : Representative) : Prop where
  id : IsId r.id
  municipalityId : IsId r.municipalityId
  district : ∀ n ∈ r.district, IsNumber n

structure Assignment.InBounds (a : Assignment) : Prop where
  id : IsId a.id
  sectionId : IsId a.sectionId
  representativeId : IsId a.representativeId

structure Scope.InBounds (s : Scope) : Prop where
  region : ∀ i ∈ s.region, IsId i
  province : ∀ i ∈ s.province, IsId i
  municipality : ∀ i ∈ s.municipality, IsId i
  district : ∀ n ∈ s.district, IsNumber n

structure TerritoryData.InBounds (d : TerritoryData) : Prop where
  regions : ∀ r ∈ d.regions, r.InBounds
  provinces : ∀ p ∈ d.provinces, p.InBounds
  municipalities : ∀ x ∈ d.municipalities, x.InBounds
  districts : ∀ x ∈ d.districts, x.InBounds
  sections : ∀ s ∈ d.sections, s.InBounds

structure ReferenceData.InBounds (d : ReferenceData) : Prop where
  territory : d.territory.InBounds
  representatives : ∀ r ∈ d.representatives, r.InBounds

namespace Wire

/-! ## Records -/

theorem carries_region {r : Region} (h : r.InBounds) : Carries 1 asRegion (ofRegion r) r := by
  have hId := Json.carries_id h.id
  have hName := Json.carries_string r.name
  refine Json.carries_record (by decide) (.cons hId.written <| .cons hName.written .nil) ?_
  simp (disch := decide) [hId.decode_eq, hName.decode_eq]
  rfl

theorem carries_province {p : Province} (h : p.InBounds) :
    Carries 1 asProvince (ofProvince p) p := by
  have hId := Json.carries_id h.id
  have hRegion := Json.carries_id h.regionId
  have hName := Json.carries_string p.name
  have hCode := Json.carries_string p.code
  refine Json.carries_record (by decide) (.cons hId.written <| .cons hRegion.written <|
    .cons hName.written <| .cons hCode.written .nil) ?_
  simp (disch := decide) [hId.decode_eq, hRegion.decode_eq, hName.decode_eq, hCode.decode_eq]
  rfl

theorem isDefault_province : ∀ m ∈ [("code", string "")], IsDefault asProvince m := by
  refine List.forall_mem_singleton.mpr ?_
  refine Json.isDefault_record (.withDefault "code" asString "") rfl rfl rfl ?_
  exact fun _ _ h hGet => by simp (disch := decide) only [hGet, h.get_of_ne]

theorem carries_municipality {x : Municipality} (h : x.InBounds) :
    Carries 1 asMunicipality (ofMunicipality x) x := by
  have hId := Json.carries_id h.id
  have hProvince := Json.carries_id h.provinceId
  have hName := Json.carries_string x.name
  have hDistricted := Json.carries_bool x.isDistricted
  refine Json.carries_record (by decide) (.cons hId.written <| .cons hProvince.written <|
    .cons hName.written <| .cons hDistricted.written .nil) ?_
  simp (disch := decide) [hId.decode_eq, hProvince.decode_eq, hName.decode_eq,
    hDistricted.decode_eq]
  rfl

theorem isDefault_municipality :
    ∀ m ∈ [("is_districted", .bool false)], IsDefault asMunicipality m := by
  refine List.forall_mem_singleton.mpr ?_
  refine Json.isDefault_record (.withDefault "is_districted" asBool false) rfl rfl rfl ?_
  exact fun _ _ h hGet => by simp (disch := decide) only [hGet, h.get_of_ne]

theorem carries_district {d : District} (h : d.InBounds) :
    Carries 1 asDistrict (ofDistrict d) d := by
  have hMunicipality := Json.carries_id h.municipalityId
  have hNumber := Json.carries_number h.number
  have hName := Json.carries_string d.name
  refine Json.carries_record (by decide) (.cons hMunicipality.written <| .cons hNumber.written <|
    .cons hName.written .nil) ?_
  simp (disch := decide) [hMunicipality.decode_eq, hNumber.decode_eq, hName.decode_eq]
  rfl

theorem carries_optionalNumber {o : Option Nat} (h : ∀ n ∈ o, IsNumber n) :
    Carries 0 (Json.asOption asNumber) (ofOption ofNat o) o :=
  Json.carries_option nofun fun n hn => Json.carries_number (h n hn)

theorem carries_optionalId {o : Option Int} (h : ∀ i ∈ o, IsId i) :
    Carries 0 (Json.asOption asId) (ofOption .integer o) o :=
  Json.carries_option nofun fun i hi => Json.carries_id (h i hi)

theorem carries_optionalString (o : Option String) :
    Carries 0 (Json.asOption asString) (ofOption string o) o :=
  Json.carries_option nofun fun s _ => Json.carries_string s

theorem carries_section {s : PollingSection} (h : s.InBounds) :
    Carries 1 asSection (ofSection s) s := by
  have hId := Json.carries_id h.id
  have hNumber := Json.carries_number h.number
  have hBuilding := Json.carries_string s.buildingName
  have hAddress := Json.carries_string s.address
  have hMunicipality := Json.carries_id h.municipalityId
  have hDistrict := carries_optionalNumber h.district
  have hActive := Json.carries_bool s.isActive
  have hElectors := Json.carries_number h.electorCount
  refine Json.carries_record (by decide) (.cons hId.written <| .cons hNumber.written <|
    .cons hBuilding.written <| .cons hAddress.written <| .cons hMunicipality.written <|
    .cons hDistrict.written <| .cons hActive.written <| .cons hElectors.written .nil) ?_
  simp (disch := decide) [hId.decode_eq, hNumber.decode_eq, hBuilding.decode_eq,
    hAddress.decode_eq, hMunicipality.decode_eq, hDistrict.decode_eq, hActive.decode_eq,
    hElectors.decode_eq]
  rfl

theorem isDefault_section : ∀ m ∈ [("district", .null), ("is_active", .bool true),
    ("elector_count", ofNat 0)], IsDefault asSection m := by
  simp only [List.forall_mem_cons, List.not_mem_nil, false_implies, implies_true, and_true]
  refine ⟨Json.isDefault_record (.optional "district" asNumber) rfl rfl rfl ?_,
    Json.isDefault_record (.withDefault "is_active" asBool true) rfl rfl rfl ?_,
    Json.isDefault_record (.withDefault "elector_count" asNumber 0) rfl rfl rfl ?_⟩
  all_goals
    intro _ _ h hGet
    simp (disch := decide) only [hGet, h.get_of_ne]

theorem carries_representative {r : Representative} (h : r.InBounds) :
    Carries 1 asRepresentative (ofRepresentative r) r := by
  have hId := Json.carries_id h.id
  have hName := Json.carries_string r.fullName
  have hEmail := Json.carries_string r.email
  have hPhone := carries_optionalString r.phone
  have hMunicipality := Json.carries_id h.municipalityId
  have hDistrict := carries_optionalNumber h.district
  have hPreference := Json.carries_string r.preference
  have hNotes := carries_optionalString r.notes
  refine Json.carries_record (by decide) (.cons hId.written <| .cons hName.written <|
    .cons hEmail.written <| .cons hPhone.written <| .cons hMunicipality.written <|
    .cons hDistrict.written <| .cons hPreference.written <| .cons hNotes.written .nil) ?_
  simp (disch := decide) [hId.decode_eq, hName.decode_eq, hEmail.decode_eq, hPhone.decode_eq,
    hMunicipality.decode_eq, hDistrict.decode_eq, hPreference.decode_eq, hNotes.decode_eq]
  rfl

theorem isDefault_representative : ∀ m ∈ [("phone", .null), ("district", .null),
    ("preference", string ""), ("notes", .null)], IsDefault asRepresentative m := by
  simp only [List.forall_mem_cons, List.not_mem_nil, false_implies, implies_true, and_true]
  refine ⟨Json.isDefault_record (.optional "phone" asString) rfl rfl rfl ?_,
    Json.isDefault_record (.optional "district" asNumber) rfl rfl rfl ?_,
    Json.isDefault_record (.withDefault "preference" asString "") rfl rfl rfl ?_,
    Json.isDefault_record (.optional "notes" asString) rfl rfl rfl ?_⟩
  all_goals
    intro _ _ h hGet
    simp (disch := decide) only [hGet, h.get_of_ne]

/-! ## Assignments, roles and scopes -/

theorem carries_role (r : Role) : Carries 0 asRole (ofRole r) r := by
  cases r <;> exact ⟨rfl, rfl⟩

theorem carries_assignment {a : Assignment} (h : a.InBounds) :
    Carries 1 asAssignment (ofAssignment a) a := by
  have hId := Json.carries_id h.id
  have hSection := Json.carries_id h.sectionId
  have hRepresentative := Json.carries_id h.representativeId
  have hRole := carries_role a.role
  refine Json.carries_record (by decide) (.cons hId.written <| .cons hSection.written <|
    .cons hRepresentative.written <| .cons hRole.written .nil) ?_
  simp (disch := decide) [hId.decode_eq, hSection.decode_eq, hRepresentative.decode_eq,
    hRole.decode_eq]
  rfl

theorem carries_scope {s : Scope} (h : s.InBounds) : Carries 1 asScope (ofScope s) s := by
  have hRegion := carries_optionalId h.region
  have hProvince := carries_optionalId h.province
  have hMunicipality := carries_optionalId h.municipality
  have hDistrict := carries_optionalNumber h.district
  refine Json.carries_record (by decide) (.cons hRegion.written <| .cons hProvince.written <|
    .cons hMunicipality.written <| .cons hDistrict.written .nil) ?_
  simp (disch := decide) [scopeOfMembers, hRegion.decode_eq, hProvince.decode_eq,
    hMunicipality.decode_eq, hDistrict.decode_eq]
  rfl

theorem isDefault_scope : ∀ m ∈ [("region", .null), ("province", .null), ("municipality", .null),
    ("district", .null)], IsDefault asScope m := by
  simp only [List.forall_mem_cons, List.not_mem_nil, false_implies, implies_true, and_true]
  refine ⟨Json.isDefault_record (.optional "region" asId) rfl rfl rfl ?_,
    Json.isDefault_record (.optional "province" asId) rfl rfl rfl ?_,
    Json.isDefault_record (.optional "municipality" asId) rfl rfl rfl ?_,
    Json.isDefault_record (.optional "district" asNumber) rfl rfl rfl ?_⟩
  all_goals
    intro _ _ h hGet
    simp (disch := decide) only [scopeOfMembers, hGet, h.get_of_ne]

/-! ## Territorial data -/

/-- The lists of a territory are written field by field, and read as that territory. -/
theorem written_territory {d : TerritoryData} (h : d.InBounds) :
    List.Forall₂ (Json.IsWritten 2) territoryChecks (territoryMembers d) ∧
      territoryOfMembers (territoryMembers d) = .ok d := by
  have hRegions := Json.carries_list fun r hr => carries_region (h.regions r hr)
  have hProvinces := Json.carries_list fun p hp => carries_province (h.provinces p hp)
  have hMunicipalities :=
    Json.carries_list fun x hx => carries_municipality (h.municipalities x hx)
  have hDistricts := Json.carries_list fun x hx => carries_district (h.districts x hx)
  have hSections := Json.carries_list fun s hs => carries_section (h.sections s hs)
  refine ⟨.cons hRegions.written <| .cons hProvinces.written <| .cons hMunicipalities.written <|
    .cons hDistricts.written <| .cons hSections.written .nil, ?_⟩
  simp (disch := decide) [territoryOfMembers, territoryMembers, hRegions.decode_eq,
    hProvinces.decode_eq, hMunicipalities.decode_eq, hDistricts.decode_eq, hSections.decode_eq]
  rfl

theorem carries_territoryData {d : TerritoryData} (h : d.InBounds) :
    Carries 3 asTerritoryData (ofTerritoryData d) d :=
  Json.carries_record (by decide) (written_territory h).1 (written_territory h).2

/-- The lists of a territory may be missing. -/
def emptyLists : Members :=
  [("regions", .array []), ("provinces", .array []), ("municipalities", .array []),
    ("districts", .array []), ("sections", .array [])]

/-- An empty list is taken as it stands, and it can be kept for later. -/
theorem exists_check_of_mem_emptyLists (h : m ∈ emptyLists) :
    ∃ check, territoryChecks.find? (·.name == m.1) = some check ∧ check.flaw m.2 = none ∧
      Json.isKeepable Json.keepableDepth m.2 := by
  simp only [emptyLists, List.mem_cons, List.not_mem_nil, or_false] at h
  obtain rfl | rfl | rfl | rfl | rfl := h
  all_goals exact ⟨_, rfl, rfl, rfl⟩

/-- A territory is the same whether a list is missing or empty. -/
theorem territoryOfMembers_supply (hMem : m ∈ emptyLists)
    (h : Json.IsSupplied m.1 m.2 members supplied) :
    territoryOfMembers members = territoryOfMembers supplied := by
  simp only [emptyLists, List.mem_cons, List.not_mem_nil, or_false] at hMem
  obtain rfl | rfl | rfl | rfl | rfl := hMem
  · have hGet := h.get_of_absent (.withDefault "regions" (asList asRegion) []) rfl rfl
    simp (disch := decide) only [territoryOfMembers, hGet, h.get_of_ne]
  · have hGet := h.get_of_absent (.withDefault "provinces" (asList asProvince) []) rfl rfl
    simp (disch := decide) only [territoryOfMembers, hGet, h.get_of_ne]
  · have hGet := h.get_of_absent (.withDefault "municipalities" (asList asMunicipality) []) rfl rfl
    simp (disch := decide) only [territoryOfMembers, hGet, h.get_of_ne]
  · have hGet := h.get_of_absent (.withDefault "districts" (asList asDistrict) []) rfl rfl
    simp (disch := decide) only [territoryOfMembers, hGet, h.get_of_ne]
  · have hGet := h.get_of_absent (.withDefault "sections" (asList asSection) []) rfl rfl
    simp (disch := decide) only [territoryOfMembers, hGet, h.get_of_ne]

theorem isDefault_territoryData : ∀ m ∈ emptyLists, IsDefault asTerritoryData m := by
  intro m hMem
  obtain ⟨check, hFind, hFlaw, -⟩ := exists_check_of_mem_emptyLists hMem
  exact Json.isDefault_of_overlooked hFind hFlaw fun _ _ h => territoryOfMembers_supply hMem h

end Wire

/-! ## Reference data -/

namespace ReferenceData

/-- The field of the representatives, which stands beside the lists of the territory. -/
def representativesField : RecordField (List Representative) :=
  .withDefault "representatives" (asList Wire.asRepresentative) []

/-- The representatives are no list of the territory. -/
theorem find?_representatives (h : check ∈ Wire.territoryChecks) :
    [representativesField.check].find? (·.name == check.name) = none := by
  simp only [Wire.territoryChecks, List.mem_cons, List.not_mem_nil, or_false] at h
  obtain rfl | rfl | rfl | rfl | rfl := h
  all_goals rfl

theorem carries_toJson {d : ReferenceData} (h : d.InBounds) : Carries 3 ofJson d.toJson d := by
  obtain ⟨hTerritory, hRead⟩ := Wire.written_territory h.territory
  have hRepresentatives :=
    Json.carries_list fun r hr => Wire.carries_representative (h.representatives r hr)
  have hOwn : List.Forall₂ (Json.IsWritten 2) [representativesField.check]
      [("representatives", ofList Wire.ofRepresentative d.representatives)] :=
    .cons hRepresentatives.written .nil
  have hDatum := Json.isDatum_of_written hTerritory
  refine ⟨Json.isDatum_ofMembers (List.forall_mem_append.mpr
    ⟨hDatum, Json.isDatum_of_written hOwn⟩), ?_⟩
  have hApart : ∀ m ∈ Wire.territoryMembers d.territory,
      [representativesField.check].find? (·.name == m.1) = none ∧
        Json.isKeepable Json.keepableDepth m.2 := by
    intro m hm
    obtain ⟨check, hCheck, hName, -⟩ := Json.exists_takes (Json.forall₂_takes hTerritory) m hm
    refine ⟨hName ▸ find?_representatives hCheck, ?_⟩
    exact Json.isKeepable_of_isDatum (hDatum m hm) (by decide)
  have hNested := Json.nestedRecord_ofMembers (by decide) (by decide) (Json.forall₂_takes hOwn)
    (Json.forall₂_takes hTerritory) hApart
  have hGet : Members.get [("representatives", ofList Wire.ofRepresentative d.representatives)]
      representativesField = .ok d.representatives := by
    simp (disch := decide) [representativesField, hRepresentatives.decode_eq]
  have hOf : ofJson d.toJson =
      d.toJson.nestedRecord [representativesField.check] Wire.territoryChecks >>= fun found => do
        let territory ← Wire.territoryOfMembers found.2
        return ⟨territory, ← found.1.get representativesField⟩ := rfl
  rw [hOf, toJson, hNested]
  simp only [bind, Except.bind, hRead, hGet]
  rfl

theorem isDefault_lists :
    ∀ m ∈ Wire.emptyLists ++ [("representatives", .array [])], IsDefault ofJson m := by
  intro m hMem pre post hPre hPost
  obtain hTerritory | hOwn := List.mem_append.mp hMem
  · obtain ⟨check, hFind, hFlaw, hKeepable⟩ := Wire.exists_check_of_mem_emptyLists hTerritory
    have hName : check.name = m.1 := by simpa using List.find?_some hFind
    have hOuter := find?_representatives (List.mem_of_find?_eq_some hFind)
    rw [hName] at hOuter
    refine (Json.nestedRecord_supply_nested hOuter hKeepable hFind hFlaw hPre hPost).bind_eq ?_
    rintro ⟨own, nested⟩ ⟨_, supplied⟩ ⟨rfl, hSupplied⟩
    simp only [Wire.territoryOfMembers_supply hTerritory hSupplied]
  · obtain rfl := List.mem_singleton.mp hOwn
    refine (Json.nestedRecord_supply_own rfl rfl hPre hPost).bind_eq ?_
    rintro ⟨own, nested⟩ ⟨supplied, _⟩ ⟨hSupplied, rfl⟩
    have hGet := hSupplied.get_of_absent representativesField rfl rfl
    show (do
      let territory ← Wire.territoryOfMembers nested
      return ReferenceData.mk territory (← own.get representativesField)) = _
    rw [hGet]
    rfl

end ReferenceData

/-- Reference data come back from every text of their JSON, and so do the records that they are made
of, assignments, scopes and roles. A member that may be left out stands for the value given here,
whatever other members there are. -/
theorem records_survive_json :
    (∀ d : ReferenceData, d.InBounds → ∀ text, Spells d.toJson text →
      ReferenceData.ofText? text = some d) ∧
    Survives ReferenceData.toJson ReferenceData.ofJson ReferenceData.InBounds
      (Wire.emptyLists ++ [("representatives", .array [])]) ∧
    Survives Wire.ofTerritoryData Wire.asTerritoryData TerritoryData.InBounds Wire.emptyLists ∧
    Survives Wire.ofRegion Wire.asRegion Region.InBounds [] ∧
    Survives Wire.ofProvince Wire.asProvince Province.InBounds [("code", string "")] ∧
    Survives Wire.ofMunicipality Wire.asMunicipality Municipality.InBounds
      [("is_districted", .bool false)] ∧
    Survives Wire.ofDistrict Wire.asDistrict District.InBounds [] ∧
    Survives Wire.ofSection Wire.asSection PollingSection.InBounds
      [("district", .null), ("is_active", .bool true), ("elector_count", ofNat 0)] ∧
    Survives Wire.ofRepresentative Wire.asRepresentative Representative.InBounds
      [("phone", .null), ("district", .null), ("preference", string ""), ("notes", .null)] ∧
    Survives Wire.ofAssignment Wire.asAssignment Assignment.InBounds [] ∧
    Survives Wire.ofScope Wire.asScope Scope.InBounds
      [("region", .null), ("province", .null), ("municipality", .null), ("district", .null)] ∧
    Survives Wire.ofRole Wire.asRole (fun _ => True) [] := by
  have hReference := Json.survives_of_carries (fun _ => ReferenceData.carries_toJson)
    ReferenceData.isDefault_lists
  refine ⟨fun d hd text hText => hReference.read_back d hd text hText, hReference, ?_⟩
  have hNone {α : Type} (decode : Json.Decoder α) : ∀ m ∈ ([] : Members), IsDefault decode m :=
    List.forall_mem_nil _
  exact ⟨
    Json.survives_of_carries (fun _ => Wire.carries_territoryData) Wire.isDefault_territoryData,
    Json.survives_of_carries (fun _ => Wire.carries_region) (hNone _),
    Json.survives_of_carries (fun _ => Wire.carries_province) Wire.isDefault_province,
    Json.survives_of_carries (fun _ => Wire.carries_municipality) Wire.isDefault_municipality,
    Json.survives_of_carries (fun _ => Wire.carries_district) (hNone _),
    Json.survives_of_carries (fun _ => Wire.carries_section) Wire.isDefault_section,
    Json.survives_of_carries (fun _ => Wire.carries_representative) Wire.isDefault_representative,
    Json.survives_of_carries (fun _ => Wire.carries_assignment) (hNone _),
    Json.survives_of_carries (fun _ => Wire.carries_scope) Wire.isDefault_scope,
    Json.survives_of_carries (fun r _ => Wire.carries_role r) (hNone _)⟩

/-- A region with the least identifier and a name that has to be escaped, a section that is closed,
and a representative with the greatest identifier. -/
def farRecords : ReferenceData where
  territory :=
    { regions := [⟨minId, "\"Valle\\\n\x01 d’Aosta 😀"⟩], provinces := [], municipalities := []
      districts := [], sections := [⟨0, maxNumber, "Plesso", "", -1, none, false, 0⟩] }
  representatives := [⟨maxId, "Bianchi", "", some "", -7, some 0, "", none⟩]

theorem inBounds_farRecords : farRecords.InBounds where
  territory :=
    { regions := List.forall_mem_singleton.mpr ⟨by decide⟩
      provinces := List.forall_mem_nil _
      municipalities := List.forall_mem_nil _
      districts := List.forall_mem_nil _
      sections := List.forall_mem_singleton.mpr
        ⟨by decide, by decide, by decide, by decide, by decide⟩ }
  representatives := List.forall_mem_singleton.mpr ⟨by decide, by decide, by decide⟩

/-- They come back from their compact text, and a section is open unless its record says
otherwise. -/
theorem records_survive_json_farRecords :
    ReferenceData.ofText? (Json.render farRecords.toJson) = some farRecords ∧
    Wire.asSection (.object [(some "id", .integer 3), (some "number", .integer 1),
        (some "building_name", string "Scuola"), (some "address", string "Via Roma"),
        (some "municipality_id", .integer 5)]) =
      Wire.asSection (.object [(some "id", .integer 3), (some "number", .integer 1),
        (some "building_name", string "Scuola"), (some "address", string "Via Roma"),
        (some "municipality_id", .integer 5), (some "is_active", .bool true)]) := by
  obtain ⟨hText, hReference, -, -, -, -, -, hSection, -⟩ := records_survive_json
  refine ⟨hText _ inBounds_farRecords _ (hReference.spelled _ inBounds_farRecords), ?_⟩
  exact hSection.omitted ("is_active", .bool true) (by simp)
    [(some "id", .integer 3), (some "number", .integer 1), (some "building_name", string "Scuola"),
      (some "address", string "Via Roma"), (some "municipality_id", .integer 5)] []
    (by simp [Json.Lacks]) (by simp [Json.Lacks])

end PollRoster
