import PollRoster.Proofs.Database.Reachable

/-!
# What the tables admit

Reference data is judged twice: validation looks at it as a whole, then the tables look at every
row. Most rules of the tables follow from validation, since identifiers are distinct and parents
come first. What does not follow is said here: that numbers fit into their columns, that the numbers
of districts and sections are positive, and that no number of a district repeats within a
municipality.

Loading stops with the first record that its table refuses. A number too large for its column is
told as a fault of the data, a broken rule of the table as a failure of the database.

Main results:

* `validate_consistent` — what validation establishes of the records as they are listed.
* `insertAll_outcome` — consistent data is stored as a whole, or its loading stops with the first
  record refused.
-/

namespace PollRoster

/-! ## Numbers that fit into their columns -/

def District.Fits (d : District) : Prop := d.number ≤ columnLimit

def PollingSection.Fits (s : PollingSection) : Prop :=
  (∀ number ∈ s.district, number ≤ columnLimit) ∧ s.number ≤ columnLimit ∧
    s.electorCount ≤ columnLimit

def Representative.Fits (r : Representative) : Prop := ∀ number ∈ r.district, number ≤ columnLimit

instance (d : District) : Decidable d.Fits := inferInstanceAs (Decidable (_ ≤ _))

instance (s : PollingSection) : Decidable s.Fits := inferInstanceAs (Decidable (_ ∧ _ ∧ _))

section Numbers

variable {column : String}

theorem writeNumber_of_le {n : Nat} (h : n ≤ columnLimit) : writeNumber column n = .ok n :=
  if_pos h

theorem writeNumber_of_gt {n : Nat} (h : ¬n ≤ columnLimit) :
    ∃ reason, writeNumber column n = .error (.invalidReferenceData reason) :=
  ⟨_, if_neg h⟩

theorem writeNumber?_of_le {n : Option Nat} (h : ∀ x ∈ n, x ≤ columnLimit) :
    writeNumber? column n = .ok (n.map fun x : Nat => (x : Int)) := by
  cases n with
  | none => rfl
  | some x =>
    rw [writeNumber?, writeNumber_of_le (h x rfl)]
    rfl

theorem writeNumber?_of_gt {n : Option Nat} (h : ¬∀ x ∈ n, x ≤ columnLimit) :
    ∃ reason, writeNumber? column n = .error (.invalidReferenceData reason) := by
  cases n with
  | none => exact absurd (fun _ hx => by cases hx) h
  | some x =>
    have hLarge : ¬x ≤ columnLimit := by simpa using h
    obtain ⟨reason, hReason⟩ : ∃ reason, writeNumber column x =
        .error (.invalidReferenceData reason) := writeNumber_of_gt hLarge
    refine ⟨reason, ?_⟩
    rw [writeNumber?, hReason]
    rfl

end Numbers

/-! ## Rows of records that fit -/

namespace DistrictRow

/-- The row of a district whose number fits. -/
def plain (d : District) : DistrictRow := ⟨d.municipalityId, d.number, d.name⟩

theorem ofDistrict_of_fits {d : District} (hFits : d.Fits) :
    ofDistrict d = if 0 < d.number then .ok (plain d) else .error notPositive := by
  rw [ofDistrict, bind_of_eq_ok (writeNumber_of_le hFits)]
  by_cases hPositive : 0 < d.number
  · simp [require, hPositive, plain]
  · simp [require, hPositive]

theorem ofDistrict_of_not_fits {d : District} (hLarge : ¬d.Fits) :
    ∃ reason, ofDistrict d = .error (.invalidReferenceData reason) := by
  obtain ⟨reason, hReason⟩ := writeNumber_of_gt hLarge
  exact ⟨reason, bind_of_eq_error hReason _⟩

end DistrictRow

namespace PollingSectionRow

/-- The row of a section whose numbers fit. -/
def plain (s : PollingSection) : PollingSectionRow where
  id := s.id
  number := s.number
  buildingName := s.buildingName
  address := s.address
  municipalityId := s.municipalityId
  district := s.district.map fun number : Nat => (number : Int)
  isActive := s.isActive
  electorCount := s.electorCount

theorem ofSection_of_fits {s : PollingSection} (hFits : s.Fits) :
    ofSection s = if 0 < s.number then .ok (plain s) else .error notPositive := by
  obtain ⟨hDistrict, hNumber, hElectors⟩ := hFits
  rw [ofSection, bind_of_eq_ok (writeNumber?_of_le hDistrict),
    bind_of_eq_ok (writeNumber_of_le hNumber), bind_of_eq_ok (writeNumber_of_le hElectors)]
  by_cases hPositive : 0 < s.number
  · simp [require, hPositive, plain]
  · simp [require, hPositive]

/-- Of three numbers the first that is too large is told. -/
theorem ofSection_of_not_fits {s : PollingSection} (hLarge : ¬s.Fits) :
    ∃ reason, ofSection s = .error (.invalidReferenceData reason) := by
  rw [ofSection]
  by_cases hDistrict : ∀ number ∈ s.district, number ≤ columnLimit
  · rw [bind_of_eq_ok (writeNumber?_of_le hDistrict)]
    by_cases hNumber : s.number ≤ columnLimit
    · rw [bind_of_eq_ok (writeNumber_of_le hNumber)]
      have hElectors : ¬s.electorCount ≤ columnLimit := fun h => hLarge ⟨hDistrict, hNumber, h⟩
      obtain ⟨reason, hReason⟩ := writeNumber_of_gt hElectors
      exact ⟨reason, bind_of_eq_error hReason _⟩
    · obtain ⟨reason, hReason⟩ := writeNumber_of_gt hNumber
      exact ⟨reason, bind_of_eq_error hReason _⟩
  · obtain ⟨reason, hReason⟩ := writeNumber?_of_gt hDistrict
    exact ⟨reason, bind_of_eq_error hReason _⟩

end PollingSectionRow

namespace RepresentativeRow

theorem ofRepresentative_of_fits {r : Representative} (hFits : r.Fits) :
    ∃ row, ofRepresentative r = .ok row ∧ row.id = r.id ∧
      row.municipalityId = r.municipalityId :=
  ⟨_, bind_of_eq_ok (writeNumber?_of_le hFits) _, rfl, rfl⟩

/-- Rows of representatives keep the identifiers. -/
theorem map_id_of_mapM {rows : List RepresentativeRow} {rs : List Representative}
    (h : rows.mapM toRepresentative = .ok rs) :
    rows.map RepresentativeRow.id = rs.map Representative.id := by
  have hIds : List.Forall₂ (fun (row : RepresentativeRow) (r : Representative) => row.id = r.id)
      rows rs := by
    refine (mapM_eq_ok.mp h).imp fun row r hRow => ?_
    obtain ⟨district, -, hRow⟩ := bind_eq_ok.mp hRow
    rw [← Except.ok.inj hRow]
  exact List.forall₂_eq_eq_eq ▸
    (List.forall₂_map_left_iff.mpr (List.forall₂_map_right_iff.mpr hIds))

end RepresentativeRow

/-! ## Rules that validation does not know -/

/-- What tells a district from others. -/
def District.key (d : District) : Int × Nat := (d.municipalityId, d.number)

/-- Whether districts of stored municipalities can be stored together. -/
structure StorableDistricts (ds : List District) : Prop where
  fit : ∀ d ∈ ds, d.Fits
  positive : ∀ d ∈ ds, 0 < d.number
  keys : (ds.map District.key).Nodup

/-- Whether sections of stored municipalities, with distinct identifiers, can be stored together. -/
structure StorableSections (ss : List PollingSection) : Prop where
  fit : ∀ s ∈ ss, s.Fits
  positive : ∀ s ∈ ss, 0 < s.number

theorem StorableDistricts.of_append (xs ys : List District) (h : StorableDistricts (xs ++ ys)) :
    StorableDistricts xs where
  fit := fun d hd => h.fit d (List.mem_append_left ys hd)
  positive := fun d hd => h.positive d (List.mem_append_left ys hd)
  keys := h.keys.sublist ((List.sublist_append_left xs ys).map _)

theorem StorableSections.of_append (xs ys : List PollingSection)
    (h : StorableSections (xs ++ ys)) : StorableSections xs where
  fit := fun s hs => h.fit s (List.mem_append_left ys hs)
  positive := fun s hs => h.positive s (List.mem_append_left ys hs)

/-- What holds of the members and of one more holds of all together. -/
theorem forall_mem_concat {P : α → Prop} {xs : List α} {x : α} :
    (∀ y ∈ xs ++ [x], P y) ↔ (∀ y ∈ xs, P y) ∧ P x := by
  rw [List.forall_mem_append, List.forall_mem_singleton]

theorem storableDistricts_concat {ds : List District} {d : District} (h : StorableDistricts ds) :
    StorableDistricts (ds ++ [d]) ↔ d.Fits ∧ 0 < d.number ∧ ∀ x ∈ ds, x.key ≠ d.key := by
  have hKeys : ((ds ++ [d]).map District.key).Nodup ↔ ∀ x ∈ ds, x.key ≠ d.key := by
    rw [List.map_append, List.nodup_append, List.map_singleton, List.forall_mem_map]
    simp only [h.keys, List.nodup_singleton, List.forall_mem_singleton, true_and]
  constructor
  · intro hAll
    exact ⟨(forall_mem_concat.mp hAll.fit).2, (forall_mem_concat.mp hAll.positive).2,
      hKeys.mp hAll.keys⟩
  · rintro ⟨hFits, hPositive, hNew⟩
    exact ⟨forall_mem_concat.mpr ⟨h.fit, hFits⟩, forall_mem_concat.mpr ⟨h.positive, hPositive⟩,
      hKeys.mpr hNew⟩

theorem storableSections_concat {ss : List PollingSection} {s : PollingSection}
    (h : StorableSections ss) : StorableSections (ss ++ [s]) ↔ s.Fits ∧ 0 < s.number := by
  constructor
  · intro hAll
    exact ⟨(forall_mem_concat.mp hAll.fit).2, (forall_mem_concat.mp hAll.positive).2⟩
  · rintro ⟨hFits, hPositive⟩
    exact ⟨forall_mem_concat.mpr ⟨h.fit, hFits⟩, forall_mem_concat.mpr ⟨h.positive, hPositive⟩⟩

/-! ## Rules that follow from validation -/

namespace ReferenceData

/-- Whether identifiers are distinct within their kind and parents are listed. -/
structure Consistent (d : ReferenceData) : Prop where
  regionIds : (d.territory.regions.map Region.id).Nodup
  provinceIds : (d.territory.provinces.map Province.id).Nodup
  municipalityIds : (d.territory.municipalities.map Municipality.id).Nodup
  sectionIds : (d.territory.sections.map PollingSection.id).Nodup
  representativeIds : (d.representatives.map Representative.id).Nodup
  region_of : ∀ p ∈ d.territory.provinces, ∃ r ∈ d.territory.regions, r.id = p.regionId
  province_of : ∀ m ∈ d.territory.municipalities,
    ∃ p ∈ d.territory.provinces, p.id = m.provinceId
  districts : ∀ x ∈ d.territory.districts,
    ∃ m ∈ d.territory.municipalities, m.id = x.municipalityId
  sections : ∀ s ∈ d.territory.sections,
    ∃ m ∈ d.territory.municipalities, m.id = s.municipalityId
  representatives : ∀ r ∈ d.representatives,
    ∃ m ∈ d.territory.municipalities, m.id = r.municipalityId
  declared : ∀ r ∈ d.representatives, ∀ number ∈ r.district,
    ∃ x ∈ d.territory.districts, x.number = number

/-- **Validated data is consistent.** -/
theorem validate_consistent {d : ReferenceData} {u : Unit} (h : d.validate = .ok u) :
    d.Consistent := by
  obtain ⟨hSorted, hHouses⟩ := validate_sound h
  have hGiven := Territory.sameRecords_given d.territory
  have hWell := hSorted.of_sameRecords hGiven
  have hPlaces := (hHouses.of_sameRecords hGiven (.refl _)).places
  -- well-formedness leaves the identifiers of regions open, validation does not
  have hRegionIds : ((Territory.ofData d.territory).regions.map Region.id).Nodup := by
    rw [validate] at h
    split at h
    · cases h
    next hTerritory =>
      exact Territory.regionIds_of_validate hTerritory
  have hMunicipality : ∀ {id number}, (⟨d.territory⟩ : Territory).HasPlace id number →
      ∃ m ∈ d.territory.municipalities, m.id = id := by
    rintro id number ⟨m, hm, hId, -⟩
    exact ⟨m, hm, hId⟩
  exact {
    regionIds := (hGiven.regions.map _).nodup_iff.mp hRegionIds
    provinceIds := hWell.provinceIds
    municipalityIds := hWell.municipalityIds
    sectionIds := hWell.sectionIds
    representativeIds := hHouses.ids
    region_of := hWell.region_of
    province_of := hWell.province_of
    districts := fun x hx => hMunicipality (hWell.districts x hx)
    sections := fun s hs => hMunicipality (hWell.sections s hs)
    representatives := fun r hr => hMunicipality (hPlaces r hr)
    declared := fun r hr number hNumber => by
      obtain ⟨m, -, -, hDistrict⟩ := hPlaces r hr
      obtain ⟨-, x, hx, -, hSame⟩ := hDistrict number hNumber
      exact ⟨x, hx, hSame⟩ }

/-- Whether the tables take the records of consistent data. -/
structure Storable (d : ReferenceData) : Prop where
  districts : StorableDistricts d.territory.districts
  sections : StorableSections d.territory.sections

/-- Whether the first record that the tables refuse is a district or a section of this kind.
Sections are looked at when all districts are stored. -/
def StopsAt (d : ReferenceData) (onDistrict : District → Prop) (onSection : PollingSection → Prop) :
    Prop :=
  (∃ x, FirstRefused StorableDistricts d.territory.districts x ∧ onDistrict x) ∨
  (StorableDistricts d.territory.districts ∧
    ∃ s, FirstRefused StorableSections d.territory.sections s ∧ onSection s)

/-- Whether the first record refused fits into its columns, so that it breaks a rule of its
table. -/
def BreaksRule (d : ReferenceData) : Prop := d.StopsAt District.Fits PollingSection.Fits

/-- Whether the first record refused has a number too large for its column. -/
def Overflows (d : ReferenceData) : Prop := d.StopsAt (¬·.Fits) (¬·.Fits)

theorem StopsAt.not_storable {d : ReferenceData} {onDistrict : District → Prop}
    {onSection : PollingSection → Prop} (h : d.StopsAt onDistrict onSection) : ¬d.Storable := by
  rintro ⟨hDistricts, hSections⟩
  rcases h with ⟨x, hx, -⟩ | ⟨-, s, hs, -⟩
  · exact hx.not_admissible StorableDistricts.of_append hDistricts
  · exact hs.not_admissible StorableSections.of_append hSections

/-- There is one first record refused at most, so the two ways to stop exclude each other. -/
theorem BreaksRule.not_overflows {d : ReferenceData} (h : d.BreaksRule) : ¬d.Overflows := by
  intro hOverflows
  rcases h with ⟨x, hx, hFits⟩ | ⟨hDistricts, s, hs, hFits⟩
  · rcases hOverflows with ⟨y, hy, hLarge⟩ | ⟨hDistricts, -⟩
    · rw [hx.unique StorableDistricts.of_append hy] at hFits
      exact hLarge hFits
    · exact hx.not_admissible StorableDistricts.of_append hDistricts
  · rcases hOverflows with ⟨y, hy, -⟩ | ⟨-, y, hy, hLarge⟩
    · exact hy.not_admissible StorableDistricts.of_append hDistricts
    · rw [hs.unique StorableSections.of_append hy] at hFits
      exact hLarge hFits

end ReferenceData

/-- Whether a refusal tells what is wrong with a record: that it does not fit into its columns, or
that it breaks a rule of its table. -/
def StorageError.Tells (e : StorageError) (fits : Prop) : Prop :=
  (fits ∧ ∃ reason, e = .database reason) ∨ (¬fits ∧ ∃ reason, e = .invalidReferenceData reason)

/-! ## Keys of tables -/

/-- The members before one of a list with distinct keys have other keys. -/
theorem key_ne_of_nodup {key : α → κ} {done rest : List α} {x : α}
    (h : ((done ++ x :: rest).map key).Nodup) : key x ∉ done.map key := by
  rw [List.map_append, List.nodup_append] at h
  exact fun hMem => h.2.2 _ hMem _ List.mem_cons_self rfl

section Tables

variable {key : α → Int} {rows : List α} {k : Int}

theorem not_any_key (h : k ∉ rows.map key) :
    (!rows.any fun x => decide (key x = k)) = true := by
  rw [Bool.not_eq_true', List.any_eq_false]
  intro x hx hKey
  exact h (List.mem_map.mpr ⟨x, hx, of_decide_eq_true hKey⟩)

theorem any_key (h : ∃ x ∈ rows, key x = k) :
    (rows.any fun x => decide (key x = k)) = true := by
  obtain ⟨x, hx, hKey⟩ := h
  exact List.any_eq_true.mpr ⟨x, hx, decide_eq_true hKey⟩

end Tables

namespace Database

variable {db : Database} {rs : List Region} {ps : List Province} {ms : List Municipality}
  {ds : List District} {ss : List PollingSection} {reps : List Representative}

section Holds

variable {d : ReferenceData} (h : db.Holds d)
include h

theorem Holds.sectionIds :
    (db.sectionRows.map PollingSectionRow.id).Perm
      (d.territory.sections.map PollingSection.id) := by
  obtain ⟨ys, hYs, hPerm⟩ := h.sections
  rw [PollingSectionRow.map_id_of_mapM hYs]
  exact hPerm.map _

theorem Holds.representativeIds :
    (db.representativeRows.map RepresentativeRow.id).Perm
      (d.representatives.map Representative.id) := by
  obtain ⟨ys, hYs, hPerm⟩ := h.representatives
  rw [RepresentativeRow.map_id_of_mapM hYs]
  exact hPerm.map _

theorem Holds.municipalityExists {id : Int}
    (hId : ∃ m ∈ d.territory.municipalities, m.id = id) : db.municipalityExists id = true := by
  obtain ⟨m, hm, hId⟩ := hId
  exact any_key ⟨m, h.municipalities.mem_iff.mpr hm, hId⟩

end Holds

/-! ## Tables that take everything -/

theorem insertRegions_ok (hIds : (rs.map Region.id).Nodup) :
    ∃ db, rs.foldlM insertRegion empty = .ok db ∧ db.Holds ⟨⟨rs, [], [], [], []⟩, []⟩ := by
  refine foldlM_takes (fun (db : Database) rs => db.Holds ⟨⟨rs, [], [], [], []⟩, []⟩)
    (fun _ _ _ _ h => insertRegion_holds h) ?_ holds_empty
  intro db done r rest hSplit h
  have hNew : r.id ∉ db.regions.map Region.id := by
    rw [(h.regions.map _).mem_iff]
    exact key_ne_of_nodup (hSplit ▸ hIds)
  exact ⟨_, bind_eq_ok.mpr ⟨(), require_eq_ok.mpr (not_any_key hNew), rfl⟩⟩

theorem insertProvinces_ok (h : db.Holds ⟨⟨rs, [], [], [], []⟩, []⟩)
    (hIds : (ps.map Province.id).Nodup) (hParents : ∀ p ∈ ps, ∃ r ∈ rs, r.id = p.regionId) :
    ∃ db', ps.foldlM insertProvince db = .ok db' ∧ db'.Holds ⟨⟨rs, ps, [], [], []⟩, []⟩ := by
  refine foldlM_takes (fun (db : Database) ps => db.Holds ⟨⟨rs, ps, [], [], []⟩, []⟩)
    (fun _ _ _ _ h => insertProvince_holds h) ?_ h
  intro db done p rest hSplit h
  have hNew : p.id ∉ db.provinces.map Province.id := by
    rw [(h.provinces.map _).mem_iff]
    exact key_ne_of_nodup (hSplit ▸ hIds)
  have hParent : ∃ r ∈ db.regions, r.id = p.regionId := by
    obtain ⟨r, hr, hId⟩ := hParents p (by simp [hSplit])
    exact ⟨r, h.regions.mem_iff.mpr hr, hId⟩
  exact ⟨_, bind_eq_ok.mpr ⟨(), require_eq_ok.mpr (not_any_key hNew),
    bind_eq_ok.mpr ⟨(), require_eq_ok.mpr (any_key hParent), rfl⟩⟩⟩

theorem insertMunicipalities_ok (h : db.Holds ⟨⟨rs, ps, [], [], []⟩, []⟩)
    (hIds : (ms.map Municipality.id).Nodup) (hParents : ∀ m ∈ ms, ∃ p ∈ ps, p.id = m.provinceId) :
    ∃ db', ms.foldlM insertMunicipality db = .ok db' ∧
      db'.Holds ⟨⟨rs, ps, ms, [], []⟩, []⟩ := by
  refine foldlM_takes (fun (db : Database) ms => db.Holds ⟨⟨rs, ps, ms, [], []⟩, []⟩)
    (fun _ _ _ _ h => insertMunicipality_holds h) ?_ h
  intro db done m rest hSplit h
  have hNew : m.id ∉ db.municipalities.map Municipality.id := by
    rw [(h.municipalities.map _).mem_iff]
    exact key_ne_of_nodup (hSplit ▸ hIds)
  have hParent : ∃ p ∈ db.provinces, p.id = m.provinceId := by
    obtain ⟨p, hp, hId⟩ := hParents m (by simp [hSplit])
    exact ⟨p, h.provinces.mem_iff.mpr hp, hId⟩
  exact ⟨_, bind_eq_ok.mpr ⟨(), require_eq_ok.mpr (not_any_key hNew),
    bind_eq_ok.mpr ⟨(), require_eq_ok.mpr (any_key hParent), rfl⟩⟩⟩

theorem insertRepresentatives_ok (h : db.Holds ⟨⟨rs, ps, ms, ds, ss⟩, []⟩)
    (hIds : (reps.map Representative.id).Nodup)
    (hParents : ∀ r ∈ reps, ∃ m ∈ ms, m.id = r.municipalityId) (hFit : ∀ r ∈ reps, r.Fits) :
    ∃ db', reps.foldlM insertRepresentative db = .ok db' ∧
      db'.Holds ⟨⟨rs, ps, ms, ds, ss⟩, reps⟩ := by
  refine foldlM_takes (fun (db : Database) reps => db.Holds ⟨⟨rs, ps, ms, ds, ss⟩, reps⟩)
    (fun _ _ _ _ h => insertRepresentative_holds h) ?_ h
  intro db done r rest hSplit h
  have hMem : r ∈ reps := by simp [hSplit]
  obtain ⟨row, hRow, hId, hMunicipality⟩ :=
    RepresentativeRow.ofRepresentative_of_fits (hFit r hMem)
  have hNew : row.id ∉ db.representativeRows.map RepresentativeRow.id := by
    rw [h.representativeIds.mem_iff, hId]
    exact key_ne_of_nodup (hSplit ▸ hIds)
  have hParent : db.municipalityExists row.municipalityId = true := by
    rw [hMunicipality]
    exact h.municipalityExists (hParents r hMem)
  exact ⟨_, bind_eq_ok.mpr ⟨row, hRow, bind_eq_ok.mpr ⟨(), require_eq_ok.mpr (not_any_key hNew),
    bind_eq_ok.mpr ⟨(), require_eq_ok.mpr hParent, rfl⟩⟩⟩⟩

/-! ## Tables that refuse -/

/-- Whether the rows of districts are those of the records, number by number. -/
def ListsDistricts (db : Database) (ds : List District) : Prop :=
  db.districtRows = ds.map DistrictRow.plain

theorem ListsDistricts.any_key (h : db.ListsDistricts ds) (d : District) :
    (db.districtRows.any fun x => decide (x.municipalityId = d.municipalityId) &&
      decide (x.number = (d.number : Int))) = true ↔ ∃ x ∈ ds, x.key = d.key := by
  rw [h, List.any_map, List.any_eq_true]
  refine exists_congr fun x => and_congr_right fun _ => ?_
  change (decide (x.municipalityId = d.municipalityId) && decide ((x.number : Int) = d.number)) =
    true ↔ _
  rw [Bool.and_eq_true, decide_eq_true_eq, decide_eq_true_eq, Int.natCast_inj, District.key,
    District.key, Prod.mk.injEq]

/-- The next district is taken if it is storable beside those before it. -/
theorem insertDistrict_of_storable (h : db.Holds ⟨⟨rs, ps, ms, ds, []⟩, []⟩)
    (hRows : db.ListsDistricts ds) (hDone : StorableDistricts ds) {d : District}
    (hParent : ∃ m ∈ ms, m.id = d.municipalityId) (hNext : StorableDistricts (ds ++ [d])) :
    ∃ db', db.insertDistrict d = .ok db' ∧ db'.Holds ⟨⟨rs, ps, ms, ds ++ [d], []⟩, []⟩ ∧
      db'.ListsDistricts (ds ++ [d]) := by
  obtain ⟨hFits, hPositive, hNew⟩ := (storableDistricts_concat hDone).mp hNext
  have hRow : DistrictRow.ofDistrict d = .ok (.plain d) := by
    rw [DistrictRow.ofDistrict_of_fits hFits, if_pos hPositive]
  have hFree : (!db.districtRows.any fun x => decide (x.municipalityId = d.municipalityId) &&
      decide (x.number = (d.number : Int))) = true := by
    rw [Bool.not_eq_true', Bool.eq_false_iff]
    intro hTaken
    obtain ⟨x, hx, hKey⟩ := (hRows.any_key d).mp hTaken
    exact hNew x hx hKey
  have hStep : db.insertDistrict d = .ok { db with
      districtRows := db.districtRows ++ [.plain d] } :=
    bind_eq_ok.mpr ⟨_, hRow, bind_eq_ok.mpr ⟨(), require_eq_ok.mpr hFree,
      bind_eq_ok.mpr ⟨(), require_eq_ok.mpr (h.municipalityExists hParent), rfl⟩⟩⟩
  refine ⟨_, hStep, insertDistrict_holds h hStep, ?_⟩
  rw [ListsDistricts, List.map_append, ← hRows]
  rfl

/-- Otherwise it is refused: for its size first, then for its number, then for its key. -/
theorem insertDistrict_of_not_storable (hRows : db.ListsDistricts ds) (hDone : StorableDistricts ds)
    {d : District} (hNot : ¬StorableDistricts (ds ++ [d])) :
    ∃ e, db.insertDistrict d = .error e ∧ e.Tells d.Fits := by
  rw [insertDistrict]
  by_cases hFits : d.Fits
  · by_cases hPositive : 0 < d.number
    · have hTaken : (db.districtRows.any fun x => decide (x.municipalityId = d.municipalityId) &&
          decide (x.number = (d.number : Int))) = true := by
        -- it fits and is positive, so only its key can be what is wrong with it
        by_contra hFree
        refine hNot ((storableDistricts_concat hDone).mpr ⟨hFits, hPositive, fun x hx hKey => ?_⟩)
        exact hFree ((hRows.any_key d).mpr ⟨x, hx, hKey⟩)
      have hRow : DistrictRow.ofDistrict d = .ok (.plain d) := by
        rw [DistrictRow.ofDistrict_of_fits hFits, if_pos hPositive]
      rw [bind_of_eq_ok hRow]
      refine ⟨repeatedKey "districts.municipality_id, districts.number", ?_, .inl ⟨hFits, _, rfl⟩⟩
      refine bind_of_eq_error ?_ _
      rw [DistrictRow.plain, hTaken]
      rfl
    · rw [DistrictRow.ofDistrict_of_fits hFits, if_neg hPositive]
      exact ⟨notPositive, rfl, .inl ⟨hFits, _, rfl⟩⟩
  · obtain ⟨reason, hReason⟩ := DistrictRow.ofDistrict_of_not_fits hFits
    exact ⟨_, bind_of_eq_error hReason _, .inr ⟨hFits, reason, rfl⟩⟩

/-- The districts of stored municipalities are taken up to the first that is not storable. -/
theorem insertDistricts_outcome (h : db.Holds ⟨⟨rs, ps, ms, [], []⟩, []⟩)
    (hParents : ∀ d ∈ ds, ∃ m ∈ ms, m.id = d.municipalityId) :
    (StorableDistricts ds ∧ ∃ db', ds.foldlM insertDistrict db = .ok db' ∧
      db'.Holds ⟨⟨rs, ps, ms, ds, []⟩, []⟩ ∧ db'.ListsDistricts ds) ∨
    ∃ d e, FirstRefused StorableDistricts ds d ∧ ds.foldlM insertDistrict db = .error e ∧
      e.Tells d.Fits := by
  refine foldlM_of_refusals
    (fun (db : Database) ds => db.Holds ⟨⟨rs, ps, ms, ds, []⟩, []⟩ ∧ db.ListsDistricts ds)
    StorableDistricts (fun d (e : StorageError) => e.Tells d.Fits) ?_ ?_ ⟨h, ?_⟩
    ⟨by simp, by simp, by simp⟩
  · rintro db done d rest hSplit ⟨h, hRows⟩ hDone hNext
    exact insertDistrict_of_storable h hRows hDone (hParents d (by simp [hSplit])) hNext
  · rintro db done d rest - ⟨-, hRows⟩ hDone hNot
    exact insertDistrict_of_not_storable hRows hDone hNot
  · have hNone : db.districtRows = [] := Decodes.eq_nil ⟨_, h.districts, .refl _⟩ rfl
    rw [ListsDistricts, hNone]
    rfl

/-- The sections of stored municipalities are taken up to the first that is not storable. -/
theorem insertSections_outcome (h : db.Holds ⟨⟨rs, ps, ms, ds, []⟩, []⟩)
    (hIds : (ss.map PollingSection.id).Nodup)
    (hParents : ∀ s ∈ ss, ∃ m ∈ ms, m.id = s.municipalityId) :
    (StorableSections ss ∧ ∃ db', ss.foldlM insertSection db = .ok db' ∧
      db'.Holds ⟨⟨rs, ps, ms, ds, ss⟩, []⟩) ∨
    ∃ s e, FirstRefused StorableSections ss s ∧ ss.foldlM insertSection db = .error e ∧
      e.Tells s.Fits := by
  refine foldlM_of_refusals (fun (db : Database) ss => db.Holds ⟨⟨rs, ps, ms, ds, ss⟩, []⟩)
    StorableSections (fun s (e : StorageError) => e.Tells s.Fits) ?_ ?_ h ⟨by simp, by simp⟩
  · intro db done s rest hSplit h hDone hNext
    obtain ⟨hFits, hPositive⟩ := (storableSections_concat hDone).mp hNext
    have hRow : PollingSectionRow.ofSection s = .ok (.plain s) := by
      rw [PollingSectionRow.ofSection_of_fits hFits, if_pos hPositive]
    have hNew : s.id ∉ db.sectionRows.map PollingSectionRow.id := by
      rw [h.sectionIds.mem_iff]
      exact key_ne_of_nodup (hSplit ▸ hIds)
    have hParent := h.municipalityExists (hParents s (by simp [hSplit]))
    have hStep : db.insertSection s = .ok { db with
        sectionRows := insertBy (compareOn PollingSectionRow.id) (.plain s) db.sectionRows } :=
      bind_eq_ok.mpr ⟨_, hRow, bind_eq_ok.mpr ⟨(), require_eq_ok.mpr (not_any_key hNew),
        bind_eq_ok.mpr ⟨(), require_eq_ok.mpr hParent, rfl⟩⟩⟩
    exact ⟨_, hStep, insertSection_holds h hStep⟩
  · rintro db done s rest - - hDone hNot
    -- sections have no key but their identifier, so the row itself is refused
    rw [insertSection]
    by_cases hFits : s.Fits
    · have hZero : ¬0 < s.number := fun hPositive =>
        hNot ((storableSections_concat hDone).mpr ⟨hFits, hPositive⟩)
      rw [PollingSectionRow.ofSection_of_fits hFits, if_neg hZero]
      exact ⟨notPositive, rfl, .inl ⟨hFits, _, rfl⟩⟩
    · obtain ⟨reason, hReason⟩ := PollingSectionRow.ofSection_of_not_fits hFits
      exact ⟨_, bind_of_eq_error hReason _, .inr ⟨hFits, reason, rfl⟩⟩

/-! ## Loading as a whole -/

/-- **What becomes of consistent data.** The empty database takes all of it, or stops at the first
record that a table refuses. -/
theorem insertAll_outcome {d : ReferenceData} (h : d.Consistent) :
    (d.Storable ∧ ∃ db, empty.insertAll d = .ok db) ∨
    (d.BreaksRule ∧ ∃ reason, empty.insertAll d = .error (.database reason)) ∨
    (d.Overflows ∧ ∃ reason, empty.insertAll d = .error (.invalidReferenceData reason)) := by
  obtain ⟨db₁, h₁, hRegions⟩ := insertRegions_ok h.regionIds
  obtain ⟨db₂, h₂, hProvinces⟩ := insertProvinces_ok hRegions h.provinceIds h.region_of
  obtain ⟨db₃, h₃, hMunicipalities⟩ :=
    insertMunicipalities_ok hProvinces h.municipalityIds h.province_of
  rw [insertAll, bind_of_eq_ok h₁, bind_of_eq_ok h₂, bind_of_eq_ok h₃]
  -- identifiers and parents are in order, so districts are the first that can be refused
  rcases insertDistricts_outcome hMunicipalities h.districts with
    ⟨hDistricts, db₄, h₄, hHolds₄, -⟩ | ⟨x, e, hRefused, hFold, hTells⟩
  · rw [bind_of_eq_ok h₄]
    rcases insertSections_outcome hHolds₄ h.sectionIds h.sections with
      ⟨hSections, db₅, h₅, hHolds₅⟩ | ⟨s, e, hRefused, hFold, hTells⟩
    · -- the districts that representatives declared are stored by now, so they fit
      have hFit : ∀ r ∈ d.representatives, r.Fits := by
        intro r hr number hNumber
        obtain ⟨x, hx, rfl⟩ := h.declared r hr number hNumber
        exact hDistricts.fit x hx
      obtain ⟨db₆, h₆, -⟩ :=
        insertRepresentatives_ok hHolds₅ h.representativeIds h.representatives hFit
      rw [bind_of_eq_ok h₅, h₆]
      exact .inl ⟨⟨hDistricts, hSections⟩, db₆, rfl⟩
    · rw [bind_of_eq_error hFold]
      rcases hTells with ⟨hFits, reason, rfl⟩ | ⟨hLarge, reason, rfl⟩
      · exact .inr (.inl ⟨.inr ⟨hDistricts, s, hRefused, hFits⟩, reason, rfl⟩)
      · exact .inr (.inr ⟨.inr ⟨hDistricts, s, hRefused, hLarge⟩, reason, rfl⟩)
  · rw [bind_of_eq_error hFold]
    rcases hTells with ⟨hFits, reason, rfl⟩ | ⟨hLarge, reason, rfl⟩
    · exact .inr (.inl ⟨.inl ⟨x, hRefused, hFits⟩, reason, rfl⟩)
    · exact .inr (.inr ⟨.inl ⟨x, hRefused, hLarge⟩, reason, rfl⟩)

end Database

end PollRoster
