import PollRoster.Proofs.Database.Reachable

/-!
# Rows and their parents

The tables refuse a row that names a row which is not stored, and no row is taken away that others
name. So the parents of all rows are stored, in particular the section and the representative of
every assignment. A database without regions therefore has nothing in it at all; only the counter of
its identifiers may have moved, which loading neither reads nor changes.

Main results:

* `Reachable.hasParents` — whatever is loaded and called, every row has its parents.
* `HasParents.isBlank` — without regions there are no rows.
* `insertAll_withNextId` — loading leaves the counter of identifiers alone.
-/

namespace PollRoster.Database

/-! ## Parents -/

/-- Whether every row that a row names is stored. -/
structure HasParents (db : Database) : Prop where
  provinces : ∀ p ∈ db.provinces, ∃ r ∈ db.regions, r.id = p.regionId
  municipalities : ∀ m ∈ db.municipalities, ∃ p ∈ db.provinces, p.id = m.provinceId
  districts : ∀ x ∈ db.districtRows, ∃ m ∈ db.municipalities, m.id = x.municipalityId
  sections : ∀ s ∈ db.sectionRows, ∃ m ∈ db.municipalities, m.id = s.municipalityId
  representatives : ∀ r ∈ db.representativeRows, ∃ m ∈ db.municipalities, m.id = r.municipalityId
  assignments : ∀ a ∈ db.assignmentRows,
    (∃ s ∈ db.sectionRows, s.id = a.sectionId) ∧
      ∃ r ∈ db.representativeRows, r.id = a.representativeId

/-- The records of the territory that a healthy database keeps are those of its rows. -/
theorem Healthy.data {db : Database} {l : Ledger} (h : db.Healthy l) :
    ∃ data, db.territoryData = .ok data ∧ Territory.ofData data = l.territory ∧
      data.regions = db.regions ∧ data.provinces = db.provinces ∧
      data.municipalities = db.municipalities ∧
      db.districtRows.mapM DistrictRow.toDistrict = .ok data.districts ∧
      db.sectionRows.mapM PollingSectionRow.toSection = .ok data.sections := by
  obtain ⟨data, hData, hTerritory⟩ := map_eq_ok.mp h.keeps.territory
  obtain ⟨districts, hDistricts, hRest⟩ := bind_eq_ok.mp hData
  obtain ⟨sections, hSections, hEq⟩ := bind_eq_ok.mp hRest
  obtain rfl := Except.ok.inj hEq
  exact ⟨_, hData, hTerritory, rfl, rfl, rfl, hDistricts, hSections⟩

/-- What is found in the ledger of a healthy database has a row. -/
theorem Healthy.exists_sectionRow {db : Database} {l : Ledger} (h : db.Healthy l) {id : Int}
    (hKnown : (l.territory.section? id).isSome) : ∃ s ∈ db.sectionRows, s.id = id := by
  rw [← h.keeps.sectionExists, sectionExists, List.any_eq_true] at hKnown
  obtain ⟨row, hRow, hId⟩ := hKnown
  exact ⟨row, hRow, of_decide_eq_true hId⟩

theorem Healthy.exists_representativeRow {db : Database} {l : Ledger} (h : db.Healthy l) {id : Int}
    (hKnown : (l.representative? id).isSome) : ∃ r ∈ db.representativeRows, r.id = id := by
  rw [← h.keeps.representativeExists, List.any_eq_true] at hKnown
  obtain ⟨row, hRow, hId⟩ := hKnown
  exact ⟨row, hRow, of_decide_eq_true hId⟩

/-- Parents of records are parents of rows, since decoding keeps all identifiers. -/
theorem Healthy.hasParents {db : Database} {l : Ledger} (h : db.Healthy l) : db.HasParents := by
  obtain ⟨data, -, hTerritory, hRegions, hProvinces, hMunicipalities, hDistricts, hSections⟩ :=
    h.data
  have hGiven : Territory.SameRecords l.territory ⟨data⟩ :=
    hTerritory ▸ Territory.sameRecords_given data
  have hWell := h.sound.territory.of_sameRecords hGiven
  -- a place is more than its municipality, but the rows refer to the latter only
  have hMunicipality : ∀ {id number}, (⟨data⟩ : Territory).HasPlace id number →
      ∃ m ∈ db.municipalities, m.id = id := by
    rintro id number ⟨m, hm, hId, -⟩
    exact ⟨m, hMunicipalities ▸ hm, hId⟩
  refine ⟨fun p hp => ?_, fun m hm => ?_, fun row hRow => ?_, fun row hRow => ?_,
    fun row hRow => ?_, fun row hRow => ?_⟩
  · rw [← hProvinces] at hp
    rw [← hRegions]
    exact hWell.region_of p hp
  · rw [← hMunicipalities] at hm
    rw [← hProvinces]
    exact hWell.province_of m hm
  · obtain ⟨x, hx, hDecode⟩ := exists_of_mapM_eq_ok hDistricts hRow
    obtain ⟨number, -, hDecode⟩ := bind_eq_ok.mp hDecode
    have hPlace := hMunicipality (hWell.districts x hx)
    rwa [← Except.ok.inj hDecode] at hPlace
  · obtain ⟨s, hs, hDecode⟩ := exists_of_mapM_eq_ok hSections hRow
    obtain ⟨number, -, hDecode⟩ := bind_eq_ok.mp hDecode
    obtain ⟨district, -, hDecode⟩ := bind_eq_ok.mp hDecode
    obtain ⟨electors, -, hDecode⟩ := bind_eq_ok.mp hDecode
    have hPlace := hMunicipality (hWell.sections s hs)
    rwa [← Except.ok.inj hDecode] at hPlace
  · obtain ⟨r, hr, hDecode⟩ := exists_of_mapM_eq_ok h.keeps.representatives hRow
    obtain ⟨district, -, hDecode⟩ := bind_eq_ok.mp hDecode
    have hHouses := h.sound.representatives.of_sameRecords hGiven (.refl _)
    have hPlace := hMunicipality (hHouses.places r hr)
    rwa [← Except.ok.inj hDecode] at hPlace
  · rw [h.keeps.assignmentRows] at hRow
    obtain ⟨a, ha, rfl⟩ := List.mem_map.mp hRow
    obtain ⟨hSection, hRepresentative⟩ := h.sound.grounded a ha
    exact ⟨h.exists_sectionRow hSection, h.exists_representativeRow hRepresentative⟩

/-- **Rows have their parents.** -/
theorem Reachable.hasParents {db : Database} (h : Reachable db) : db.HasParents := by
  obtain ⟨l, hl⟩ := h.healthy
  exact hl.hasParents

/-! ## Blank databases -/

/-- The database with another counter of identifiers. -/
def withNextId (n : Int) (db : Database) : Database := { db with nextId := n }

/-- Whether a database has no rows. Identifiers may have been used up before. -/
def IsBlank (db : Database) : Prop := db = withNextId db.nextId empty

/-- Without regions there are no rows, from the top of the territory down. -/
theorem HasParents.isBlank {db : Database} (h : db.HasParents) (hUnseeded : db.isSeeded = false) :
    db.IsBlank := by
  -- each table is empty because the one that its rows refer to is
  have hRegions : db.regions = [] := by simpa [isSeeded] using hUnseeded
  have hProvinces := eq_nil_of_parents h.provinces hRegions
  have hMunicipalities := eq_nil_of_parents h.municipalities hProvinces
  have hDistricts := eq_nil_of_parents h.districts hMunicipalities
  have hSections := eq_nil_of_parents h.sections hMunicipalities
  have hRepresentatives := eq_nil_of_parents h.representatives hMunicipalities
  have hAssignments := eq_nil_of_parents (fun a ha => (h.assignments a ha).1) hSections
  calc db
      = ⟨db.regions, db.provinces, db.municipalities, db.districtRows, db.sectionRows,
          db.representativeRows, db.assignmentRows, db.nextId⟩ := rfl
    _ = withNextId db.nextId empty := by
      rw [hRegions, hProvinces, hMunicipalities, hDistricts, hSections, hRepresentatives,
        hAssignments]
      rfl

/-! ## Loading beside the counter -/

section Counter

variable (n : Int)

theorem insertRegion_withNextId (db : Database) (r : Region) :
    insertRegion (db.withNextId n) r = (insertRegion db r).map (withNextId n) := by
  simp only [insertRegion, map_bind]
  rfl

theorem insertProvince_withNextId (db : Database) (p : Province) :
    insertProvince (db.withNextId n) p = (insertProvince db p).map (withNextId n) := by
  simp only [insertProvince, map_bind]
  rfl

theorem insertMunicipality_withNextId (db : Database) (m : Municipality) :
    insertMunicipality (db.withNextId n) m = (insertMunicipality db m).map (withNextId n) := by
  simp only [insertMunicipality, map_bind]
  rfl

theorem insertDistrict_withNextId (db : Database) (d : District) :
    insertDistrict (db.withNextId n) d = (insertDistrict db d).map (withNextId n) := by
  simp only [insertDistrict, map_bind]
  rfl

theorem insertSection_withNextId (db : Database) (s : PollingSection) :
    insertSection (db.withNextId n) s = (insertSection db s).map (withNextId n) := by
  simp only [insertSection, map_bind]
  rfl

theorem insertRepresentative_withNextId (db : Database) (r : Representative) :
    insertRepresentative (db.withNextId n) r =
      (insertRepresentative db r).map (withNextId n) := by
  simp only [insertRepresentative, map_bind]
  rfl

/-- Going on with a database that differs in the counter only. -/
theorem map_withNextId_bind (x : Except StorageError Database)
    {f : Database → Except StorageError Database}
    (hNext : ∀ db, f (withNextId n db) = (f db).map (withNextId n)) :
    (x.map (withNextId n) >>= f) = (x >>= f).map (withNextId n) := by
  cases x with
  | error e => rfl
  | ok db => exact hNext db

/-- **Loading leaves the counter of identifiers alone.** -/
theorem insertAll_withNextId (db : Database) (d : ReferenceData) :
    insertAll (db.withNextId n) d = (insertAll db d).map (withNextId n) := by
  simp only [insertAll]
  rw [foldlM_map (insertRegion_withNextId n)]
  refine map_withNextId_bind n _ fun db => ?_
  rw [foldlM_map (insertProvince_withNextId n)]
  refine map_withNextId_bind n _ fun db => ?_
  rw [foldlM_map (insertMunicipality_withNextId n)]
  refine map_withNextId_bind n _ fun db => ?_
  rw [foldlM_map (insertDistrict_withNextId n)]
  refine map_withNextId_bind n _ fun db => ?_
  rw [foldlM_map (insertSection_withNextId n)]
  refine map_withNextId_bind n _ fun db => ?_
  rw [foldlM_map (insertRepresentative_withNextId n)]

end Counter

/-- A load into a blank database does what it does to the empty one. -/
theorem IsBlank.insertAll {db : Database} (h : db.IsBlank) (d : ReferenceData) :
    db.insertAll d = (Database.empty.insertAll d).map (withNextId db.nextId) := by
  rw [← insertAll_withNextId, ← h]

end PollRoster.Database
