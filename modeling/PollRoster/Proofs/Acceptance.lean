import PollRoster.Proofs.Listing

/-!
# What validation accepts

Validation goes through the records of a territory kind by kind, in display order. Whether it
accepts them is a matter of the records alone: every identifier is used once, and whatever a record
refers to is recorded. Of districts it asks that their municipality is divided, and not that their
numbers are told apart, so two districts of one municipality may share a number.

Main results:

* `isConsistent_iff` — consistent records, in terms of a well-formed territory.
* `validate_eq_ok_iff` — validation accepts exactly the consistent records; the documented structure
  is that, and district numbers told apart.
* `twinDistricts_accepted` — records that are accepted, with two districts of one number.
-/

namespace PollRoster

namespace Territory

variable {t u : Territory}

/-! ## Districts of one municipality -/

/-- Districts are told apart as a whole exactly if the numbers of each municipality are. -/
theorem hasDistinctDistricts_iff :
    t.HasDistinctDistricts ↔ ∀ id, ((t.districtsOf id).map District.number).Nodup := by
  simp only [HasDistinctDistricts, List.Nodup, List.pairwise_map, districtsOf, List.pairwise_filter,
    decide_eq_true_eq]
  -- both sides speak of two districts that stand in the list one after the other
  simp only [List.pairwise_iff_forall_sublist]
  constructor
  · intro h id x y hSub hx hy hNumber
    exact h hSub (Prod.ext (hx.trans hy.symm) hNumber)
  · intro h x y hSub hKey
    obtain ⟨hMunicipality, hNumber⟩ := Prod.mk.inj hKey
    exact h x.municipalityId hSub rfl hMunicipality.symm hNumber

theorem HasDistinctDistricts.of_sameRecords (hSame : SameRecords t u)
    (h : t.HasDistinctDistricts) : u.HasDistinctDistricts :=
  (hSame.districts.map _).nodup_iff.mp h

end Territory

namespace TerritoryData

variable {d : TerritoryData}

/-! ## Consistent records -/

/-- Whether a municipality is recorded as divided into districts. -/
def IsDivided (d : TerritoryData) (municipalityId : Int) : Prop :=
  ∃ m ∈ d.municipalities, m.id = municipalityId ∧ m.isDistricted

/-- Whether identifiers are used once, and whatever a record refers to is recorded. Of the numbers
of districts nothing is asked. -/
structure IsConsistent (d : TerritoryData) : Prop where
  regionIds : (d.regions.map Region.id).Nodup
  provinceIds : (d.provinces.map Province.id).Nodup
  municipalityIds : (d.municipalities.map Municipality.id).Nodup
  sectionIds : (d.sections.map PollingSection.id).Nodup
  region_of : ∀ p ∈ d.provinces, ∃ r ∈ d.regions, r.id = p.regionId
  province_of : ∀ m ∈ d.municipalities, ∃ p ∈ d.provinces, p.id = m.provinceId
  municipality_of : ∀ s ∈ d.sections, ∃ m ∈ d.municipalities, m.id = s.municipalityId
  divided_of : ∀ x ∈ d.districts, d.IsDivided x.municipalityId
  district_of : ∀ s ∈ d.sections, ∀ number ∈ s.district, d.IsDivided s.municipalityId ∧
    ∃ x ∈ d.districts, x.municipalityId = s.municipalityId ∧ x.number = number

/-- The documented structure: consistent records in which no two districts of a municipality share a
number. -/
structure IsDocumented (d : TerritoryData) : Prop extends d.IsConsistent where
  districtNumbers : ∀ id,
    ((d.districts.filter (·.municipalityId = id)).map District.number).Nodup

theorem hasPlace_iff {municipalityId : Int} {district : Option Nat} :
    (⟨d⟩ : Territory).HasPlace municipalityId district ↔
      (∃ m ∈ d.municipalities, m.id = municipalityId) ∧
      ∀ number ∈ district, d.IsDivided municipalityId ∧
        ∃ x ∈ d.districts, x.municipalityId = municipalityId ∧ x.number = number := by
  constructor
  · rintro ⟨m, hm, hId, hDistrict⟩
    refine ⟨⟨m, hm, hId⟩, fun number hNumber => ?_⟩
    obtain ⟨hDivided, hFound⟩ := hDistrict number hNumber
    exact ⟨⟨m, hm, hId, hDivided⟩, hFound⟩
  · rintro ⟨⟨m, hm, hId⟩, hDistrict⟩
    cases district with
    | none => exact ⟨m, hm, hId, fun _ hNumber => (nomatch hNumber)⟩
    | some number =>
      -- the municipality that is divided may be another one with this identifier
      obtain ⟨⟨m', hm', hId', hDivided⟩, hFound⟩ := hDistrict number rfl
      refine ⟨m', hm', hId', fun n hn => ?_⟩
      rw [← Option.some.inj hn]
      exact ⟨hDivided, hFound⟩

/-- Records are consistent exactly if the territory of them is well-formed and no identifier of a
region repeats. -/
theorem isConsistent_iff :
    d.IsConsistent ↔ (d.regions.map Region.id).Nodup ∧ (⟨d⟩ : Territory).WellFormed := by
  constructor
  · intro h
    -- what is left to see is that districts are places themselves, and that sections are at some
    refine ⟨h.regionIds, h.provinceIds, h.municipalityIds, h.sectionIds, h.region_of,
      h.province_of, fun x hx => ?_, fun s hs => ?_⟩
    · obtain ⟨m, hm, hId, hDivided⟩ := h.divided_of x hx
      refine hasPlace_iff.mpr ⟨⟨m, hm, hId⟩, fun number hNumber => ?_⟩
      exact ⟨⟨m, hm, hId, hDivided⟩, x, hx, rfl, Option.some.inj hNumber⟩
    · exact hasPlace_iff.mpr ⟨h.municipality_of s hs, h.district_of s hs⟩
  · rintro ⟨hRegionIds, h⟩
    exact {
      regionIds := hRegionIds
      provinceIds := h.provinceIds
      municipalityIds := h.municipalityIds
      sectionIds := h.sectionIds
      region_of := h.region_of
      province_of := h.province_of
      municipality_of := fun s hs => (hasPlace_iff.mp (h.sections s hs)).1
      divided_of := fun x hx => ((hasPlace_iff.mp (h.districts x hx)).2 x.number rfl).1
      district_of := fun s hs => (hasPlace_iff.mp (h.sections s hs)).2 }

theorem isDocumented_iff :
    d.IsDocumented ↔ d.IsConsistent ∧ (⟨d⟩ : Territory).HasDistinctDistricts := by
  rw [Territory.hasDistinctDistricts_iff]
  exact ⟨fun h => ⟨h.toIsConsistent, h.districtNumbers⟩, fun ⟨h, hNumbers⟩ => ⟨h, hNumbers⟩⟩

/-! ## Validation -/

/-- **Acceptance.** In whatever order the records are given, validation accepts them exactly if they
are consistent. They have the documented structure exactly if they are accepted and their districts
are told apart. -/
theorem validate_eq_ok_iff (d : TerritoryData) :
    ((Territory.ofData d).validate = .ok () ↔ d.IsConsistent) ∧
      (d.IsDocumented ↔ (Territory.ofData d).validate = .ok () ∧
        (Territory.ofData d).HasDistinctDistricts) := by
  have hGiven := Territory.sameRecords_given d
  have hAccepted : (Territory.ofData d).validate = .ok () ↔ d.IsConsistent := by
    rw [isConsistent_iff]
    constructor
    · intro h
      refine ⟨?_, (Territory.validate_wellFormed h).of_sameRecords hGiven⟩
      exact (hGiven.regions.map _).nodup_iff.mp (Territory.regionIds_of_validate h)
    · rintro ⟨hRegionIds, h⟩
      refine (h.of_sameRecords hGiven.symm).validate ?_
      exact (hGiven.regions.map _).nodup_iff.mpr hRegionIds
  refine ⟨hAccepted, ?_⟩
  rw [hAccepted, isDocumented_iff]
  exact and_congr_right fun _ => ⟨.of_sameRecords hGiven.symm, .of_sameRecords hGiven⟩

/-- Two districts of one municipality with one number, and a section that names it. -/
def twinDistricts : TerritoryData where
  regions := [⟨1, "Lazio"⟩]
  provinces := [⟨1, 1, "Roma", "RM"⟩]
  municipalities := [⟨1, 1, "Velletri", true⟩]
  districts := [⟨1, 1, "Centro"⟩, ⟨1, 1, "Colle"⟩]
  sections := [⟨1, 1, "Scuola", "Via Roma 1", 1, some 1, true, 500⟩]

/-- **Twin districts are accepted**, though they are not told apart. -/
theorem twinDistricts_accepted :
    ¬((Territory.ofData twinDistricts).validate = .ok () ↔ twinDistricts.IsDocumented) := by
  intro h
  have hNumbers := (h.mp (by rfl)).districtNumbers 1
  exact absurd hNumbers (by decide)

end TerritoryData

end PollRoster
