import PollRoster.Proofs.Territory
import PollRoster.ReferenceData

/-!
# Sound reference data

Reference data that passes validation is well-formed, and stays so when its records come in another
order. Nothing that is proved of a territory depends on the order in which a store hands its records
back.

Main results:

* `validate_wellFormed`, `WellFormed.validate` — what passes validation is well-formed, and the
  other way round.
* `validate_sound` — validated data makes a well-formed territory that houses the representatives.
* `WellFormed.of_sameRecords`, `Houses.of_sameRecords` — the order of the records does not matter.
-/

namespace PollRoster

namespace Territory

/-! ## Representatives of a territory -/

/-- Whether the representatives are distinct and declared recorded places. -/
structure Houses (t : Territory) (representatives : List Representative) : Prop where
  ids : (representatives.map Representative.id).Nodup
  places : ∀ r ∈ representatives, t.HasPlace r.municipalityId r.district

/-! ## Validation -/

theorem HasPlace.of_municipality {t : Territory} {municipalityId : Int}
    (h : (t.municipality? municipalityId).isSome) : t.HasPlace municipalityId none := by
  obtain ⟨m, hm, hId⟩ := municipality?_isSome.mp h
  exact ⟨m, hm, hId, fun number hNumber => (nomatch hNumber)⟩

theorem checkDistrict_eq_ok {t : Territory} {d : District} {u : Unit} (hMem : d ∈ t.districts)
    (h : t.checkDistrict d = .ok u) : t.HasPlace d.municipalityId (some d.number) := by
  rw [checkDistrict, require_eq_ok] at h
  cases hm : t.municipality? d.municipalityId with
  | none => simp [hm] at h
  | some m =>
    have hSplit : m.isDistricted := by simpa [hm] using h
    obtain ⟨hIn, hId⟩ := municipality?_eq_some hm
    refine ⟨m, hIn, hId, fun number hNumber => ⟨hSplit, d, hMem, rfl, ?_⟩⟩
    exact Option.some.inj hNumber

theorem checkSection_eq_ok {t : Territory} {s : PollingSection} {u : Unit}
    (h : t.checkSection s = .ok u) : t.HasPlace s.municipalityId s.district := by
  rw [checkSection] at h
  split at h
  · exact nomatch h
  next m hm =>
    obtain ⟨hIn, hId⟩ := municipality?_eq_some hm
    split at h
    next hNone =>
      rw [hNone]
      exact ⟨m, hIn, hId, fun number hNumber => (nomatch hNumber)⟩
    next number hDistrict =>
      obtain ⟨_, hSplit, hFound⟩ := bind_eq_ok.mp h
      refine ⟨m, hIn, hId, fun n hn => ?_⟩
      obtain rfl : number = n := Option.some.inj (hDistrict.symm.trans hn)
      rw [require_eq_ok] at hSplit hFound
      rw [← hId]
      exact ⟨hSplit, district?_isSome.mp hFound⟩

theorem validate_wellFormed {t : Territory} {u : Unit} (h : t.validate = .ok u) :
    t.WellFormed := by
  rw [validate] at h
  -- regions have no parents, so of their check nothing is needed
  obtain ⟨_, -, h⟩ := bind_eq_ok.mp h
  obtain ⟨_, hProvinces, h⟩ := bind_eq_ok.mp h
  obtain ⟨_, hMunicipalities, h⟩ := bind_eq_ok.mp h
  obtain ⟨_, hDistricts, hSections⟩ := bind_eq_ok.mp h
  obtain ⟨hProvinceIds, -, hRegionOf⟩ := checkRecords_eq_ok hProvinces
  obtain ⟨hMunicipalityIds, -, hProvinceOf⟩ := checkRecords_eq_ok hMunicipalities
  obtain ⟨hSectionIds, -, hPlaces⟩ := checkRecords_eq_ok hSections
  refine ⟨hProvinceIds, hMunicipalityIds, hSectionIds, fun p hp => ?_, fun m hm => ?_,
    fun d hd => ?_, fun s hs => checkSection_eq_ok (hPlaces s hs)⟩
  · exact region?_isSome.mp (require_eq_ok.mp (hRegionOf p hp))
  · exact province?_isSome.mp (require_eq_ok.mp (hProvinceOf m hm))
  · exact checkDistrict_eq_ok hd (forM_eq_ok.mp hDistricts d hd)

theorem regionIds_of_validate {t : Territory} {u : Unit} (h : t.validate = .ok u) :
    (t.regions.map Region.id).Nodup := by
  rw [validate] at h
  obtain ⟨_, hRegions, -⟩ := bind_eq_ok.mp h
  exact (checkRecords_eq_ok hRegions).1

/-- A recorded place is found as it is recorded. -/
theorem HasPlace.municipality? {t : Territory}
    (hIds : (t.municipalities.map Municipality.id).Nodup) {municipalityId : Int}
    {district : Option Nat} (h : t.HasPlace municipalityId district) :
    ∃ m, t.municipality? municipalityId = some m ∧ m.id = municipalityId ∧
      ∀ number ∈ district, m.isDistricted ∧ (t.district? municipalityId number).isSome := by
  obtain ⟨m, hm, hId, hDistrict⟩ := h
  have hFirst : t.municipality? municipalityId = some m :=
    (municipality?_eq t municipalityId).trans ((findLast?_key_eq_some_iff hIds).mpr ⟨hm, hId⟩)
  refine ⟨m, hFirst, hId, fun number hNumber => ?_⟩
  obtain ⟨hSplit, hFound⟩ := hDistrict number hNumber
  exact ⟨hSplit, district?_isSome.mpr hFound⟩

theorem WellFormed.checkDistrict {t : Territory} (h : t.WellFormed) {d : District}
    (hd : d ∈ t.districts) : t.checkDistrict d = .ok () := by
  obtain ⟨m, hm, -, hDistrict⟩ := (h.districts d hd).municipality? h.municipalityIds
  rw [Territory.checkDistrict, require_eq_ok, hm]
  exact (hDistrict d.number rfl).1

theorem WellFormed.checkSection {t : Territory} (h : t.WellFormed) {s : PollingSection}
    (hs : s ∈ t.sections) : t.checkSection s = .ok () := by
  obtain ⟨m, hm, hId, hDistrict⟩ := (h.sections s hs).municipality? h.municipalityIds
  rw [Territory.checkSection, hm]
  cases hNumber : s.district with
  | none => rfl
  | some number =>
    obtain ⟨hSplit, hFound⟩ := hDistrict number hNumber
    refine bind_eq_ok.mpr ⟨(), require_eq_ok.mpr hSplit, ?_⟩
    rw [hId]
    exact require_eq_ok.mpr hFound

/-- A well-formed territory passes validation, if no identifier of a region repeats. -/
theorem WellFormed.validate {t : Territory} (h : t.WellFormed)
    (hRegionIds : (t.regions.map Region.id).Nodup) : t.validate = .ok () := by
  rw [Territory.validate]
  refine bind_eq_ok.mpr ⟨(), checkRecords_of_nodup hRegionIds nofun fun _ _ => rfl, ?_⟩
  refine bind_eq_ok.mpr ⟨(), checkRecords_of_nodup h.provinceIds nofun fun p hp => ?_, ?_⟩
  · exact require_eq_ok.mpr (region?_isSome.mpr (h.region_of p hp))
  refine bind_eq_ok.mpr ⟨(), checkRecords_of_nodup h.municipalityIds nofun fun m hm => ?_, ?_⟩
  · exact require_eq_ok.mpr (province?_isSome.mpr (h.province_of m hm))
  refine bind_eq_ok.mpr ⟨(), forM_eq_ok.mpr fun d hd => h.checkDistrict hd, ?_⟩
  exact checkRecords_of_nodup h.sectionIds nofun fun s hs => h.checkSection hs

/-- The municipality of a recorded district is split into districts, though a representative is
checked for the district alone. -/
theorem validateRepresentative_eq_ok {t : Territory} (hWell : t.WellFormed) {r : Representative}
    {u : Unit} (h : t.validateRepresentative r = .ok u) :
    t.HasPlace r.municipalityId r.district := by
  rw [validateRepresentative] at h
  obtain ⟨_, -, h⟩ := bind_eq_ok.mp h
  obtain ⟨_, hMunicipality, h⟩ := bind_eq_ok.mp h
  rw [require_eq_ok] at hMunicipality
  split at h
  next hNone =>
    rw [hNone]
    exact .of_municipality hMunicipality
  next number hDistrict =>
    rw [require_eq_ok] at h
    obtain ⟨d, hd, hOf, hNumber⟩ := district?_isSome.mp h
    rw [hDistrict, ← hOf, ← hNumber]
    exact hWell.districts d hd

/-! ## The order of the records -/

/-- Whether two territories have the same records, perhaps in another order. -/
structure SameRecords (t u : Territory) : Prop where
  regions : t.regions.Perm u.regions
  provinces : t.provinces.Perm u.provinces
  municipalities : t.municipalities.Perm u.municipalities
  districts : t.districts.Perm u.districts
  sections : t.sections.Perm u.sections

theorem SameRecords.symm {t u : Territory} (h : SameRecords t u) : SameRecords u t :=
  ⟨h.regions.symm, h.provinces.symm, h.municipalities.symm, h.districts.symm, h.sections.symm⟩

/-- Records given in another order make the same territory up to the order. -/
theorem sameRecords_ofData {d e : TerritoryData} (hRegions : d.regions.Perm e.regions)
    (hProvinces : d.provinces.Perm e.provinces)
    (hMunicipalities : d.municipalities.Perm e.municipalities)
    (hDistricts : d.districts.Perm e.districts) (hSections : d.sections.Perm e.sections) :
    SameRecords (.ofData d) (.ofData e) where
  regions := (sortBy_perm _ _).trans (hRegions.trans (sortBy_perm _ _).symm)
  provinces := (sortBy_perm _ _).trans (hProvinces.trans (sortBy_perm _ _).symm)
  municipalities := (sortBy_perm _ _).trans (hMunicipalities.trans (sortBy_perm _ _).symm)
  districts := (sortBy_perm _ _).trans (hDistricts.trans (sortBy_perm _ _).symm)
  sections := (sortBy_perm _ _).trans (hSections.trans (sortBy_perm _ _).symm)

/-- Putting records in order for display loses none. -/
theorem sameRecords_given (data : TerritoryData) : SameRecords (.ofData data) ⟨data⟩ :=
  ⟨sortBy_perm _ _, sortBy_perm _ _, sortBy_perm _ _, sortBy_perm _ _, sortBy_perm _ _⟩

section SameRecords

variable {t u : Territory} (hSame : SameRecords t u)
include hSame

theorem HasPlace.of_sameRecords {municipalityId : Int} {district : Option Nat}
    (h : t.HasPlace municipalityId district) : u.HasPlace municipalityId district := by
  obtain ⟨m, hm, hId, hDistrict⟩ := h
  refine ⟨m, hSame.municipalities.mem_iff.mp hm, hId, fun number hNumber => ?_⟩
  obtain ⟨hSplit, d, hd, hOf⟩ := hDistrict number hNumber
  exact ⟨hSplit, d, hSame.districts.mem_iff.mp hd, hOf⟩

theorem WellFormed.of_sameRecords (h : t.WellFormed) : u.WellFormed where
  provinceIds := (hSame.provinces.map _).nodup_iff.mp h.provinceIds
  municipalityIds := (hSame.municipalities.map _).nodup_iff.mp h.municipalityIds
  sectionIds := (hSame.sections.map _).nodup_iff.mp h.sectionIds
  region_of := by
    intro p hp
    obtain ⟨r, hr, hId⟩ := h.region_of p (hSame.provinces.mem_iff.mpr hp)
    exact ⟨r, hSame.regions.mem_iff.mp hr, hId⟩
  province_of := by
    intro m hm
    obtain ⟨p, hp, hId⟩ := h.province_of m (hSame.municipalities.mem_iff.mpr hm)
    exact ⟨p, hSame.provinces.mem_iff.mp hp, hId⟩
  districts := fun d hd =>
    (h.districts d (hSame.districts.mem_iff.mpr hd)).of_sameRecords hSame
  sections := fun s hs => (h.sections s (hSame.sections.mem_iff.mpr hs)).of_sameRecords hSame

theorem Houses.of_sameRecords {rs rs' : List Representative} (hPerm : rs.Perm rs')
    (h : t.Houses rs) : u.Houses rs' where
  ids := (hPerm.map _).nodup_iff.mp h.ids
  places := fun r hr => (h.places r (hPerm.mem_iff.mpr hr)).of_sameRecords hSame

end SameRecords

end Territory

/-! ## Validated data -/

namespace ReferenceData

theorem checkRepresentatives_eq_ok {t : Territory} (hWell : t.WellFormed) {seen : List Int}
    {rs : List Representative} {u : Unit} (h : checkRepresentatives t seen rs = .ok u) :
    t.Houses rs ∧ ∀ r ∈ rs, r.id ∉ seen := by
  -- every identifier that was checked is seen by those after it
  induction rs generalizing seen with
  | nil =>
    exact ⟨⟨List.nodup_nil, fun _ hr => (List.not_mem_nil hr).elim⟩,
      fun _ hr => (List.not_mem_nil hr).elim⟩
  | cons r rest ih =>
    rw [checkRepresentatives] at h
    obtain ⟨_, hNew, h⟩ := bind_eq_ok.mp h
    rw [require_eq_ok] at hNew
    split at h
    · exact nomatch h
    next hSound =>
      obtain ⟨⟨hIds, hPlaces⟩, hUnseen⟩ := ih h
      refine ⟨⟨?_, ?_⟩, ?_⟩
      · rw [List.map_cons, List.nodup_cons]
        refine ⟨fun hMem => ?_, hIds⟩
        obtain ⟨r', hr', hEq⟩ := List.mem_map.mp hMem
        exact hUnseen r' hr' (hEq ▸ List.mem_cons_self)
      · exact List.forall_mem_cons.mpr
          ⟨Territory.validateRepresentative_eq_ok hWell hSound, hPlaces⟩
      · refine List.forall_mem_cons.mpr ⟨by simpa using hNew, fun r' hr' hMem => ?_⟩
        exact hUnseen r' hr' (List.mem_cons_of_mem _ hMem)

/-- **Validated data is sound.** -/
theorem validate_sound {d : ReferenceData} {u : Unit} (h : d.validate = .ok u) :
    (Territory.ofData d.territory).WellFormed ∧
      (Territory.ofData d.territory).Houses d.representatives := by
  rw [validate] at h
  split at h
  · exact nomatch h
  next hTerritory =>
    have hWell := Territory.validate_wellFormed hTerritory
    exact ⟨hWell, (checkRepresentatives_eq_ok hWell h).1⟩

end ReferenceData

end PollRoster
