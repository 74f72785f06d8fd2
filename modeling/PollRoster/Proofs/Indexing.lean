import PollRoster.Proofs.Territory

/-!
# The lists of a territory and their indexes

A territory is made of whatever records are given, also of records that repeat an identifier or a
name. Its lists are the given ones in the order of display, and it finds a record through an index
whose positions were taken after sorting. So which of several records with one identifier is found
depends on their names, and on the order in which they were given where the names are the same.

Main results:

* `displays_ofData` — each list of a territory is a stable sort of the given one.
* `Positions.indexes_ofList` — the positions of an index are in bounds, and following it leads to
  the last record with an identifier.
* `ofData_data_ofData` — a territory made of the data of another one is the same territory.
* `index_agrees` — all of this, for every data.
-/

namespace PollRoster

/-- Whether an index of a list leads to records that have the identifier asked for, never beyond the
list, and `found` is the last such record. -/
structure Positions.Indexes (index : Positions) (id : α → Int) (xs : List α)
    (found : Int → Option α) : Prop where
  inBounds : ∀ k i, (k, i) ∈ index.entries → i < xs.length
  leads : ∀ k i, (k, i) ∈ index.entries → ∃ x, xs[i]? = some x ∧ id x = k
  last : ∀ k, IsLast (fun x => id x = k) xs (found k)

theorem Positions.indexes_ofList (id : α → Int) (xs : List α) :
    (ofList id xs).Indexes id xs fun k => do xs[← (ofList id xs).get? k]? where
  inBounds k i h := by
    obtain ⟨x, hx, -⟩ := mem_entries_ofList.mp h
    exact (List.getElem?_eq_some_iff.mp hx).1
  leads k i h := mem_entries_ofList.mp h
  last k := by
    rw [getElem?_of_get?]
    exact findLast?_isLast (fun x => id x = k) xs

namespace Territory

/-- Whether a territory has the given records in the order of display. -/
structure Displays (t : Territory) (given : TerritoryData) : Prop where
  regions : IsStableSort (compareOn Region.name) given.regions t.regions
  provinces : IsStableSort (compareOn Province.name) given.provinces t.provinces
  municipalities : IsStableSort (compareOn Municipality.name) given.municipalities t.municipalities
  districts : IsStableSort (compareLex (compareOn District.municipalityId)
    (compareOn District.number)) given.districts t.districts
  sections : IsStableSort (compareLex (compareOn PollingSection.municipalityId)
    (compareLex (compareOn PollingSection.number) (compareOn PollingSection.buildingName)))
    given.sections t.sections

/-- Whether every look-up of a territory finds the record that counts. -/
structure IsIndexed (t : Territory) : Prop where
  regions : t.regionIndex.Indexes Region.id t.regions t.region?
  provinces : t.provinceIndex.Indexes Province.id t.provinces t.province?
  municipalities : t.municipalityIndex.Indexes Municipality.id t.municipalities t.municipality?
  sections : t.sectionIndex.Indexes PollingSection.id t.sections t.section?
  districts : ∀ municipalityId number,
    IsFirst (fun d => d.municipalityId = municipalityId ∧ d.number = number) t.districts
      (t.district? municipalityId number)

instance : Std.TransCmp compareDistricts := inferInstanceAs (Std.TransCmp (compareLex _ _))

instance : Std.TransCmp compareSections := inferInstanceAs (Std.TransCmp (compareLex _ _))

theorem displays_ofData (d : TerritoryData) : (ofData d).Displays d where
  regions := isStableSort_sortBy d.regions
  provinces := isStableSort_sortBy d.provinces
  municipalities := isStableSort_sortBy d.municipalities
  districts := isStableSort_sortBy d.districts
  sections := isStableSort_sortBy d.sections

/-- The indexes follow the lists, whatever order these are in. -/
theorem isIndexed (t : Territory) : t.IsIndexed where
  regions := Positions.indexes_ofList Region.id t.regions
  provinces := Positions.indexes_ofList Province.id t.provinces
  municipalities := Positions.indexes_ofList Municipality.id t.municipalities
  sections := Positions.indexes_ofList PollingSection.id t.sections
  districts municipalityId number := by
    have h := find?_isFirst (fun d => d.municipalityId = municipalityId ∧ d.number = number)
      t.districts
    simpa only [district?, Bool.decide_and] using h

/-- Lists that are in the order of display stay as they are. -/
theorem ofData_data_of_displays {t : Territory} {given : TerritoryData} (h : t.Displays given) :
    ofData t.data = t := by
  have hRegions := sortBy_of_pairwise h.regions.pairwise
  have hProvinces := sortBy_of_pairwise h.provinces.pairwise
  have hMunicipalities := sortBy_of_pairwise h.municipalities.pairwise
  have hDistricts := sortBy_of_pairwise h.districts.pairwise
  have hSections := sortBy_of_pairwise h.sections.pairwise
  obtain ⟨regions, provinces, municipalities, districts, sections⟩ := t
  simp only [Territory.regions, Territory.provinces, Territory.municipalities, Territory.districts,
    Territory.sections] at hRegions hProvinces hMunicipalities hDistricts hSections
  simp only [ofData, compareDistricts, compareSections, hRegions, hProvinces, hMunicipalities,
    hDistricts, hSections]

theorem ofData_data_ofData (d : TerritoryData) : ofData (ofData d).data = ofData d :=
  ofData_data_of_displays (displays_ofData d)

/-- **The indexes agree with the lists.** Whatever records are given, a territory has them in the
order of display, its indexes are never off its lists and lead to the last record with an
identifier, a district is the first one with its number, and making the territory anew of its own
data changes nothing. -/
theorem index_agrees (d : TerritoryData) :
    (ofData d).Displays d ∧ (ofData d).IsIndexed ∧ ofData (ofData d).data = ofData d :=
  ⟨displays_ofData d, isIndexed (ofData d), ofData_data_ofData d⟩

/-- Of regions with one identifier, the last one by name is found. -/
example : (ofData ⟨[⟨1, "Umbria"⟩, ⟨1, "Lazio"⟩, ⟨2, "Molise"⟩], [], [], [], []⟩).region? 1 =
    some ⟨1, "Umbria"⟩ := by decide

end Territory

end PollRoster
