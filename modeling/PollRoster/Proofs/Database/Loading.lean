import Mathlib.Data.List.Perm.Basic
import PollRoster.Proofs.Database.Keeping
import PollRoster.Database.Seeding

/-!
# Loaded data

What reference data becomes when its records are stored one by one: tables that are ascending by
identifier, and among them the districts as they came. Read back, the records are those that were
loaded, and where they were listed in ascending order they come in that order again.

Main results:

* `insertAll_holds` — loaded data is read back as it was, up to the order of the records.
* `Holds.keeps` — a database that holds reference data keeps a ledger of it.
* `Holds.keeps_of_ascending` — of ascending data only the representatives can change places.
-/

namespace PollRoster

/-! ## Numbers in columns -/

/-- A number that was written is read back. -/
theorem readNumber_of_writeNumber {column column' : String} {n : Nat} {stored : Int}
    (h : writeNumber column n = .ok stored) : readNumber column' stored = .ok n := by
  rw [writeNumber] at h
  split at h
  next hLimit =>
    rw [← Except.ok.inj h]
    have hSmall : (max minId (min maxId (n : Int))).bmod 4294967296 = n := by
      rw [columnLimit] at hLimit
      rw [minId, maxId, Int.bmod_def]
      omega
    rw [readNumber, hSmall]
    simp
  · exact nomatch h

theorem readNumber?_of_writeNumber? {column column' : String} {n : Option Nat}
    {stored : Option Int} (h : writeNumber? column n = .ok stored) :
    readNumber? column' stored = .ok n := by
  cases n with
  | none =>
    rw [← Except.ok.inj h]
    rfl
  | some n =>
    obtain ⟨value, hValue, rfl⟩ := map_eq_ok.mp h
    exact map_eq_ok.mpr ⟨n, readNumber_of_writeNumber hValue, rfl⟩

theorem DistrictRow.toDistrict_of_ofDistrict {d : District} {row : DistrictRow}
    (h : ofDistrict d = .ok row) : row.toDistrict = .ok d := by
  obtain ⟨number, hNumber, h⟩ := bind_eq_ok.mp h
  obtain ⟨_, -, h⟩ := bind_eq_ok.mp h
  rw [← Except.ok.inj h]
  exact bind_eq_ok.mpr ⟨_, readNumber_of_writeNumber hNumber, rfl⟩

theorem PollingSectionRow.toSection_of_ofSection {s : PollingSection} {row : PollingSectionRow}
    (h : ofSection s = .ok row) : row.toSection = .ok s := by
  obtain ⟨district, hDistrict, h⟩ := bind_eq_ok.mp h
  obtain ⟨number, hNumber, h⟩ := bind_eq_ok.mp h
  obtain ⟨electors, hElectors, h⟩ := bind_eq_ok.mp h
  obtain ⟨_, -, h⟩ := bind_eq_ok.mp h
  rw [← Except.ok.inj h]
  exact bind_eq_ok.mpr ⟨_, readNumber_of_writeNumber hNumber, bind_eq_ok.mpr
    ⟨_, readNumber?_of_writeNumber? hDistrict, bind_eq_ok.mpr
      ⟨_, readNumber_of_writeNumber hElectors, rfl⟩⟩⟩

theorem RepresentativeRow.toRepresentative_of_ofRepresentative {r : Representative}
    {row : RepresentativeRow} (h : ofRepresentative r = .ok row) :
    row.toRepresentative = .ok r := by
  obtain ⟨district, hDistrict, h⟩ := bind_eq_ok.mp h
  rw [← Except.ok.inj h]
  exact bind_eq_ok.mpr ⟨_, readNumber?_of_writeNumber? hDistrict, rfl⟩

/-! ## Tables -/

/-- Whether the rows of a table decode to the given records in some order. -/
def Decodes (decode : ρ → Except StorageError α) (rows : List ρ) (xs : List α) : Prop :=
  ∃ ys, rows.mapM decode = .ok ys ∧ ys.Perm xs

/-- One more row stands for one more record, wherever it is put. -/
theorem Decodes.insert {decode : ρ → Except StorageError α} {rows rows' : List ρ} {xs : List α}
    (h : Decodes decode rows xs) {row : ρ} {x : α} (hRow : decode row = .ok x)
    (hRows : rows'.Perm (row :: rows)) : Decodes decode rows' (xs ++ [x]) := by
  obtain ⟨ys, hYs, hPerm⟩ := h
  have hAll : List.Forall₂ (fun row y => decode row = .ok y) (row :: rows) (x :: ys) :=
    .cons hRow (mapM_eq_ok.mp hYs)
  obtain ⟨zs, hZs, hPerm'⟩ := List.perm_comp_forall₂ hRows hAll
  refine ⟨zs, mapM_eq_ok.mpr hZs, hPerm'.trans ((hPerm.cons x).trans ?_)⟩
  exact (List.perm_append_singleton x xs).symm

theorem Decodes.eq_nil {decode : ρ → Except StorageError α} {rows : List ρ} {xs : List α}
    (h : Decodes decode rows xs) (hNil : xs = []) : rows = [] := by
  obtain ⟨ys, hYs, hPerm⟩ := h
  rw [hNil, List.perm_nil] at hPerm
  rw [hPerm] at hYs
  exact List.forall₂_nil_right_iff.mp (mapM_eq_ok.mp hYs)

/-- A row put into a table that is kept in order. -/
theorem insertBy_perm_concat {cmp : α → α → Ordering} {x : α} {xs ys : List α}
    (h : xs.Perm ys) : (insertBy cmp x xs).Perm (ys ++ [x]) :=
  (insertBy_perm cmp x xs).trans ((h.cons x).trans (List.perm_append_singleton x ys).symm)

/-- One more row at the end stands for one more record at the end. -/
theorem mapM_concat_eq_ok {decode : ρ → Except StorageError α} {rows : List ρ} {xs : List α}
    (h : rows.mapM decode = .ok xs) {row : ρ} {x : α} (hRow : decode row = .ok x) :
    (rows ++ [row]).mapM decode = .ok (xs ++ [x]) :=
  mapM_eq_ok.mpr (List.rel_append (mapM_eq_ok.mp h) (.cons hRow .nil))

/-! ## Ascending tables -/

section Ascending

variable {key : α → Int}

theorem isLE_compareOn {x y : α} : (compareOn key x y).isLE ↔ key x ≤ key y := Int.isLE_compare

/-- A row with a new identifier that is put into an ascending table keeps it ascending. -/
theorem insertBy_ascending {x : α} {xs : List α} (h : xs.Pairwise fun y z => key y < key z)
    (hNew : (!xs.any fun y => decide (key y = key x)) = true) :
    (insertBy (compareOn key) x xs).Pairwise fun y z => key y < key z := by
  have hSorted : (insertBy (compareOn key) x xs).Pairwise fun y z => key y ≤ key z :=
    (insertBy_pairwise (h.imp fun hlt => isLE_compareOn.mpr (Int.le_of_lt hlt))).imp
      isLE_compareOn.mp
  -- sorted by itself would allow a repeated identifier
  have hFresh : ∀ y ∈ xs, key x ≠ key y := by
    intro y hy hEq
    rw [Bool.not_eq_true', List.any_eq_false] at hNew
    exact hNew y hy (decide_eq_true hEq.symm)
  have hDistinct : (insertBy (compareOn key) x xs).Pairwise fun y z => key y ≠ key z :=
    ((insertBy_perm _ x xs).pairwise_iff fun hne => hne.symm).mpr
      (List.pairwise_cons.mpr ⟨hFresh, h.imp Int.ne_of_lt⟩)
  exact hSorted.imp₂ (fun _ _ hle hne => Int.lt_iff_le_and_ne.mpr ⟨hle, hne⟩) hDistinct

/-- Only one order of the same members is ascending. -/
theorem eq_of_perm_of_ascending {xs ys : List α} (hPerm : xs.Perm ys)
    (hx : xs.Pairwise fun y z => key y < key z) (hy : ys.Pairwise fun y z => key y ≤ key z) :
    xs = ys := by
  have hNodup : (xs.map key).Nodup := List.pairwise_map.mpr (hx.imp Int.ne_of_lt)
  refine List.Perm.eq_of_pairwise (fun x y hxs hys hxy hyx => ?_) (hx.imp Int.le_of_lt) hy hPerm
  exact List.inj_on_of_nodup_map hNodup hxs (hPerm.mem_iff.mpr hys) (Int.le_antisymm hxy hyx)

end Ascending

/-- Whether the records with an identifier are listed in ascending order. -/
structure TerritoryData.IsAscending (data : TerritoryData) : Prop where
  regions : data.regions.Pairwise fun a b => a.id ≤ b.id
  provinces : data.provinces.Pairwise fun a b => a.id ≤ b.id
  municipalities : data.municipalities.Pairwise fun a b => a.id ≤ b.id
  sections : data.sections.Pairwise fun a b => a.id ≤ b.id

namespace Database

/-- Whether the tables of rows with an identifier are ascending. -/
structure Ascending (db : Database) : Prop where
  regions : db.regions.Pairwise fun a b => a.id < b.id
  provinces : db.provinces.Pairwise fun a b => a.id < b.id
  municipalities : db.municipalities.Pairwise fun a b => a.id < b.id
  sectionRows : db.sectionRows.Pairwise fun a b => a.id < b.id
  representativeRows : db.representativeRows.Pairwise fun a b => a.id < b.id

/-- Whether a database without assignments holds the given reference data: the districts as they
came, all other records by their identifiers. -/
structure Holds (db : Database) (d : ReferenceData) : Prop where
  regions : db.regions.Perm d.territory.regions
  provinces : db.provinces.Perm d.territory.provinces
  municipalities : db.municipalities.Perm d.territory.municipalities
  districts : db.districtRows.mapM DistrictRow.toDistrict = .ok d.territory.districts
  sections : Decodes PollingSectionRow.toSection db.sectionRows d.territory.sections
  representatives :
    Decodes RepresentativeRow.toRepresentative db.representativeRows d.representatives
  ascending : db.Ascending
  assignmentRows : db.assignmentRows = []
  nextId : db.nextId = 1

theorem holds_empty : empty.Holds ⟨⟨[], [], [], [], []⟩, []⟩ :=
  ⟨.nil, .nil, .nil, rfl, ⟨[], rfl, .nil⟩, ⟨[], rfl, .nil⟩, ⟨.nil, .nil, .nil, .nil, .nil⟩,
    rfl, rfl⟩

/-! ## Loading -/

section Insert

variable {db db' : Database} {rs : List Region} {ps : List Province} {ms : List Municipality}
  {ds : List District} {ss : List PollingSection} {reps : List Representative}

theorem insertRegion_holds (h : db.Holds ⟨⟨rs, ps, ms, ds, ss⟩, reps⟩) {r : Region}
    (hInsert : db.insertRegion r = .ok db') : db'.Holds ⟨⟨rs ++ [r], ps, ms, ds, ss⟩, reps⟩ := by
  obtain ⟨_, hNew, hDone⟩ := bind_eq_ok.mp hInsert
  rw [← Except.ok.inj hDone]
  exact { h with
    regions := insertBy_perm_concat h.regions
    ascending := { h.ascending with
      regions := insertBy_ascending h.ascending.regions (require_eq_ok.mp hNew) } }

theorem insertProvince_holds (h : db.Holds ⟨⟨rs, ps, ms, ds, ss⟩, reps⟩) {p : Province}
    (hInsert : db.insertProvince p = .ok db') :
    db'.Holds ⟨⟨rs, ps ++ [p], ms, ds, ss⟩, reps⟩ := by
  obtain ⟨_, hNew, hInsert⟩ := bind_eq_ok.mp hInsert
  obtain ⟨_, -, hDone⟩ := bind_eq_ok.mp hInsert
  rw [← Except.ok.inj hDone]
  exact { h with
    provinces := insertBy_perm_concat h.provinces
    ascending := { h.ascending with
      provinces := insertBy_ascending h.ascending.provinces (require_eq_ok.mp hNew) } }

theorem insertMunicipality_holds (h : db.Holds ⟨⟨rs, ps, ms, ds, ss⟩, reps⟩) {m : Municipality}
    (hInsert : db.insertMunicipality m = .ok db') :
    db'.Holds ⟨⟨rs, ps, ms ++ [m], ds, ss⟩, reps⟩ := by
  obtain ⟨_, hNew, hInsert⟩ := bind_eq_ok.mp hInsert
  obtain ⟨_, -, hDone⟩ := bind_eq_ok.mp hInsert
  rw [← Except.ok.inj hDone]
  exact { h with
    municipalities := insertBy_perm_concat h.municipalities
    ascending := { h.ascending with
      municipalities := insertBy_ascending h.ascending.municipalities (require_eq_ok.mp hNew) } }

theorem insertDistrict_holds (h : db.Holds ⟨⟨rs, ps, ms, ds, ss⟩, reps⟩) {d : District}
    (hInsert : db.insertDistrict d = .ok db') :
    db'.Holds ⟨⟨rs, ps, ms, ds ++ [d], ss⟩, reps⟩ := by
  obtain ⟨row, hRow, hInsert⟩ := bind_eq_ok.mp hInsert
  obtain ⟨_, -, hInsert⟩ := bind_eq_ok.mp hInsert
  obtain ⟨_, -, hDone⟩ := bind_eq_ok.mp hInsert
  rw [← Except.ok.inj hDone]
  have hDecode := DistrictRow.toDistrict_of_ofDistrict hRow
  exact { h with
    districts := mapM_concat_eq_ok h.districts hDecode
    ascending := { h.ascending with } }

theorem insertSection_holds (h : db.Holds ⟨⟨rs, ps, ms, ds, ss⟩, reps⟩) {s : PollingSection}
    (hInsert : db.insertSection s = .ok db') :
    db'.Holds ⟨⟨rs, ps, ms, ds, ss ++ [s]⟩, reps⟩ := by
  obtain ⟨row, hRow, hInsert⟩ := bind_eq_ok.mp hInsert
  obtain ⟨_, hNew, hInsert⟩ := bind_eq_ok.mp hInsert
  obtain ⟨_, -, hDone⟩ := bind_eq_ok.mp hInsert
  rw [← Except.ok.inj hDone]
  have hDecode := PollingSectionRow.toSection_of_ofSection hRow
  exact { h with
    sections := h.sections.insert hDecode (insertBy_perm _ row _)
    ascending := { h.ascending with
      sectionRows := insertBy_ascending h.ascending.sectionRows (require_eq_ok.mp hNew) } }

theorem insertRepresentative_holds (h : db.Holds ⟨⟨rs, ps, ms, ds, ss⟩, reps⟩)
    {r : Representative} (hInsert : db.insertRepresentative r = .ok db') :
    db'.Holds ⟨⟨rs, ps, ms, ds, ss⟩, reps ++ [r]⟩ := by
  obtain ⟨row, hRow, hInsert⟩ := bind_eq_ok.mp hInsert
  obtain ⟨_, hNew, hInsert⟩ := bind_eq_ok.mp hInsert
  obtain ⟨_, -, hDone⟩ := bind_eq_ok.mp hInsert
  rw [← Except.ok.inj hDone]
  have hDecode := RepresentativeRow.toRepresentative_of_ofRepresentative hRow
  exact { h with
    representatives := h.representatives.insert hDecode (insertBy_perm _ row _)
    ascending := { h.ascending with
      representativeRows :=
        insertBy_ascending h.ascending.representativeRows (require_eq_ok.mp hNew) } }

end Insert

/-- **Loaded data is read back.** A load into the empty database leaves one that holds the data. -/
theorem insertAll_holds {d : ReferenceData} {db : Database} (h : empty.insertAll d = .ok db) :
    db.Holds d := by
  obtain ⟨⟨regions, provinces, municipalities, districts, sections⟩, representatives⟩ := d
  obtain ⟨db₁, h₁, h⟩ := bind_eq_ok.mp h
  obtain ⟨db₂, h₂, h⟩ := bind_eq_ok.mp h
  obtain ⟨db₃, h₃, h⟩ := bind_eq_ok.mp h
  obtain ⟨db₄, h₄, h⟩ := bind_eq_ok.mp h
  obtain ⟨db₅, h₅, h₆⟩ := bind_eq_ok.mp h
  have hRegions : db₁.Holds ⟨⟨regions, [], [], [], []⟩, []⟩ :=
    foldlM_keeps (P := fun db rs => db.Holds ⟨⟨rs, [], [], [], []⟩, []⟩)
      (fun _ _ _ _ h => insertRegion_holds h) holds_empty h₁
  have hProvinces : db₂.Holds ⟨⟨regions, provinces, [], [], []⟩, []⟩ :=
    foldlM_keeps (P := fun db ps => db.Holds ⟨⟨regions, ps, [], [], []⟩, []⟩)
      (fun _ _ _ _ h => insertProvince_holds h) hRegions h₂
  have hMunicipalities : db₃.Holds ⟨⟨regions, provinces, municipalities, [], []⟩, []⟩ :=
    foldlM_keeps (P := fun db ms => db.Holds ⟨⟨regions, provinces, ms, [], []⟩, []⟩)
      (fun _ _ _ _ h => insertMunicipality_holds h) hProvinces h₃
  have hDistricts : db₄.Holds ⟨⟨regions, provinces, municipalities, districts, []⟩, []⟩ :=
    foldlM_keeps (P := fun db ds => db.Holds ⟨⟨regions, provinces, municipalities, ds, []⟩, []⟩)
      (fun _ _ _ _ h => insertDistrict_holds h) hMunicipalities h₄
  have hSections : db₅.Holds ⟨⟨regions, provinces, municipalities, districts, sections⟩, []⟩ :=
    foldlM_keeps
      (P := fun db ss => db.Holds ⟨⟨regions, provinces, municipalities, districts, ss⟩, []⟩)
      (fun _ _ _ _ h => insertSection_holds h) hDistricts h₅
  exact foldlM_keeps
    (P := fun db rs => db.Holds ⟨⟨regions, provinces, municipalities, districts, sections⟩, rs⟩)
    (fun _ _ _ _ h => insertRepresentative_holds h) hSections h₆

/-! ## What is kept of the data -/

/-- A database that holds reference data keeps a ledger of it without assignments. -/
theorem Holds.keeps {db : Database} {d : ReferenceData} (h : db.Holds d) :
    ∃ sections representatives, sections.Perm d.territory.sections ∧
      representatives.Perm d.representatives ∧
      db.sectionRows.mapM PollingSectionRow.toSection = .ok sections ∧
      db.Keeps (.start (.ofData ⟨db.regions, db.provinces, db.municipalities,
        d.territory.districts, sections⟩) representatives) := by
  obtain ⟨sections, hSections, hSectionPerm⟩ := h.sections
  obtain ⟨representatives, hRepresentatives, hPerm⟩ := h.representatives
  refine ⟨sections, representatives, hSectionPerm, hPerm, hSections, ?_, hRepresentatives, ?_,
    h.nextId⟩
  · refine map_eq_ok.mpr ⟨_, ?_, rfl⟩
    exact bind_eq_ok.mpr ⟨_, h.districts, bind_eq_ok.mpr ⟨_, hSections, rfl⟩⟩
  · exact h.assignmentRows

/-- **Ascending data.** Of data that is listed in ascending order the database keeps a ledger of the
same territory, with the representatives in an order of its own. -/
theorem Holds.keeps_of_ascending {db : Database} {d : ReferenceData} (h : db.Holds d)
    (hAscending : d.territory.IsAscending) :
    ∃ representatives, representatives.Perm d.representatives ∧
      db.Keeps (.start (.ofData d.territory) representatives) := by
  obtain ⟨sections, representatives, hSectionPerm, hPerm, hRows, hKeeps⟩ := h.keeps
  -- the rows of sections ascend, and decoding keeps their identifiers
  have hSectionIds : sections.Pairwise fun a b => a.id < b.id := by
    have hIds : (sections.map PollingSection.id).Pairwise (· < ·) := by
      rw [← PollingSectionRow.map_id_of_mapM hRows]
      exact List.pairwise_map.mpr h.ascending.sectionRows
    exact List.pairwise_map.mp hIds
  have hSame : (⟨db.regions, db.provinces, db.municipalities, d.territory.districts, sections⟩ :
      TerritoryData) = d.territory := by
    rw [eq_of_perm_of_ascending h.regions h.ascending.regions hAscending.regions,
      eq_of_perm_of_ascending h.provinces h.ascending.provinces hAscending.provinces,
      eq_of_perm_of_ascending h.municipalities h.ascending.municipalities
        hAscending.municipalities,
      eq_of_perm_of_ascending hSectionPerm hSectionIds hAscending.sections]
  rw [hSame] at hKeeps
  exact ⟨representatives, hPerm, hKeeps⟩

end Database

end PollRoster
