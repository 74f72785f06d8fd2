import Mathlib.Data.List.Perm.Subperm
import PollRoster.Conflicts
import PollRoster.Proofs.Labels
import PollRoster.Proofs.Slots
import PollRoster.Proofs.Territory

/-!
# Conflicts

Whether an occupant holds slots in several buildings is worked out by counting the buildings of all
known sections that the occupant holds. Read off one slot, the flag says that the occupant also
holds a slot in another building. Nothing is assumed of the records: sections may be unknown, and
the same slot may be listed more than once.

Main results:

* `mem_buildingsOf` — which buildings are counted.
* `severalBuildings_iff_elsewhere` — what the flag says of a slot, that the slots of one occupant
  agree in it, and that further assignments do not take it back.
-/

namespace PollRoster

/-- In a list without repetitions there is another member beside `x` if there are two at all. -/
theorem two_le_length_iff_of_nodup {x : α} {xs : List α} (hNodup : xs.Nodup) (hx : x ∈ xs) :
    2 ≤ xs.length ↔ ∃ y ∈ xs, y ≠ x := by
  constructor
  · intro hTwo
    by_contra hNone
    -- nothing but `x` would be in the list, and so it would be there twice
    have hAll : xs = List.replicate xs.length x :=
      List.eq_replicate_of_mem fun y hy => by_contra fun hne => hNone ⟨y, hy, hne⟩
    rw [hAll, List.nodup_replicate] at hNodup
    omega
  · rintro ⟨y, hy, hne⟩
    have hPair : [y, x] ⊆ xs := List.cons_subset.mpr ⟨hy, by simpa using hx⟩
    have hTwo : [y, x].Nodup := by simpa using hne
    exact (hTwo.subperm hPair).length_le

/-- Whether two sections are in one building: in one municipality and under the same name and
address, up to letter case and white space. -/
def PollingSection.SharesBuilding (x y : PollingSection) : Prop :=
  x.municipalityId = y.municipalityId ∧
    normalizeLabel x.buildingName = normalizeLabel y.buildingName ∧
    normalizeLabel x.address = normalizeLabel y.address

theorem BuildingKey.ofSection_eq_iff {x y : PollingSection} :
    ofSection x = ofSection y ↔ x.SharesBuilding y := by
  rw [ofSection, ofSection, BuildingKey.mk.injEq]
  rfl

theorem PollingSection.sharesBuilding_iff_sameWords {x y : PollingSection} :
    x.SharesBuilding y ↔ x.municipalityId = y.municipalityId ∧
      SameWords x.buildingName y.buildingName ∧ SameWords x.address y.address :=
  BuildingKey.ofSection_eq_iff.symm.trans BuildingKey.ofSection_eq_iff_sameWords

namespace ConflictDetector

variable {t : Territory} {as more : List Assignment} {rs : List Representative}
  {a : Assignment} {x : PollingSection}

/-- **Which buildings are counted**: those of the known sections that are held. -/
theorem mem_buildingsOf {key : BuildingKey} {representativeId : Int} :
    key ∈ (ConflictDetector.mk t (.ofAssignments as) rs).buildingsOf representativeId ↔
      ∃ b ∈ as, b.representativeId = representativeId ∧
        ∃ y, t.section? b.sectionId = some y ∧ .ofSection y = key := by
  rw [buildingsOf, mem_distinct, SlotTable.heldBy_ofAssignments, List.mem_map]
  simp only [List.mem_filterMap, List.mem_filter, decide_eq_true_eq]
  constructor
  · rintro ⟨y, ⟨b, ⟨hMem, hHolder⟩, hSection⟩, hKey⟩
    exact ⟨b, hMem, hHolder, y, hSection, hKey⟩
  · rintro ⟨b, hMem, hHolder, y, hSection, hKey⟩
    exact ⟨y, ⟨b, ⟨hMem, hHolder⟩, hSection⟩, hKey⟩

/-- A building is one of several if there is another one beside it. -/
theorem spansBuildings_iff_of_mem {c : ConflictDetector} {key : BuildingKey}
    {representativeId : Int} (hKey : key ∈ c.buildingsOf representativeId) :
    c.spansBuildings representativeId ↔ ∃ other ∈ c.buildingsOf representativeId, other ≠ key := by
  rw [spansBuildings, decide_eq_true_iff]
  exact two_le_length_iff_of_nodup (nodup_distinct _) hKey

/-- Further assignments add buildings and take none away. -/
theorem spansBuildings_mono (h : as ⊆ more) {representativeId : Int}
    (hSpans : (ConflictDetector.mk t (.ofAssignments as) rs).spansBuildings representativeId) :
    (ConflictDetector.mk t (.ofAssignments more) rs).spansBuildings representativeId := by
  rw [spansBuildings, decide_eq_true_iff] at hSpans ⊢
  refine Nat.le_trans hSpans ((nodup_distinct _).subperm fun key hKey => ?_).length_le
  obtain ⟨b, hMem, hRest⟩ := mem_buildingsOf.mp hKey
  exact mem_buildingsOf.mpr ⟨b, h hMem, hRest⟩

/-- **Several buildings.** The flag of a slot in a known section says that its occupant has another
slot in a known section of another building. The slots of one occupant agree in it, and further
assignments do not take it back. -/
theorem severalBuildings_iff_elsewhere (hMem : a ∈ as)
    (hSection : t.section? a.sectionId = some x) (rs : List Representative) :
    let flagged := fun (as : List Assignment) (b : Assignment) =>
      ((ConflictDetector.mk t (.ofAssignments as) rs).flagsFor b).severalBuildings
    (flagged as a ↔ ∃ b ∈ as, b ≠ a ∧ b.representativeId = a.representativeId ∧
      ∃ y, t.section? b.sectionId = some y ∧ ¬y.SharesBuilding x) ∧
    (∀ b ∈ as, b.representativeId = a.representativeId → flagged as b = flagged as a) ∧
    ∀ more, as ⊆ more → flagged as a → flagged more a := by
  intro flagged
  have hOwn : .ofSection x ∈
      (ConflictDetector.mk t (.ofAssignments as) rs).buildingsOf a.representativeId :=
    mem_buildingsOf.mpr ⟨a, hMem, rfl, x, hSection, rfl⟩
  refine ⟨(spansBuildings_iff_of_mem hOwn).trans ⟨?_, ?_⟩, fun b _ hHolder => ?_,
    fun more hMore => spansBuildings_mono hMore⟩
  · rintro ⟨_, hOther, hDiffers⟩
    obtain ⟨b, hb, hHolder, y, hFound, rfl⟩ := mem_buildingsOf.mp hOther
    refine ⟨b, hb, ?_, hHolder, y, hFound, fun hSame => ?_⟩
    · rintro rfl
      exact hDiffers (congrArg _ (Option.some.inj (hFound.symm.trans hSection)))
    · exact hDiffers (BuildingKey.ofSection_eq_iff.mpr hSame)
  · rintro ⟨b, hb, -, hHolder, y, hFound, hApart⟩
    refine ⟨_, mem_buildingsOf.mpr ⟨b, hb, hHolder, y, hFound, rfl⟩, fun hSame => ?_⟩
    exact hApart (BuildingKey.ofSection_eq_iff.mp hSame)
  · -- the flag looks at nothing of a slot but its occupant
    exact congrArg (spansBuildings _) hHolder

/-- A school whose name and address are written in two ways, and an annex. -/
def school : Territory :=
  ⟨[], [], [], [],
    [⟨11, 3, "Scuola Dante", "Via Roma 1", 1, none, true, 500⟩,
      ⟨12, 3, "Annesso", "Via Roma 2", 1, none, true, 480⟩,
      ⟨13, 4, " scuola  DANTE", "via roma 1", 1, none, true, 505⟩]⟩

/-- Anna, whose identifier is 7, holds two slots in the school and one in a section that is not
known. None is flagged until she is assigned to the annex as well, where somebody else is assigned
too. -/
theorem severalBuildings_iff_elsewhere_school :
    let anna : Assignment := ⟨1, 11, 7, .primary⟩
    let before : List Assignment :=
      [anna, ⟨2, 13, 7, .alternate⟩, ⟨3, 99, 7, .primary⟩, ⟨4, 12, 8, .primary⟩]
    let annexed : Assignment := ⟨5, 12, 7, .alternate⟩
    let flagged := fun (as : List Assignment) (b : Assignment) =>
      ((ConflictDetector.mk school (.ofAssignments as) []).flagsFor b).severalBuildings
    anna ∈ annexed :: before ∧
      school.section? 11 = some ⟨11, 3, "Scuola Dante", "Via Roma 1", 1, none, true, 500⟩ ∧
      before.map (flagged before) = [false, false, false, false] ∧
      flagged (annexed :: before) anna ∧
      flagged (annexed :: before) annexed = flagged (annexed :: before) anna := by
  intro anna before annexed flagged
  have hMem : anna ∈ annexed :: before := by decide
  have hSection : school.section? anna.sectionId =
      some ⟨11, 3, "Scuola Dante", "Via Roma 1", 1, none, true, 500⟩ := by rfl
  obtain ⟨hElsewhere, hAlike, -⟩ := severalBuildings_iff_elsewhere hMem hSection []
  have hFlagged : flagged (annexed :: before) anna := by
    refine hElsewhere.mpr ⟨annexed, List.mem_cons_self, by decide, rfl, _, rfl, ?_⟩
    rw [← BuildingKey.ofSection_eq_iff]
    decide
  exact ⟨hMem, hSection, by decide +kernel, hFlagged, hAlike annexed List.mem_cons_self rfl⟩

end ConflictDetector

end PollRoster
