import PollRoster.Proofs.Grouping
import PollRoster.Proofs.Territory

/-!
# Rows of a list of sections

A list of sections shows them by building, each building with its own rows and tallies. Grouping
neither loses nor doubles a section, and identifiers lead back to the sections that were grouped, so
all rows together are those of the active sections of the scope.

Main results:

* `Snapshot.rows_listSections` — which rows are shown.
* `Snapshot.isTallied_of_mem_listSections` — what the numbers of a building count.
-/

namespace PollRoster

/-! ## Rows -/

/-- The rows of a list of sections; nodes have none. -/
def Content.rows : Content → List SectionRow
  | .nodes _ => []
  | .sections bs => bs.flatMap BuildingView.rows

/-- Whether the numbers of a building count its rows. -/
structure BuildingView.IsTallied (b : BuildingView) : Prop where
  primaryFilled : b.primaryFilled = b.rows.countP (·.primary.isSome)
  alternateFilled : b.alternateFilled = b.rows.countP (·.alternate.isSome)
  warnings : b.warnings = b.rows.countP fun row => row.primary.isNone && row.alternate.isSome

namespace Snapshot

variable {s : Snapshot} {k : Scope}

/-- Advisory flags are worked out from the same reading. -/
def detector (s : Snapshot) : ConflictDetector := ⟨s.territory, s.slots, s.representatives⟩

/-- The sections of the buildings are looked up by identifier, and each is found. -/
theorem sections_listSections (hWell : s.territory.WellFormed) (k : Scope) :
    ((PollingBuilding.group (s.activeSections k)).flatMap fun b =>
      b.sectionIds.filterMap s.territory.section?).Perm (s.activeSections k) := by
  have hFound : ∀ x ∈ s.activeSections k,
      (s.territory.section? ∘ PollingSection.id) x = some x := by
    intro x hx
    have hMem : x ∈ s.territory.sections := (List.mem_filter.mp (List.mem_filter.mp hx).1).1
    exact hWell.section? hMem
  have hGrouped := (PollingBuilding.sectionIds_group (s.activeSections k)).filterMap
    s.territory.section?
  rw [List.filterMap_flatMap, List.filterMap_map] at hGrouped
  -- to name a section and to look it up leads back to it
  have hBack : (s.activeSections k).filterMap (s.territory.section? ∘ PollingSection.id) =
      s.activeSections k := by
    rw [List.filterMap_congr hFound, List.filterMap_some]
  rwa [hBack] at hGrouped

/-- **Which rows are shown.** The buildings of a scope together have a row for each of its active
sections, and no other rows. -/
theorem rows_listSections (hWell : s.territory.WellFormed) (k : Scope) :
    ((s.listSections k).flatMap BuildingView.rows).Perm
      ((s.activeSections k).map (s.sectionRow s.detector)) := by
  have hRows := (sections_listSections hWell k).map (s.sectionRow s.detector)
  rw [List.map_flatMap] at hRows
  rw [listSections, List.flatMap_map]
  exact hRows

/-- **What the numbers of a building count** are its rows. -/
theorem isTallied_of_mem_listSections {b : BuildingView} (h : b ∈ s.listSections k) :
    b.IsTallied := by
  obtain ⟨building, -, rfl⟩ := List.mem_map.mp h
  refine ⟨?_, ?_, ?_⟩
  -- filled slots are counted over the rows themselves
  · rw [List.countP_eq_length_filter]
    rfl
  · rw [List.countP_eq_length_filter]
    rfl
  · -- warnings are counted over the sections, and there is one row for each of them
    change countWarnings _ _ = (List.map _ _).countP _
    rw [List.countP_map, countWarnings, List.countP_eq_length_filter]
    refine congrArg List.length (List.filter_congr fun x _ => ?_)
    simp [sectionRow, SectionSlots.hasOrphanAlternate, Option.isNone_map]

/-- A section has a primary in its row when somebody holds that slot. -/
theorem primary_sectionRow (x : PollingSection) :
    (s.sectionRow s.detector x).primary.isSome = (s.slots.occupant? x.id .primary).isSome := by
  rw [sectionRow]
  exact Option.isSome_map

end Snapshot

end PollRoster
