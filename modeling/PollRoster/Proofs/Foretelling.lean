import PollRoster.Proofs.Availability
import PollRoster.Proofs.Engine
import PollRoster.Proofs.Report

/-!
# What a preference analysis foretells

An analysis shows a representative which sections are open, and an assignment that follows finds out
for itself. The one looks at a table filed from all assignments, the other at one slot after the
other, and neither asks the other. In a ledger in which no slot is held twice they agree, so
whatever an analysis says of a section is what an assignment made at once comes to.

Main results:

* `Assigning.run_assign_eq` — what an assignment comes to, told by the occupant of the slot.
* `Engine.analyze_foretells` — an analysis and the assignment that follows it.
-/

namespace PollRoster

/-! ## What is foretold -/

/-- Whether an assignment was refused because somebody other than the representative holds the
slot. -/
def RefusedForAnother (representativeId sectionId : Int) (role : Role)
    (outcome : Except OperationError AssignOutcome) : Prop :=
  ∃ occupant, occupant ≠ representativeId ∧ outcome = .error (.slotOccupied sectionId role occupant)

/-- Whether the outcome of an assignment is the one that an availability announces for the role. -/
def Availability.Foretells (representativeId sectionId : Int) (role : Role)
    (outcome : Except OperationError AssignOutcome) : Availability → Prop
  | .available freeRoles =>
    if role ∈ freeRoles then
      ∃ a, outcome = .ok (.created a) ∧ a.slot = (sectionId, role) ∧
        a.representativeId = representativeId
    else RefusedForAnother representativeId sectionId role outcome
  | .full => RefusedForAnother representativeId sectionId role outcome
  | .held heldRole => role = heldRole →
      ∃ a, outcome = .ok (.unchanged a) ∧ a.slot = (sectionId, role) ∧
        a.representativeId = representativeId

/-! ## Assigning at once -/

namespace Assigning

variable {l : Ledger} {sectionId representativeId : Int}

/-- **Assigning at once.** Once section and representative are known, what is in the slot
decides. -/
theorem run_assign_eq (hSection : 0 < sectionId)
    (hKnownSection : (l.territory.section? sectionId).isSome) (hPos : 0 < representativeId)
    (hKnown : (l.representative? representativeId).isSome) (role : Role) :
    ((assign sectionId representativeId role).run none 0 l).result =
      match l.findSlot sectionId role with
      | some a => heldOrOccupied a representativeId
      | none => .ok (.created (l.next sectionId representativeId role)) := by
  have hNotCancelled : Cancellation.isRaised none 0 = false := rfl
  rw [run_assign_of_known hNotCancelled hPos hKnown]
  cases hSlot : l.findSlot sectionId role with
  | some a => rw [run_fillSlot_of_held hSection hKnownSection hSlot]
  | none => rw [run_fillSlot_of_free hSection hKnownSection hSlot]

/-- The availability of a section foretells what an assignment comes to, whatever is in its
slots. -/
theorem foretells_of_slots {s : SectionSlots}
    (hSlots : ∀ role, s.occupant? role = l.findSlot sectionId role) (role : Role) :
    (s.availability representativeId).Foretells representativeId sectionId role
      (match l.findSlot sectionId role with
        | some a => heldOrOccupied a representativeId
        | none => .ok (.created (l.next sectionId representativeId role))) := by
  -- somebody else in the slot is named in the refusal
  have hRefused : ∀ a, l.findSlot sectionId role = some a →
      a.representativeId ≠ representativeId →
      RefusedForAnother representativeId sectionId role (heldOrOccupied a representativeId) := by
    intro a hSlot hOther
    obtain ⟨hSection, hRole⟩ := Prod.mk.inj (Ledger.slot_of_findSlot hSlot)
    refine ⟨a.representativeId, hOther, ?_⟩
    rw [heldOrOccupied, if_neg hOther, hSection, hRole]
  rcases s.availability_cases representativeId with
    ⟨heldRole, a, hHeld, hOccupant, hSame⟩ | ⟨hOther, ⟨hFull, hTaken⟩ | ⟨hOpen, -⟩⟩
  · rw [hHeld]
    rintro rfl
    rw [hSlots] at hOccupant
    rw [hOccupant]
    refine ⟨a, ?_, Ledger.slot_of_findSlot hOccupant, hSame⟩
    exact if_pos hSame
  · obtain ⟨a, hOccupant⟩ := Option.isSome_iff_exists.mp (hTaken role)
    have hNotHere := hOther role a hOccupant
    rw [hSlots] at hOccupant
    rw [hFull, hOccupant]
    exact hRefused a hOccupant hNotHere
  · rw [hOpen]
    cases hSlot : l.findSlot sectionId role with
    | none =>
      have hFree : role ∈ s.freeRoles := SectionSlots.mem_freeRoles.mpr ((hSlots role).trans hSlot)
      rw [Availability.Foretells, if_pos hFree]
      exact ⟨_, rfl, rfl, rfl⟩
    | some a =>
      have hOccupant : s.occupant? role = some a := (hSlots role).trans hSlot
      have hTaken : role ∉ s.freeRoles := by
        rw [SectionSlots.mem_freeRoles, hOccupant]
        exact Option.some_ne_none a
      rw [Availability.Foretells, if_neg hTaken]
      exact hRefused a hSlot (hOther role a hOccupant)

end Assigning

/-! ## Analyzing -/

/-- A section of the place that a representative declared is not outside of it: where the place
names a district, the section lies in that district. -/
theorem isOutsideTerritory_of_placeInScope {t : Territory} {r : Representative} {x : PollingSection}
    (h : t.placeInScope x.municipalityId x.district (Snapshot.placeOf r)) :
    isOutsideTerritory r x = false := by
  simp only [Territory.placeInScope, Snapshot.placeOf, Scope.ofPlace, Scope.ofMunicipality,
    Bool.and_eq_true, decide_eq_true_eq, Bool.or_eq_true, Option.isNone_iff_eq_none,
    beq_iff_eq] at h
  obtain ⟨hMunicipality, hDistrict⟩ := h
  rw [isOutsideTerritory, Bool.or_eq_false_iff, decide_eq_false_iff_not]
  refine ⟨fun hOther => hOther hMunicipality, ?_⟩
  rcases hDistrict with hNone | hSame
  · rw [hNone]
  · rw [hSame]
    cases x.district with
    | none => rfl
    | some number => exact decide_eq_false fun hOther => hOther rfl

namespace Snapshot

/-- Each entry of an analysis is an active section of the declared place, with the availability that
its slots have. -/
theorem exists_section_of_entry {s : Snapshot} {r : Representative} {representativeId : Int}
    {text : Option String} {found : PreferenceMatch}
    (hKnown : s.representative? representativeId = some r)
    (hFound : s.analyze representativeId text = .ok found) {entry : PreferenceEntry}
    (hEntry : entry ∈ found.entries) :
    ∃ x ∈ s.activeSections (placeOf r), entry = .ofSection s.slots representativeId x := by
  rw [analyze, hKnown] at hFound
  rw [← Except.ok.inj hFound, Preference.matchSections] at hEntry
  obtain ⟨x, hx, rfl⟩ := List.mem_map.mp (mem_sortBy.mp hEntry)
  exact ⟨x, (List.mem_filter.mp hx).1, rfl⟩

end Snapshot

namespace Engine

variable {ρ : Type} [Repository ρ]

theorem run_assign_of_kept {e : Engine ρ} {l : Ledger} (hKept : l.IsKeptBy e.repository)
    (sectionId representativeId : Int) (role : Role) :
    (run (Assigning.assign sectionId representativeId role) e).1 =
      ((Assigning.assign sectionId representativeId role).run none 0 l).result := by
  obtain ⟨store, hStores, hStore⟩ := hKept
  rw [run, perform, hStore,
    Program.run_store hStores (Assigning.assign_careful _ _ _) none 0 (.refl l)]
  rfl

/-- **Foretelling.** Over a reachable ledger, in whatever kind of repository and with whatever
counters kept, every text of a recorded representative is analyzed. Each entry is an active section
in the place that the representative declared, and an assignment to either role of it that is made
next comes to what the entry says. -/
theorem analyze_foretells {e : Engine ρ} {l : Ledger} (hKept : l.IsKeptBy e.repository)
    (hReachable : l.Reachable) (hSections : ∀ x ∈ l.territory.sections, 0 < x.id)
    (hIds : (l.representatives.map Representative.id).Nodup) {r : Representative}
    (hr : r ∈ l.representatives) (hPos : 0 < r.id) (text : Option String) :
    ∃ found e', analyze r.id text e = (.ok found, e') ∧ ∀ entry ∈ found.entries,
      (∃ x ∈ l.territory.sections, x.id = entry.sectionId ∧ x.isActive ∧
        isOutsideTerritory r x = false) ∧
      ∀ role, entry.availability.Foretells r.id entry.sectionId role
        (run (Assigning.assign entry.sectionId r.id role) e').1 := by
  have hFoundHere : l.snapshot.representative? r.id = some r :=
    (find?_key_eq_some_iff hIds).mpr ⟨hr, rfl⟩
  have hKnown : (l.representative? r.id).isSome := by
    rw [show l.representative? r.id = some r from hFoundHere]
    rfl
  obtain ⟨found, hAnalysis⟩ : ∃ found, l.snapshot.analyze r.id text = .ok found := by
    rw [Snapshot.analyze, hFoundHere]
    exact ⟨_, rfl⟩
  have hRun : analyze r.id text e = (.ok found, e) := by
    rw [analyze, Action.bind_of_ok (run_load_of_kept hKept), hAnalysis]
    rfl
  refine ⟨found, e, hRun, fun entry hEntry => ?_⟩
  obtain ⟨x, hx, rfl⟩ := Snapshot.exists_section_of_entry hFoundHere hAnalysis hEntry
  obtain ⟨hIn, hActive⟩ := List.mem_filter.mp hx
  obtain ⟨hMem, hPlace⟩ := List.mem_filter.mp hIn
  refine ⟨⟨x, hMem, rfl, hActive, isOutsideTerritory_of_placeInScope hPlace⟩, fun role => ?_⟩
  have hKnownSection : (l.territory.section? x.id).isSome :=
    Territory.section?_isSome.mpr ⟨x, hMem, rfl⟩
  -- the table that the analysis reads and the look-up of the assignment find the same occupants
  have hSlots : ∀ role, (l.snapshot.slots.slots x.id).occupant? role = l.findSlot x.id role :=
    fun role => Ledger.occupant?_snapshot hReachable.orderly.slots x.id role
  change Availability.Foretells r.id x.id role (run (Assigning.assign x.id r.id role) e).1 _
  rw [run_assign_of_kept hKept,
    Assigning.run_assign_eq (hSections x hMem) hKnownSection hPos hKnown]
  exact Assigning.foretells_of_slots hSlots role

end Engine

/-! ## A village where some slots are taken -/

/-- The village, where Anna is the alternate of the third section and Bruno holds the primary of the
second and both slots of the fourth. -/
def Ledger.takenVillage : Ledger :=
  let calls : List RepositoryCall :=
    [.insert 3 1 .alternate, .insert 4 2 .primary, .insert 4 2 .alternate]
  calls.foldl (fun l c => (l.answer c).2) village

theorem Ledger.reachable_takenVillage : takenVillage.Reachable :=
  .call (.insert 4 2 .alternate) (.call (.insert 4 2 .primary)
    (.call (.insert 3 1 .alternate) reachable_village))

namespace Engine

/-- Anna asks for the first four sections; every kind of answer is among the entries. -/
theorem analyze_foretells_takenVillage :
    ∃ found e', analyze 1 (some "1-4") (start Ledger.takenVillage) = (.ok found, e') ∧
      found.entries.map (fun entry => (entry.sectionId, entry.availability)) =
        [(1, .available [.primary, .alternate]), (2, .available [.alternate]),
          (3, .held .alternate), (4, .full)] ∧
      ∀ entry ∈ found.entries, ∀ role, entry.availability.Foretells 1 entry.sectionId role
        (run (Assigning.assign entry.sectionId 1 role) e').1 := by
  have hSections : ∀ x ∈ Ledger.takenVillage.territory.sections, 0 < x.id := by decide
  have hIds : (Ledger.takenVillage.representatives.map Representative.id).Nodup := by decide
  have hAnna : (⟨1, "Anna", "anna@example.org", none, 1, none, "", none⟩ : Representative) ∈
      Ledger.takenVillage.representatives := List.mem_cons_self
  have hEntries : (analyze 1 (some "1-4") (start Ledger.takenVillage)).1.map
      (fun found => found.entries.map fun entry => (entry.sectionId, entry.availability)) =
      .ok [(1, .available [.primary, .alternate]), (2, .available [.alternate]),
        (3, .held .alternate), (4, .full)] := by rfl
  obtain ⟨found, e', hRun, hForetold⟩ := analyze_foretells (e := start Ledger.takenVillage)
    (Ledger.isKeptBy_self _) Ledger.reachable_takenVillage hSections hIds hAnna (by decide)
    (some "1-4")
  rw [hRun] at hEntries
  exact ⟨found, e', hRun, Except.ok.inj hEntries, fun entry hEntry => (hForetold entry hEntry).2⟩

end Engine

end PollRoster
