import Mathlib.Data.List.Perm.Basic
import PollRoster.Availability
import PollRoster.Proofs.Labels
import PollRoster.Proofs.Order

/-!
# Preferences against sections

A match lists the sections that a preference asks for, with what can still be done about each of
them, and the numbers for which there is no section. Nothing that is asked for is lost between the
two, and nothing is listed that is not asked for. Numbers of sections may repeat, and so may the
sections that are given.

Main results:

* `SectionSlots.availability_cases` — what an availability says of each of the two slots.
* `Preference.matchSections_answers` — what is listed and in which order, what is not matched, and
  what can be chosen.
-/

namespace PollRoster

/-! ## Availability -/

namespace SectionSlots

variable {s : SectionSlots} {representativeId : Int}

theorem mem_freeRoles {role : Role} : role ∈ s.freeRoles ↔ s.occupant? role = none := by
  have hAll : role ∈ Role.all := by cases role <;> decide
  rw [freeRoles, List.mem_filter, Option.isNone_iff_eq_none]
  exact and_iff_right hAll

theorem isFull_iff : s.isFull ↔ ∀ role, (s.occupant? role).isSome := by
  rw [isFull, Bool.and_eq_true]
  constructor
  · rintro ⟨hPrimary, hAlternate⟩ role
    cases role with
    | primary => exact hPrimary
    | alternate => exact hAlternate
  · exact fun h => ⟨h .primary, h .alternate⟩

/-- **Availability.** Either the representative holds the role that is named, or holds neither slot.
Then it is told whether others hold both, or else which are free. -/
theorem availability_cases (s : SectionSlots) (representativeId : Int) :
    (∃ role a, s.availability representativeId = .held role ∧ s.occupant? role = some a ∧
      a.representativeId = representativeId) ∨
    (∀ role a, s.occupant? role = some a → a.representativeId ≠ representativeId) ∧
      ((s.availability representativeId = .full ∧ ∀ role, (s.occupant? role).isSome) ∨
        (s.availability representativeId = .available s.freeRoles ∧
          ∃ role, s.occupant? role = none)) := by
  rw [availability]
  cases hFound : Role.all.find? fun role =>
      (s.occupant? role).any (·.representativeId = representativeId) with
  | some role =>
    have hHolder := List.find?_some hFound
    obtain ⟨a, hHeld, hSame⟩ := (Option.any_eq_true _ _).mp hHolder
    exact .inl ⟨role, a, rfl, hHeld, of_decide_eq_true hSame⟩
  | none =>
    -- nothing was found among all roles, so nobody of that name is in either slot
    have hOther : ∀ role a, s.occupant? role = some a →
        a.representativeId ≠ representativeId := by
      intro role a hHeld hSame
      have hAll : role ∈ Role.all := by cases role <;> decide
      refine List.find?_eq_none.mp hFound role hAll ((Option.any_eq_true _ _).mpr ?_)
      exact ⟨a, hHeld, decide_eq_true hSame⟩
    refine .inr ⟨hOther, ?_⟩
    dsimp only
    by_cases hFull : s.isFull = true
    · rw [if_pos hFull]
      exact .inl ⟨rfl, isFull_iff.mp hFull⟩
    · obtain ⟨role, hFree⟩ := not_forall.mp fun hTaken => hFull (isFull_iff.mpr hTaken)
      rw [if_neg hFull]
      exact .inr ⟨rfl, role, Option.not_isSome_iff_eq_none.mp hFree⟩

end SectionSlots

/-- A section can be chosen if the representative holds neither slot of it and one of them is
free. -/
theorem PreferenceEntry.isSelectable_ofSection (slots : SlotTable) (representativeId : Int)
    (x : PollingSection) : (ofSection slots representativeId x).isSelectable ↔
      (∀ role a, slots.occupant? x.id role = some a → a.representativeId ≠ representativeId) ∧
        ∃ role, slots.occupant? x.id role = none := by
  simp only [isSelectable, ofSection, SlotTable.occupant?]
  rcases (slots.slots x.id).availability_cases representativeId with
    ⟨role, a, hHeld, hOccupant, hSame⟩ | ⟨hOther, ⟨hFull, hTaken⟩ | ⟨hOpen, hFree⟩⟩
  · rw [hHeld]
    exact iff_of_false Bool.false_ne_true fun h => h.1 role a hOccupant hSame
  · rw [hFull]
    refine iff_of_false Bool.false_ne_true fun ⟨_, role, hFree⟩ => ?_
    have hSome := hTaken role
    rw [hFree] at hSome
    exact Bool.false_ne_true hSome
  · rw [hOpen]
    exact iff_of_true rfl ⟨hOther, hFree⟩

/-- What is said to be free is so, the primary first. -/
theorem PreferenceEntry.freeRoles_ofSection {slots : SlotTable} {representativeId : Int}
    {x : PollingSection} {roles : List Role}
    (h : (ofSection slots representativeId x).availability = .available roles) :
    roles.Sublist [.primary, .alternate] ∧
      ∀ role, role ∈ roles ↔ slots.occupant? x.id role = none := by
  have hRoles : roles = (slots.slots x.id).freeRoles := by
    simp only [ofSection] at h
    rcases (slots.slots x.id).availability_cases representativeId with
      ⟨role, a, hHeld, -⟩ | ⟨-, ⟨hFull, -⟩ | ⟨hOpen, -⟩⟩
    · rw [hHeld] at h
      cases h
    · rw [hFull] at h
      cases h
    · rw [hOpen] at h
      exact (Availability.available.inj h).symm
  rw [hRoles]
  exact ⟨List.filter_sublist, fun role => SectionSlots.mem_freeRoles⟩

/-! ## Order -/

namespace PreferenceEntry

instance : Std.TransCmp compareForDisplay := inferInstanceAs (Std.TransCmp (compareLex _ _))

/-- Entries that may be listed one after the other: by number, then by the normalized name. -/
def Precedes (e f : PreferenceEntry) : Prop :=
  e.number < f.number ∨
    e.number = f.number ∧ normalizeLabel e.buildingName ≤ normalizeLabel f.buildingName

theorem isLE_compareForDisplay {e f : PreferenceEntry} :
    (compareForDisplay e f).isLE ↔ e.Precedes f := by
  rw [compareForDisplay, compareLex, compareOn, compareOn, Ordering.isLE_then_iff_or,
    Nat.compare_eq_lt, Nat.compare_eq_eq, isLE_compare_string]
  rfl

/-- Whether an entry has its place among those of a number and a normalized name. -/
def IsUnder (number : Nat) (label : String) (e : PreferenceEntry) : Prop :=
  e.number = number ∧ normalizeLabel e.buildingName = label

instance (number : Nat) (label : String) (e : PreferenceEntry) :
    Decidable (e.IsUnder number label) := inferInstanceAs (Decidable (_ ∧ _))

/-- Entries have one place if their numbers are the same and their names have the same words. -/
theorem isUnder_normalizeLabel_iff {number : Nat} {name : String} {e : PreferenceEntry} :
    e.IsUnder number (normalizeLabel name) ↔
      e.number = number ∧ SameWords e.buildingName name := by
  rw [IsUnder, normalizeLabel_eq_iff]

theorem compareForDisplay_of_isUnder {number : Nat} {label : String} {e f : PreferenceEntry}
    (he : e.IsUnder number label) (hf : f.IsUnder number label) : compareForDisplay e f = .eq := by
  rw [compareForDisplay, compareLex_eq_eq, compareOn, compareOn, he.1, he.2, hf.1, hf.2]
  exact ⟨Std.compare_self, Std.compare_self⟩

end PreferenceEntry

/-! ## Matching -/

/-- What a section is listed with. -/
def PollingSection.shown (x : PollingSection) : Int × Nat × String × String :=
  (x.id, x.number, x.buildingName, x.address)

def PreferenceEntry.shown (e : PreferenceEntry) : Int × Nat × String × String :=
  (e.sectionId, e.number, e.buildingName, e.address)

/-- Whether a match is the answer to a preference over the given sections. -/
structure PreferenceMatch.Answers (m : PreferenceMatch) (p : Preference)
    (sections : List PollingSection) (slots : SlotTable) (representativeId : Int) : Prop where
  requested : m.requested = p.numbers
  oversized : m.oversized = p.oversized
  /-- There is an entry for every section with a requested number, and there are no others. -/
  entries : (m.entries.map PreferenceEntry.shown).Perm
    ((sections.filter (·.number ∈ p.numbers)).map PollingSection.shown)
  sorted : m.entries.Pairwise PreferenceEntry.Precedes
  /-- Of one number and one normalized name, entries are listed as the sections are given. -/
  stable : ∀ number label,
    (m.entries.filter (·.IsUnder number label)).map PreferenceEntry.shown =
      ((sections.filter (·.number ∈ p.numbers)).filter fun x =>
        x.number = number ∧ normalizeLabel x.buildingName = label).map PollingSection.shown
  unmatched : ∀ n, n ∈ m.unmatched ↔ n ∈ p.numbers ∧ ∀ x ∈ sections, x.number ≠ n
  ascending : m.unmatched.Pairwise (· < ·)
  covered : ∀ n, n ∈ m.requested ↔ (∃ e ∈ m.entries, e.number = n) ∨ n ∈ m.unmatched
  disjoint : ∀ e ∈ m.entries, e.number ∉ m.unmatched
  split : (m.selectable ++ m.unavailable).Perm m.entries
  selectable : ∀ e ∈ m.selectable, e.isSelectable
  unavailable : ∀ e ∈ m.unavailable, ¬e.isSelectable
  isSelectable_iff : ∀ e ∈ m.entries, e.isSelectable ↔
    (∀ role a, slots.occupant? e.sectionId role = some a →
      a.representativeId ≠ representativeId) ∧
    ∃ role, slots.occupant? e.sectionId role = none
  freeRoles : ∀ e ∈ m.entries, ∀ roles, e.availability = .available roles →
    roles.Sublist [.primary, .alternate] ∧
      ∀ role, role ∈ roles ↔ slots.occupant? e.sectionId role = none

namespace Preference

variable {p : Preference} {sections : List PollingSection} {slots : SlotTable}
  {representativeId : Int}

theorem entries_matchSections :
    (p.matchSections sections slots representativeId).entries =
      sortBy PreferenceEntry.compareForDisplay
        ((sections.filter (·.number ∈ p.numbers)).map (.ofSection slots representativeId)) := by
  simp only [matchSections, List.contains_eq_mem]

theorem mem_entries_matchSections {e : PreferenceEntry} :
    e ∈ (p.matchSections sections slots representativeId).entries ↔
      ∃ x ∈ sections, x.number ∈ p.numbers ∧ e = .ofSection slots representativeId x := by
  rw [entries_matchSections, mem_sortBy, List.mem_map]
  simp only [List.mem_filter, decide_eq_true_eq, and_assoc, eq_comm (b := e)]

theorem mem_unmatched_matchSections {n : Nat} :
    n ∈ (p.matchSections sections slots representativeId).unmatched ↔
      n ∈ p.numbers ∧ ∀ x ∈ sections, x.number ≠ n := by
  simp only [matchSections, List.mem_filter, Bool.not_eq_true', List.any_eq_false,
    decide_eq_true_eq, List.contains_eq_mem]
  refine and_congr_right fun hRequested => ⟨fun h x hx hSame => ?_, fun h x hx => h x hx.1⟩
  exact h x ⟨hx, hSame.symm ▸ hRequested⟩ hSame

/-- **A match answers the preference**, whatever sections are given and whoever holds their
slots. -/
theorem matchSections_answers (hAscending : p.numbers.Pairwise (· < ·))
    (sections : List PollingSection) (slots : SlotTable) (representativeId : Int) :
    (p.matchSections sections slots representativeId).Answers p sections slots
      representativeId where
  requested := rfl
  oversized := rfl
  entries := by
    rw [entries_matchSections]
    have h := ((sortBy_perm PreferenceEntry.compareForDisplay
      ((sections.filter (·.number ∈ p.numbers)).map (.ofSection slots representativeId))).map
        PreferenceEntry.shown)
    rwa [List.map_map] at h
  sorted := by
    rw [entries_matchSections]
    exact (sortBy_pairwise _).imp PreferenceEntry.isLE_compareForDisplay.mp
  stable number label := by
    rw [entries_matchSections, filter_sortBy, List.filter_map, List.map_map]
    · rfl
    · intro e f he hf
      exact PreferenceEntry.compareForDisplay_of_isUnder (of_decide_eq_true he)
        (of_decide_eq_true hf)
  unmatched _ := mem_unmatched_matchSections
  ascending := hAscending.filter _
  covered n := by
    -- a requested number is that of some given section, or else it is not matched
    simp only [mem_entries_matchSections, mem_unmatched_matchSections]
    constructor
    · intro hRequested
      by_cases hFound : ∃ x ∈ sections, x.number = n
      · obtain ⟨x, hx, rfl⟩ := hFound
        exact .inl ⟨_, ⟨x, hx, hRequested, rfl⟩, rfl⟩
      · exact .inr ⟨hRequested, fun x hx hSame => hFound ⟨x, hx, hSame⟩⟩
    · rintro (⟨e, ⟨x, -, hRequested, rfl⟩, rfl⟩ | ⟨hRequested, -⟩)
      · exact hRequested
      · exact hRequested
  disjoint e he := by
    obtain ⟨x, hx, -, rfl⟩ := mem_entries_matchSections.mp he
    rw [mem_unmatched_matchSections]
    exact fun h => h.2 x hx rfl
  split := List.filter_append_perm _ _
  selectable e he := (List.mem_filter.mp he).2
  unavailable e he := by
    have h := (List.mem_filter.mp he).2
    simpa using h
  isSelectable_iff e he := by
    obtain ⟨x, -, -, rfl⟩ := mem_entries_matchSections.mp he
    exact PreferenceEntry.isSelectable_ofSection slots representativeId x
  freeRoles e he roles h := by
    obtain ⟨x, -, -, rfl⟩ := mem_entries_matchSections.mp he
    exact PreferenceEntry.freeRoles_ofSection h

/-- A school whose name is written in three ways, and an annex. Anna, whose identifier is 1, holds a
slot in one section and others hold the slots of two more. -/
def schoolSections : List PollingSection :=
  [⟨10, 7, "Succursale", "Via Po 3", 1, none, true, 410⟩,
    ⟨11, 3, "Scuola Dante", "Via Roma 1", 1, none, true, 500⟩,
    ⟨12, 3, "Annesso", "Via Roma 2", 1, none, true, 480⟩,
    ⟨13, 3, "scuola  dante", "Via Po 3", 1, none, false, 505⟩,
    ⟨14, 2, "SCUOLA DANTE", "Via Roma 1", 1, none, true, 390⟩,
    ⟨15, 5, "Scuola Dante", "Via Roma 1", 1, none, true, 450⟩]

def schoolSlots : SlotTable :=
  .ofAssignments [⟨1, 11, 2, .primary⟩, ⟨2, 13, 1, .alternate⟩, ⟨3, 14, 2, .primary⟩,
    ⟨4, 14, 3, .alternate⟩]

/-- Anna asks for four numbers, of which two have one section, one has three and one has none. -/
theorem matchSections_answers_school :
    let p : Preference := ⟨[2, 3, 4, 7], [⟨1, 20001⟩]⟩
    let m := p.matchSections schoolSections schoolSlots 1
    p.numbers.Pairwise (· < ·) ∧ m.Answers p schoolSections schoolSlots 1 ∧
      m.entries.map (fun e => (e.sectionId, e.availability)) =
        [(14, .full), (12, .available [.primary, .alternate]), (11, .available [.alternate]),
          (13, .held .alternate), (10, .available [.primary, .alternate])] ∧
      m.unmatched = [4] := by
  have hAscending : [2, 3, 4, 7].Pairwise (· < ·) := by decide
  exact ⟨hAscending,
    matchSections_answers (p := ⟨[2, 3, 4, 7], [⟨1, 20001⟩]⟩) hAscending _ _ _, by rfl, by rfl⟩

end Preference

end PollRoster
