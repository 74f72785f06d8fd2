import Mathlib.Data.List.Induction
import PollRoster.Proofs.Order
import PollRoster.Slots

/-!
# Slot tables

A table filed from a list of assignments finds what the list says: the last assignment of a slot,
and all assignments of a representative in their order.

Main results:

* `occupant?_ofAssignments`, `heldBy_ofAssignments` — what is looked up in a filed table.
* `occupant?_isSome`, `heldBy_isEmpty` — whether anything is found depends on nothing but which
  assignments there are.
-/

namespace PollRoster

theorem lookup_cons_of_ne [DecidableEq κ] {k key : κ} (h : k ≠ key) (b : β)
    (rest : List (κ × β)) : ((key, b) :: rest).lookup k = rest.lookup k := by
  rw [List.lookup_cons, beq_eq_false_iff_ne.mpr h]

/-- A filter that looks at keys only drops the entries of a key or leaves them. -/
theorem lookup_filter_key [DecidableEq κ] (p : κ → Bool) (k : κ) (xs : List (κ × β)) :
    (xs.filter fun entry => p entry.1).lookup k = if p k then xs.lookup k else none := by
  induction xs with
  | nil => simp
  | cons entry rest ih =>
    obtain ⟨key, b⟩ := entry
    rw [List.filter_cons]
    by_cases hk : k = key
    · subst hk
      dsimp only
      split
      · rw [List.lookup_cons_self, List.lookup_cons_self]
      next hDropped => rw [ih, if_neg hDropped]
    · rw [lookup_cons_of_ne hk, ← ih]
      split
      · exact lookup_cons_of_ne hk b _
      · rfl

/-- What is found is what has an entry. -/
theorem lookup_isSome_iff [DecidableEq κ] {k : κ} {xs : List (κ × β)} :
    (xs.lookup k).isSome ↔ k ∈ xs.map Prod.fst := by
  induction xs with
  | nil => simp
  | cons entry rest ih =>
    obtain ⟨key, b⟩ := entry
    by_cases hk : k = key
    · simp [hk]
    · rw [lookup_cons_of_ne hk, ih, List.map_cons, List.mem_cons, or_iff_right hk]

theorem lookup_alter [DecidableEq κ] (key k : κ) (f : Option β → β) (xs : List (κ × β)) :
    (alter key f xs).lookup k = if k = key then some (f (xs.lookup key)) else xs.lookup k := by
  induction xs with
  | nil =>
    rw [alter]
    split
    next hk => rw [hk, List.lookup_cons_self, List.lookup_nil]
    next hk => rw [lookup_cons_of_ne hk]
  | cons entry rest ih =>
    obtain ⟨key', b⟩ := entry
    by_cases hKey : key' = key
    · rw [alter, if_pos hKey, hKey]
      split
      next hk => rw [hk, List.lookup_cons_self, List.lookup_cons_self]
      next hk => rw [lookup_cons_of_ne hk, lookup_cons_of_ne hk]
    -- the entry of `key` lies further on, so the first entry is passed on both sides
    · have hFar : (((key', b) :: rest).lookup key) = rest.lookup key :=
        lookup_cons_of_ne (fun h => hKey h.symm) b rest
      rw [alter, if_neg hKey, hFar]
      by_cases hk : k = key'
      · rw [hk, List.lookup_cons_self, List.lookup_cons_self, if_neg hKey]
      · rw [lookup_cons_of_ne hk, lookup_cons_of_ne hk, ih]

namespace SectionSlots

theorem occupant?_fill (s : SectionSlots) (a : Assignment) (role : Role) :
    (s.fill a).occupant? role = if a.role = role then some a else s.occupant? role := by
  obtain ⟨id, sectionId, representativeId, held⟩ := a
  cases held <;> cases role <;> rfl

end SectionSlots

namespace SlotTable

/-! ## Filing -/

theorem slots_file (t : SlotTable) (a : Assignment) (sectionId : Int) :
    (t.file a).slots sectionId =
      if sectionId = a.sectionId then (t.slots a.sectionId).fill a else t.slots sectionId := by
  rw [slots, file, lookup_alter]
  split <;> rfl

theorem occupant?_file (t : SlotTable) (a : Assignment) (sectionId : Int) (role : Role) :
    (t.file a).occupant? sectionId role =
      if a.sectionId = sectionId ∧ a.role = role then some a else t.occupant? sectionId role := by
  rw [occupant?, slots_file]
  by_cases hSection : sectionId = a.sectionId
  · rw [if_pos hSection, SectionSlots.occupant?_fill, hSection]
    simp only [true_and, occupant?]
  · rw [if_neg hSection, if_neg fun h => hSection h.1.symm, occupant?]

theorem heldBy_file (t : SlotTable) (a : Assignment) (representativeId : Int) :
    (t.file a).heldBy representativeId =
      if a.representativeId = representativeId then t.heldBy representativeId ++ [a]
      else t.heldBy representativeId := by
  rw [heldBy, file, lookup_alter]
  by_cases hSame : representativeId = a.representativeId
  · rw [if_pos hSame, if_pos hSame.symm, hSame]
    rfl
  · rw [if_neg hSame, if_neg fun h => hSame h.symm]
    rfl

theorem ofAssignments_concat (as : List Assignment) (a : Assignment) :
    ofAssignments (as ++ [a]) = (ofAssignments as).file a := by
  rw [ofAssignments, List.foldl_concat, ofAssignments]

/-! ## Looking up -/

/-- The occupant of a slot is the last assignment of it. -/
theorem occupant?_ofAssignments (as : List Assignment) (sectionId : Int) (role : Role) :
    (ofAssignments as).occupant? sectionId role =
      findLast? (fun a => a.sectionId = sectionId && a.role = role) as := by
  induction as using List.reverseRecOn with
  | nil => cases role <;> rfl
  | append_singleton as a ih =>
    -- the assignment filed last decides, in the table as in the list
    rw [ofAssignments_concat, occupant?_file, findLast?_concat, ih]
    simp only [Bool.and_eq_true, decide_eq_true_eq]

theorem heldBy_ofAssignments (as : List Assignment) (representativeId : Int) :
    (ofAssignments as).heldBy representativeId =
      as.filter (·.representativeId = representativeId) := by
  induction as using List.reverseRecOn with
  | nil => rfl
  | append_singleton as a ih =>
    rw [ofAssignments_concat, heldBy_file, List.filter_append, ih, List.filter_singleton]
    by_cases hSame : a.representativeId = representativeId
    · simp [hSame]
    · simp [hSame]

theorem occupant?_isSome {as : List Assignment} {sectionId : Int} {role : Role} :
    ((ofAssignments as).occupant? sectionId role).isSome ↔
      ∃ a ∈ as, a.sectionId = sectionId ∧ a.role = role := by
  rw [occupant?_ofAssignments, findLast?_isSome]
  simp only [Bool.and_eq_true, decide_eq_true_eq]

theorem heldBy_isEmpty {as : List Assignment} {representativeId : Int} :
    ((ofAssignments as).heldBy representativeId).isEmpty ↔
      ∀ a ∈ as, a.representativeId ≠ representativeId := by
  rw [heldBy_ofAssignments, List.isEmpty_iff, List.filter_eq_nil_iff]
  simp only [decide_eq_true_eq, ne_eq]

end SlotTable

end PollRoster
