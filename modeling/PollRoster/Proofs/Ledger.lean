import PollRoster.Proofs.Order
import PollRoster.Repository.Ledger

/-!
# Ledgers in order

`Ledger.Orderly` is the invariant of the repository in memory: no slot is held twice, identifiers
ascend, and the next identifier lies above them all. Without the last part the first two would not
be kept, since an insertion hands out whatever identifier comes next.

Main results:

* `Orderly.answer` — every call keeps a ledger orderly, whatever it asks for.
* `findSlot_eq_some_iff`, `assignment?_eq_some_iff` — what is looked up in an orderly ledger is what
  is stored there.
* `answer_static` — no call changes the reference data.
-/

namespace PollRoster

/-- The slot that an assignment takes. -/
def Assignment.slot (a : Assignment) : Int × Role := (a.sectionId, a.role)

namespace Ledger

/-! ## Changes to a ledger -/

/-- The assignment that an insertion into a free slot makes. -/
def next (l : Ledger) (sectionId representativeId : Int) (role : Role) : Assignment :=
  ⟨l.nextId, sectionId, representativeId, role⟩

/-- The ledger with one more assignment, whose identifier is used up. -/
def add (l : Ledger) (a : Assignment) : Ledger :=
  { l with assignments := l.assignments ++ [a], nextId := l.nextId + 1 }

/-- The ledger with no assignment of this identifier. -/
def without (l : Ledger) (id : Int) : Ledger :=
  { l with assignments := l.assignments.filter (·.id ≠ id) }

theorem insert_of_free {l : Ledger} {sectionId : Int} {role : Role}
    (h : l.findSlot sectionId role = none) (representativeId : Int) :
    l.insert sectionId representativeId role =
      (.ok (l.next sectionId representativeId role),
        l.add (l.next sectionId representativeId role)) := by
  rw [insert, h]
  rfl

theorem insert_of_taken {l : Ledger} {sectionId : Int} {role : Role} {a : Assignment}
    (h : l.findSlot sectionId role = some a) (representativeId : Int) :
    l.insert sectionId representativeId role =
      (.error (.slotOccupied sectionId role a.representativeId), l) := by
  rw [insert, h]

theorem delete_of_found {l : Ledger} {id : Int} {a : Assignment}
    (h : l.assignment? id = some a) : l.delete id = (.ok a, l.without id) := by
  rw [delete, h]
  rfl

theorem delete_of_missing {l : Ledger} {id : Int} (h : l.assignment? id = none) :
    l.delete id = (.error (.notFound "Assignment" id), l) := by
  rw [delete, h]

/-- An insertion either is refused and changes nothing, or makes the next assignment. -/
theorem insert_cases (l : Ledger) (sectionId representativeId : Int) (role : Role) :
    (l.findSlot sectionId role = none ∧
      l.insert sectionId representativeId role =
        (.ok (l.next sectionId representativeId role),
          l.add (l.next sectionId representativeId role))) ∨
    ∃ a, l.findSlot sectionId role = some a ∧
      l.insert sectionId representativeId role =
        (.error (.slotOccupied sectionId role a.representativeId), l) := by
  cases h : l.findSlot sectionId role with
  | none => exact .inl ⟨rfl, insert_of_free h _⟩
  | some a => exact .inr ⟨a, rfl, insert_of_taken h _⟩

/-- A deletion either finds nothing and changes nothing, or takes what it found away. -/
theorem delete_cases (l : Ledger) (id : Int) :
    (l.assignment? id = none ∧ l.delete id = (.error (.notFound "Assignment" id), l)) ∨
    ∃ a, l.assignment? id = some a ∧ l.delete id = (.ok a, l.without id) := by
  cases h : l.assignment? id with
  | none => exact .inl ⟨rfl, delete_of_missing h⟩
  | some a => exact .inr ⟨a, rfl, delete_of_found h⟩

/-- No call changes the reference data. -/
theorem answer_static (c : RepositoryCall) (l : Ledger) :
    (l.answer c).2.territory = l.territory ∧
      (l.answer c).2.representatives = l.representatives := by
  cases c with
  | insert sectionId representativeId role =>
    rcases l.insert_cases sectionId representativeId role with ⟨-, h⟩ | ⟨a, -, h⟩ <;>
      rw [answer, h] <;> exact ⟨rfl, rfl⟩
  | delete id =>
    rcases l.delete_cases id with ⟨-, h⟩ | ⟨a, -, h⟩ <;> rw [answer, h] <;> exact ⟨rfl, rfl⟩
  | _ => exact ⟨rfl, rfl⟩

/-! ## The invariant -/

/-- No slot is held twice, identifiers ascend, and the next one is above them all. -/
structure Orderly (l : Ledger) : Prop where
  slots : (l.assignments.map Assignment.slot).Nodup
  ids : l.assignments.Pairwise fun a b => a.id < b.id
  fresh : ∀ a ∈ l.assignments, a.id < l.nextId

theorem orderly_start (territory : Territory) (representatives : List Representative) :
    (start territory representatives).Orderly :=
  ⟨List.nodup_nil, .nil, fun _ ha => (List.not_mem_nil ha).elim⟩

theorem findSlot_eq_none_iff {l : Ledger} {sectionId : Int} {role : Role} :
    l.findSlot sectionId role = none ↔ ∀ a ∈ l.assignments, a.slot ≠ (sectionId, role) := by
  simp [findSlot, Assignment.slot]

theorem slot_of_findSlot {l : Ledger} {sectionId : Int} {role : Role} {a : Assignment}
    (h : l.findSlot sectionId role = some a) : a.slot = (sectionId, role) := by
  have := List.find?_some h
  simpa [Assignment.slot] using this

/-- A new assignment holds its slot if that was empty, and changes nothing about the others. -/
theorem findSlot_add (l : Ledger) (a : Assignment) (sectionId : Int) (role : Role) :
    (l.add a).findSlot sectionId role =
      (l.findSlot sectionId role).or (if a.slot = (sectionId, role) then some a else none) := by
  rw [findSlot, add, List.find?_append, findSlot]
  congr 1
  by_cases hSlot : a.slot = (sectionId, role)
  · obtain ⟨hSection, hRole⟩ := Prod.mk.inj hSlot
    rw [if_pos hSlot]
    simp [hSection, hRole]
  · rw [if_neg hSlot]
    have hNot : ¬(a.sectionId = sectionId ∧ a.role = role) := fun h => hSlot (Prod.ext h.1 h.2)
    simpa using hNot

/-- In an orderly ledger the occupant of a slot is the stored assignment that takes it. -/
theorem findSlot_eq_some_iff {l : Ledger} (h : l.Orderly) {sectionId : Int} {role : Role}
    {a : Assignment} :
    l.findSlot sectionId role = some a ↔ a ∈ l.assignments ∧ a.slot = (sectionId, role) := by
  refine eq_some_iff_of_key h.slots (fun b hFind => ?_) fun b hMem hSlot => ?_
  · exact ⟨List.mem_of_find?_eq_some hFind, slot_of_findSlot hFind⟩
  · rw [Option.isSome_iff_ne_none]
    intro hNone
    exact findSlot_eq_none_iff.mp hNone b hMem hSlot

/-- In an orderly ledger every assignment is found under its own identifier. -/
theorem assignment?_eq_some_iff {l : Ledger} (h : l.Orderly) {id : Int} {a : Assignment} :
    l.assignment? id = some a ↔ a ∈ l.assignments ∧ a.id = id := by
  -- identifiers that ascend are distinct
  have hIds : (l.assignments.map Assignment.id).Nodup :=
    List.pairwise_map.mpr (h.ids.imp fun hlt => Int.ne_of_lt hlt)
  exact find?_key_eq_some_iff hIds

/-- In an orderly ledger no two assignments have one identifier. -/
theorem Orderly.eq_of_id {l : Ledger} (h : l.Orderly) {a b : Assignment} (ha : a ∈ l.assignments)
    (hb : b ∈ l.assignments) (hId : b.id = a.id) : b = a := by
  have hFound := (assignment?_eq_some_iff h).mpr ⟨ha, rfl⟩
  have hFound' := (assignment?_eq_some_iff h).mpr ⟨hb, hId⟩
  exact Option.some.inj (hFound'.symm.trans hFound)

/-- Filling a free slot keeps the order: the identifier handed out was above all others. -/
theorem Orderly.add {l : Ledger} (h : l.Orderly) {sectionId : Int} {role : Role}
    (hFree : l.findSlot sectionId role = none) (representativeId : Int) :
    (l.add (l.next sectionId representativeId role)).Orderly where
  slots := by
    have hNew : (sectionId, role) ∉ l.assignments.map Assignment.slot := by
      intro hMem
      obtain ⟨a, ha, hSlot⟩ := List.mem_map.mp hMem
      exact findSlot_eq_none_iff.mp hFree a ha hSlot
    rw [Ledger.add, List.map_append, List.nodup_append]
    refine ⟨h.slots, List.nodup_singleton _, ?_⟩
    intro s hOld s' hMem
    rw [List.map_singleton, List.mem_singleton] at hMem
    rintro rfl
    exact hNew (by rwa [hMem] at hOld)
  ids := by
    rw [Ledger.add, List.pairwise_append]
    refine ⟨h.ids, List.pairwise_singleton _ _, ?_⟩
    intro a ha b hb
    rw [List.mem_singleton.mp hb]
    exact h.fresh a ha
  fresh := by
    intro a ha
    change a.id < l.nextId + 1
    rcases List.mem_append.mp ha with ha | ha
    · have := h.fresh a ha
      omega
    · rw [List.mem_singleton.mp ha]
      exact Int.lt_succ l.nextId

theorem Orderly.without {l : Ledger} (h : l.Orderly) (id : Int) : (l.without id).Orderly where
  slots := h.slots.sublist (List.filter_sublist.map _)
  ids := h.ids.filter _
  fresh := fun a ha => h.fresh a (List.mem_filter.mp ha).1

/-- Every call keeps a ledger orderly. -/
theorem Orderly.answer {l : Ledger} (h : l.Orderly) (c : RepositoryCall) :
    (l.answer c).2.Orderly := by
  cases c with
  | insert sectionId representativeId role =>
    rcases l.insert_cases sectionId representativeId role with ⟨hFree, hIns⟩ | ⟨a, -, hIns⟩
    · rw [Ledger.answer, hIns]
      exact h.add hFree representativeId
    · rw [Ledger.answer, hIns]
      exact h
  | delete id =>
    rcases l.delete_cases id with ⟨-, hDel⟩ | ⟨a, -, hDel⟩
    · rw [Ledger.answer, hDel]
      exact h
    · rw [Ledger.answer, hDel]
      exact h.without id
  | _ => exact h

/-! ## Reachable ledgers -/

/-- What can become of a ledger without assignments by calls, refused ones included. -/
inductive Reachable : Ledger → Prop
  | start (territory : Territory) (representatives : List Representative) :
    Reachable (start territory representatives)
  | call (c : RepositoryCall) : Reachable l → Reachable (l.answer c).2

theorem Reachable.orderly {l : Ledger} (h : l.Reachable) : l.Orderly := by
  induction h with
  | start territory representatives => exact orderly_start territory representatives
  | call c _ ih => exact ih.answer c

end Ledger

end PollRoster
