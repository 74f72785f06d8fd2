import PollRoster.Proofs.Database.Reachable
import PollRoster.Proofs.Slots
import PollRoster.Engine

/-!
# What counters depend on

The counters of a scope depend on which assignments there are of the sections in the scope and of
the representatives declared in it. A change elsewhere leaves them as they are.

Main results:

* `Snapshot.count_congr` — what the counters of a scope are determined by.
* `Ledger.DiffersAt.count_eq` — a change counts at most in the scopes that are related to a place
  that it touches.
-/

namespace PollRoster

/-! ## Counting -/

/-- Counters agree where the same primary slots are filled and the same representatives are free. -/
theorem Snapshot.count_congr {territory : Territory} {representatives : List Representative}
    {as as' : List Assignment} {k : Scope}
    (hFilled : ∀ x ∈ territory.sectionsIn k,
      (∃ a ∈ as', a.sectionId = x.id ∧ a.role = .primary) ↔
        ∃ a ∈ as, a.sectionId = x.id ∧ a.role = .primary)
    (hFree : ∀ r ∈ representatives, territory.placeInScope r.municipalityId r.district k →
      ((∀ a ∈ as', a.representativeId ≠ r.id) ↔ ∀ a ∈ as, a.representativeId ≠ r.id)) :
    count ⟨territory, representatives, as'⟩ k = count ⟨territory, representatives, as⟩ k := by
  have hSections : ∀ x ∈ activeSections ⟨territory, representatives, as⟩ k,
      ((SlotTable.ofAssignments as').occupant? x.id .primary).isSome =
        ((SlotTable.ofAssignments as).occupant? x.id .primary).isSome := by
    intro x hx
    rw [Bool.eq_iff_iff, SlotTable.occupant?_isSome, SlotTable.occupant?_isSome]
    exact hFilled x (List.mem_filter.mp hx).1
  -- outside the scope it does not matter who is free
  have hRepresentatives : ∀ r ∈ representatives,
      (territory.placeInScope r.municipalityId r.district k &&
        ((SlotTable.ofAssignments as').heldBy r.id).isEmpty) =
      (territory.placeInScope r.municipalityId r.district k &&
        ((SlotTable.ofAssignments as).heldBy r.id).isEmpty) := by
    intro r hr
    cases hIn : territory.placeInScope r.municipalityId r.district k with
    | false => rfl
    | true =>
      rw [Bool.true_and, Bool.true_and, Bool.eq_iff_iff, SlotTable.heldBy_isEmpty,
        SlotTable.heldBy_isEmpty]
      exact hFree r hr hIn
  have hFilledSections := List.filter_congr hSections
  have hFreeRepresentatives := List.filter_congr hRepresentatives
  simp only [count, slots, activeSections] at hFilledSections hFreeRepresentatives ⊢
  rw [hFilledSections, hFreeRepresentatives]

namespace Ledger

/-- What a snapshot of a ledger shows. -/
def snapshot (l : Ledger) : Snapshot := ⟨l.territory, l.representatives, l.assignments⟩

/-- Where no slot is held twice, a snapshot files under each slot what the ledger finds there: the
last assignment of the slot and the first one are the same. -/
theorem occupant?_snapshot {l : Ledger} (hSlots : (l.assignments.map Assignment.slot).Nodup)
    (sectionId : Int) (role : Role) :
    l.snapshot.slots.occupant? sectionId role = l.findSlot sectionId role := by
  have hTakes : (fun a : Assignment => decide (a.sectionId = sectionId) && decide (a.role = role)) =
      fun a => decide (a.slot = (sectionId, role)) := by
    funext a
    rw [Assignment.slot, Bool.eq_iff_iff, Bool.and_eq_true, decide_eq_true_eq, decide_eq_true_eq,
      decide_eq_true_eq, Prod.mk.injEq]
  have hFiled : l.snapshot.slots.occupant? sectionId role =
      findLast? (fun a => decide (a.slot = (sectionId, role))) l.assignments := by
    rw [← hTakes]
    exact SlotTable.occupant?_ofAssignments l.assignments sectionId role
  have hFound : l.findSlot sectionId role =
      l.assignments.find? fun a => decide (a.slot = (sectionId, role)) := by
    rw [← hTakes, findSlot]
  refine Option.ext fun a => ?_
  rw [hFiled, hFound, findLast?_key_eq_some_iff hSlots, find?_key_eq_some_iff hSlots]

/-! ## Changes -/

/-- Whether two ledgers over the same reference data have the same assignments, except perhaps for
those of one representative to some sections. -/
structure DiffersAt (sectionIds : List Int) (representativeId : Int) (l l' : Ledger) : Prop where
  like : l.IsLike l'
  elsewhere : ∀ a : Assignment, a.sectionId ∉ sectionIds ∨ a.representativeId ≠ representativeId →
    (a ∈ l'.assignments ↔ a ∈ l.assignments)

variable {l l' l'' : Ledger} {sectionIds sectionIds' : List Int} {representativeId : Int}

theorem DiffersAt.refl (l : Ledger) : DiffersAt [] representativeId l l :=
  ⟨.refl l, fun _ _ => Iff.rfl⟩

theorem DiffersAt.trans (h : DiffersAt sectionIds representativeId l l')
    (h' : DiffersAt sectionIds' representativeId l' l'') :
    DiffersAt (sectionIds ++ sectionIds') representativeId l l'' where
  like := ⟨h'.like.1.trans h.like.1, h'.like.2.trans h.like.2⟩
  elsewhere := by
    intro a ha
    rw [List.mem_append, not_or] at ha
    exact (h'.elsewhere a (ha.imp_left And.right)).trans (h.elsewhere a (ha.imp_left And.left))

theorem differsAt_add (l : Ledger) (sectionId representativeId : Int) (role : Role) :
    DiffersAt [sectionId] representativeId l (l.add (l.next sectionId representativeId role)) where
  like := ⟨rfl, rfl⟩
  elsewhere := by
    intro a ha
    change a ∈ l.assignments ++ [l.next sectionId representativeId role] ↔ _
    rw [List.mem_append, List.mem_singleton]
    -- the new assignment itself is excepted
    refine or_iff_left fun hNew => ?_
    rw [hNew] at ha
    rcases ha with hSection | hRepresentative
    · exact hSection List.mem_cons_self
    · exact hRepresentative rfl

/-- In an orderly ledger nothing but the assignment itself goes by its identifier. -/
theorem differsAt_without (hOrderly : l.Orderly) {id : Int} {a : Assignment}
    (hFound : l.assignment? id = some a) :
    DiffersAt [a.sectionId] a.representativeId l (l.without id) where
  like := ⟨rfl, rfl⟩
  elsewhere := by
    intro b hb
    change b ∈ l.assignments.filter _ ↔ _
    rw [List.mem_filter]
    refine and_iff_left_of_imp fun hMem => decide_eq_true fun hId => ?_
    -- what has the identifier is the assignment that was found under it
    obtain ⟨ha, rfl⟩ := (assignment?_eq_some_iff hOrderly).mp hFound
    obtain rfl := hOrderly.eq_of_id ha hMem hId
    rcases hb with hSection | hRepresentative
    · exact hSection List.mem_cons_self
    · exact hRepresentative rfl

/-! ## Where a change counts -/

/-- The paths of the places that a change touches: where the sections lie, and where the
representative declared to serve. A change of no section touches nothing. -/
def Touches (l : Ledger) (sectionIds : List Int) (representativeId : Int) (p : Scope) : Prop :=
  (∃ x ∈ l.territory.sections, x.id ∈ sectionIds ∧
    l.territory.resolve (.ofPlace x.municipalityId x.district) = .ok p) ∨
  sectionIds ≠ [] ∧ ∃ r ∈ l.representatives, r.id = representativeId ∧
    l.territory.resolve (Snapshot.placeOf r) = .ok p

theorem not_touches_nil (p : Scope) : ¬l.Touches [] representativeId p := by
  rintro (⟨x, -, hId, -⟩ | ⟨hSome, -⟩)
  · exact List.not_mem_nil hId
  · exact hSome rfl

theorem IsLike.touches_iff (h : l.IsLike l') {p : Scope} :
    l'.Touches sectionIds representativeId p ↔ l.Touches sectionIds representativeId p := by
  rw [Touches, h.1, h.2, Touches]

/-- A scope that is unrelated to a place does not contain it. -/
theorem not_placeInScope (hSound : l.Sound) {municipalityId : Int} {district : Option Nat}
    (hPlace : l.territory.HasPlace municipalityId district) {k : Scope} (hk : l.territory.IsPath k)
    (hFar : ∀ p, l.territory.resolve (.ofPlace municipalityId district) = .ok p →
      k.isRelated p = false) : ¬l.territory.placeInScope municipalityId district k := by
  intro hIn
  obtain ⟨p, hResolve⟩ := hPlace.exists_path hSound.territory
  have hContains : k.contains p := by rwa [← hk.placeInScope_eq hResolve]
  have hUnrelated := hFar _ hResolve
  simp [Scope.isRelated, hContains] at hUnrelated

/-- **Where a change counts.** The counters of a path change only if it is related to a place that
the change touches. -/
theorem DiffersAt.count_eq (h : DiffersAt sectionIds representativeId l l') (hSound : l.Sound)
    {k : Scope} (hk : l.territory.IsPath k)
    (hFar : ∀ p, l.Touches sectionIds representativeId p → k.isRelated p = false) :
    l'.snapshot.count k = l.snapshot.count k := by
  rw [snapshot, h.like.1, h.like.2, snapshot]
  refine Snapshot.count_congr (fun x hx => ?_) (fun r hr hIn => ?_)
  · obtain ⟨hMem, hIn⟩ := List.mem_filter.mp hx
    -- a changed section would lie at a touched place, and the scope contains no such place
    have hOther : x.id ∉ sectionIds := fun hId =>
      not_placeInScope hSound (hSound.territory.sections x hMem) hk
        (fun p hp => hFar p (.inl ⟨x, hMem, hId, hp⟩)) hIn
    refine exists_congr fun a => and_congr_left fun hSlot => ?_
    exact h.elsewhere a (.inl (by rwa [hSlot.1]))
  · -- whatever the representative holds in one of the ledgers is held in both
    have hSame : ∀ a : Assignment, a.representativeId = r.id →
        (a ∈ l'.assignments ↔ a ∈ l.assignments) := by
      intro a ha
      refine h.elsewhere a ?_
      by_cases hSome : sectionIds = []
      · rw [hSome]
        exact .inl List.not_mem_nil
      · refine .inr fun hId => ?_
        exact not_placeInScope hSound (hSound.representatives.places r hr) hk
          (fun p hp => hFar p (.inr ⟨hSome, r, hr, ha.symm.trans hId, hp⟩)) hIn
    constructor
    · exact fun hNone a hMem ha => hNone a ((hSame a ha).mpr hMem) ha
    · exact fun hNone a hMem ha => hNone a ((hSame a ha).mp hMem) ha

end Ledger

end PollRoster
