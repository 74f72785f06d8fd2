import PollRoster.Proofs.Appointing

/-!
# Batches in any order

Two batches that ask for the same sections, in whatever order and however often, come to the same.
Each section has its turn once, and the turns of others show in it by the next identifier only. So
the two differ in nothing but in which of the new assignments has which of the new identifiers; even
the identifiers themselves, taken together, are the same.

Main results:

* `account_unnumbered` — up to new identifiers, the verdicts are those on the ledger at the start.
* `findSlot_appointAll` — who holds which slot after all turns.
* `bulkAssign_any_order` — a batch as a whole.
-/

namespace PollRoster

/-- A status without the identifier of the assignment that it reports as made. -/
def BulkStatus.unnumbered : BulkStatus → BulkStatus
  | .assigned _ => .assigned 0
  | status => status

def BulkItem.unnumbered (item : BulkItem) : BulkItem :=
  { item with status := item.status.unnumbered }

def Assignment.unnumbered (a : Assignment) : Assignment := { a with id := 0 }

namespace Ledger

variable {l : Ledger} {representativeId sectionId : Int} {role : Role} {sectionIds : List Int}

/-! ## Items -/

/-- The turn of another section changes a verdict by no more than the next identifier. -/
theorem verdict_appoint_of_ne {sectionId' : Int} (h : sectionId' ≠ sectionId) :
    ((l.appoint representativeId role sectionId).verdict representativeId role
      sectionId').unnumbered = (l.verdict representativeId role sectionId').unnumbered := by
  by_cases hOpen : l.IsOpen sectionId' role
  · rw [verdict_of_open hOpen, verdict_of_open ((isOpen_appoint_of_ne h).mpr hOpen)]
    rfl
  · rw [verdict_appoint_of_not_isOpen hOpen]

/-- **Verdicts.** -/
theorem account_unnumbered (h : sectionIds.Nodup) :
    (l.account representativeId role sectionIds).map BulkItem.unnumbered =
      sectionIds.map fun id => ⟨id, (l.verdict representativeId role id).unnumbered⟩ := by
  induction sectionIds generalizing l with
  | nil => rfl
  | cons first rest ih =>
    obtain ⟨hFirst, hRest⟩ := List.nodup_cons.mp h
    rw [account, List.map_cons, List.map_cons, ih hRest]
    refine congrArg (List.cons _) (List.map_congr_left ?_)
    intro id hId
    -- the sections that are left are others
    have hOther : id ≠ first := by
      rintro rfl
      exact hFirst hId
    rw [verdict_appoint_of_ne hOther]

/-! ## Assignments -/

theorem madeBy_unnumbered (items : List BulkItem) :
    madeBy representativeId role (items.map BulkItem.unnumbered) =
      (madeBy representativeId role items).map Assignment.unnumbered := by
  have hMade : ∀ item : BulkItem, item.unnumbered.made? representativeId role =
      (item.made? representativeId role).map Assignment.unnumbered := by
    rintro ⟨sectionId, status⟩
    cases status <;> rfl
  unfold madeBy
  rw [List.filterMap_map, List.map_filterMap]
  refine List.filterMap_congr ?_
  intro item _
  exact hMade item

/-- The new assignments are numbered in sequence, and the next identifier comes after them. -/
theorem numbers_appointAll (l : Ledger) (representativeId : Int) (role : Role)
    (sectionIds : List Int) :
    (madeBy representativeId role (l.account representativeId role sectionIds)).map (·.id) =
      (List.range (madeBy representativeId role
        (l.account representativeId role sectionIds)).length).map (fun n : Nat => l.nextId + n) ∧
    (l.appointAll representativeId role sectionIds).nextId = l.nextId +
      (madeBy representativeId role (l.account representativeId role sectionIds)).length := by
  induction sectionIds generalizing l with
  | nil => exact ⟨rfl, (Int.add_zero _).symm⟩
  | cons first rest ih =>
    rw [madeBy_account_cons]
    obtain ⟨hNumbers, hNext⟩ := ih (l.appoint representativeId role first)
    have hLast : (l.appointAll representativeId role (first :: rest)).nextId = _ := hNext
    rw [hLast]
    by_cases hOpen : l.IsOpen first role
    -- this turn takes the next number, and the later ones count on from there
    · rw [appoint_of_open hOpen] at hNumbers ⊢
      have hHead : madeBy representativeId role [⟨first, l.verdict representativeId role first⟩] =
          [l.next first representativeId role] := by
        rw [verdict_of_open hOpen]
        rfl
      have hLater : (l.add (l.next first representativeId role)).nextId = l.nextId + 1 := rfl
      rw [hHead, List.singleton_append, List.map_cons, List.length_cons, List.range_succ_eq_map,
        List.map_cons, List.map_map, hNumbers, hLater]
      refine ⟨congrArg₂ List.cons (Int.add_zero _).symm (List.map_congr_left fun n _ => ?_), ?_⟩
      · show l.nextId + 1 + (n : Int) = l.nextId + ((n + 1 : Nat) : Int)
        omega
      · omega
    · rw [appoint_of_not_open hOpen] at hNumbers ⊢
      rw [madeBy_of_not_isOpen hOpen]
      exact ⟨hNumbers, rfl⟩

/-- Whoever holds a slot keeps it. -/
theorem findSlot_appointAll_of_held {role' : Role} {held : Assignment}
    (h : l.findSlot sectionId role' = some held) :
    (l.appointAll representativeId role sectionIds).findSlot sectionId role' = some held := by
  induction sectionIds generalizing l with
  | nil => exact h
  | cons first rest ih => exact ih (findSlot_appoint_of_held h)

/-- **Slots.** All turns together fill the slots that were open, and change no others. -/
theorem findSlot_appointAll (sectionId : Int) (role' : Role) :
    ((l.appointAll representativeId role sectionIds).findSlot sectionId role').map
        Assignment.unnumbered =
      if l.IsOpen sectionId role ∧ sectionId ∈ sectionIds ∧ role' = role then
        some ⟨0, sectionId, representativeId, role⟩
      else (l.findSlot sectionId role').map Assignment.unnumbered := by
  induction sectionIds generalizing l with
  | nil => simp [appointAll]
  | cons first rest ih =>
    have hTurn : (l.appointAll representativeId role (first :: rest)).findSlot sectionId role' =
      ((l.appoint representativeId role first).appointAll representativeId role rest).findSlot
        sectionId role' := rfl
    rw [hTurn, ih, findSlot_appoint]
    by_cases hFirst : sectionId = first
    -- its own turn closes the slot
    · subst hFirst
      have hClosed : ¬(l.appoint representativeId role sectionId).IsOpen sectionId role :=
        not_isOpen_appoint
      rw [if_neg fun h => hClosed h.1]
      by_cases hOpen : l.IsOpen sectionId role <;> by_cases hRole : role' = role
      · simp [hOpen, hRole, Assignment.unnumbered, Ledger.next]
      · simp [hRole]
      · simp [hOpen]
      · simp [hOpen]
    -- the turns of others leave it alone
    · simp [isOpen_appoint_of_ne hFirst, hFirst]

end Ledger

namespace Assigning

open Ledger

variable {l : Ledger} {representativeId : Int} {role : Role}

/-! ## Batches -/

/-- Whether two runs over a ledger leave it alike but for the numbers of the assignments that they
make. -/
structure LeaveAlike (l : Ledger) (t t' : Trace Ledger BulkReport) : Prop where
  territory : t.repository.territory = t'.repository.territory
  representatives : t.repository.representatives = t'.repository.representatives
  nextId : t.repository.nextId = t'.repository.nextId
  /-- The new assignments are the same ones, and their numbers are the same ones. -/
  made : ∃ made made', t.repository.assignments = l.assignments ++ made ∧
    t'.repository.assignments = l.assignments ++ made' ∧
    t.events = made.map .assigned ∧ t'.events = made'.map .assigned ∧
    (made.map Assignment.unnumbered).Perm (made'.map Assignment.unnumbered) ∧
    made.map (·.id) = made'.map (·.id)
  slots : ∀ sectionId role, (t.repository.findSlot sectionId role).map Assignment.unnumbered =
    (t'.repository.findSlot sectionId role).map Assignment.unnumbered
  /-- Whoever held a slot before still holds it, under the same number. -/
  held : ∀ sectionId role held, l.findSlot sectionId role = some held →
    t.repository.findSlot sectionId role = some held ∧
    t'.repository.findSlot sectionId role = some held

/-- The accounts of the same sections are the same up to order and new numbers. -/
theorem perm_account {sectionIds sectionIds' : List Int} (h : sectionIds.Nodup)
    (hPerm : sectionIds.Perm sectionIds') :
    ((l.account representativeId role sectionIds).map BulkItem.unnumbered).Perm
      ((l.account representativeId role sectionIds').map BulkItem.unnumbered) := by
  rw [account_unnumbered h, account_unnumbered (hPerm.nodup_iff.mp h)]
  exact hPerm.map _

theorem perm_madeBy (l : Ledger) (representativeId : Int) (role : Role)
    {sectionIds sectionIds' : List Int} (h : sectionIds.Nodup)
    (hPerm : sectionIds.Perm sectionIds') :
    ((madeBy representativeId role (l.account representativeId role sectionIds)).map
      Assignment.unnumbered).Perm
      ((madeBy representativeId role (l.account representativeId role sectionIds')).map
        Assignment.unnumbered) := by
  rw [← madeBy_unnumbered, ← madeBy_unnumbered]
  exact (perm_account h hPerm).filterMap _

/-- The turns of the same sections, in two orders. -/
theorem leaveAlike_of_perm {sectionIds sectionIds' : List Int} (h : sectionIds.Nodup)
    (hPerm : sectionIds.Perm sectionIds') (result result' : Except OperationError BulkReport)
    (finish finish' : Moment) :
    LeaveAlike l
      ⟨result, (madeBy representativeId role
          (l.account representativeId role sectionIds)).map .assigned,
        l.appointAll representativeId role sectionIds, finish⟩
      ⟨result', (madeBy representativeId role
          (l.account representativeId role sectionIds')).map .assigned,
        l.appointAll representativeId role sectionIds', finish'⟩ := by
  have hMade := perm_madeBy l representativeId role h hPerm
  -- as many assignments are made, so they get the same numbers
  have hCount := hMade.length_eq
  rw [List.length_map, List.length_map] at hCount
  have hNumbers := numbers_appointAll l representativeId role sectionIds
  have hNumbers' := numbers_appointAll l representativeId role sectionIds'
  exact {
    territory := territory_appointAll.trans territory_appointAll.symm
    representatives := representatives_appointAll.trans representatives_appointAll.symm
    nextId := by
      dsimp only
      rw [hNumbers.2, hNumbers'.2, hCount]
    made := by
      refine ⟨_, _, assignments_appointAll, assignments_appointAll, rfl, rfl, hMade, ?_⟩
      rw [hNumbers.1, hNumbers'.1, hCount]
    slots := by
      intro sectionId role'
      dsimp only
      simp only [findSlot_appointAll, hPerm.mem_iff]
    held := fun _ _ _ hHeld =>
      ⟨findSlot_appointAll_of_held hHeld, findSlot_appointAll_of_held hHeld⟩ }

/-- **Batches in any order.** Two batches of the same sections, in any order and with any
repetitions, each run undisturbed over the same ledger, report the same of every section and leave
the ledger alike, but for the numbers of the assignments that they make. Where they fail they fail
alike and change nothing. -/
theorem bulkAssign_any_order {l : Ledger} {sectionIds sectionIds' : List Int}
    (hSome : sectionIds ≠ []) (hPositive : ∀ id ∈ sectionIds, 0 < id)
    (hSame : ∀ id, id ∈ sectionIds ↔ id ∈ sectionIds') (representativeId : Int) (role : Role) :
    let t := (bulkAssign representativeId sectionIds role).run none 0 l
    let t' := (bulkAssign representativeId sectionIds' role).run none 0 l
    (0 < representativeId ∧ (l.representative? representativeId).isSome →
      (∃ items items', t.result = .ok ⟨representativeId, role, items⟩ ∧
        t'.result = .ok ⟨representativeId, role, items'⟩ ∧
        items.map (·.sectionId) = sectionIds.eraseDups ∧
        items'.map (·.sectionId) = sectionIds'.eraseDups ∧
        (items.map BulkItem.unnumbered).Perm (items'.map BulkItem.unnumbered)) ∧
      LeaveAlike l t t') ∧
    (¬(0 < representativeId ∧ (l.representative? representativeId).isSome) →
      ∃ e, t.result = .error e ∧ t'.result = .error e ∧ t.events = [] ∧ t'.events = [] ∧
        t.repository = l ∧ t'.repository = l) := by
  intro t t'
  have hSome' : sectionIds' ≠ [] := by
    obtain ⟨id, hId⟩ := List.exists_mem_of_ne_nil _ hSome
    exact List.ne_nil_of_mem ((hSame id).mp hId)
  have hPositive' : ∀ id ∈ sectionIds', 0 < id := fun id hId => hPositive id ((hSame id).mpr hId)
  -- each section has its turn once, in two orders
  have hPerm : (distinct sectionIds).Perm (distinct sectionIds') := by
    rw [List.perm_ext_iff_of_nodup (nodup_distinct _) (nodup_distinct _)]
    intro id
    rw [mem_distinct, mem_distinct, hSame]
  constructor
  · rintro ⟨hPos, hKnown⟩
    obtain ⟨finish, hRun⟩ := run_bulkAssign_undisturbed hPos hSome hPositive hKnown role
    obtain ⟨finish', hRun'⟩ := run_bulkAssign_undisturbed hPos hSome' hPositive' hKnown role
    change t = _ at hRun
    change t' = _ at hRun'
    rw [hRun, hRun', ← distinct_eq_eraseDups, ← distinct_eq_eraseDups]
    exact ⟨⟨_, _, rfl, rfl, sections_account .., sections_account ..,
      perm_account (nodup_distinct _) hPerm⟩, leaveAlike_of_perm (nodup_distinct _) hPerm _ _ _ _⟩
  -- the batch is refused for its representative, whatever its sections
  · intro hNot
    by_cases hPos : 0 < representativeId
    · have hUnknown : l.representative? representativeId = none := by
        rw [← Option.not_isSome_iff_eq_none]
        exact fun hKnown => hNot ⟨hPos, hKnown⟩
      have hRun : t = _ := run_bulkAssign_of_unknown hPos hSome hPositive hUnknown
      have hRun' : t' = _ := run_bulkAssign_of_unknown hPos hSome' hPositive' hUnknown
      rw [hRun, hRun']
      exact ⟨_, rfl, rfl, rfl, rfl, rfl, rfl⟩
    · obtain ⟨reason, hCheck⟩ := OperationError.checkId_of_not_pos hPos "representative_id"
      have hRun : t = _ := run_bulkAssign_of_refused hSome hCheck
      have hRun' : t' = _ := run_bulkAssign_of_refused hSome' hCheck
      rw [hRun, hRun']
      exact ⟨_, rfl, rfl, rfl, rfl, rfl, rfl⟩

/-- Anna asks for the same sections twice over in another order. The third section is filled under
another number, the second one is Bruno's both times. -/
theorem bulkAssign_any_order_village :
    let t := (bulkAssign 1 [1, 2, 9, 1, 3] .primary).run none 0 .village
    let t' := (bulkAssign 1 [3, 9, 2, 3, 1] .primary).run none 0 .village
    (Ledger.village.representative? 1).isSome ∧
    (∀ id, id ∈ ([1, 2, 9, 1, 3] : List Int) ↔ id ∈ ([3, 9, 2, 3, 1] : List Int)) ∧
    t.result = .ok ⟨1, .primary,
      [⟨1, .assigned 2⟩, ⟨2, .slotOccupied 2⟩, ⟨9, .notFound⟩, ⟨3, .assigned 3⟩]⟩ ∧
    t'.result = .ok ⟨1, .primary,
      [⟨3, .assigned 2⟩, ⟨9, .notFound⟩, ⟨2, .slotOccupied 2⟩, ⟨1, .assigned 3⟩]⟩ ∧
    LeaveAlike .village t t' := by
  have hKnown : (Ledger.village.representative? 1).isSome := by decide
  have hPositive : ∀ id ∈ [1, 2, 9, 1, 3], (0 : Int) < id := by decide
  have hSame : ∀ id, id ∈ ([1, 2, 9, 1, 3] : List Int) ↔ id ∈ ([3, 9, 2, 3, 1] : List Int) := by
    intro id
    simp only [List.mem_cons, List.not_mem_nil, or_false]
    omega
  obtain ⟨hDone, -⟩ := bulkAssign_any_order (List.cons_ne_nil _ _) hPositive hSame 1 .primary
  exact ⟨hKnown, hSame, rfl, rfl, (hDone ⟨Int.one_pos, hKnown⟩).2⟩

end Assigning

end PollRoster
