import PollRoster.Proofs.Report

/-!
# Appointments

What a batch comes to that nobody disturbs, said without programs. At the turn of a section that is
known and whose slot is open the representative is appointed; at the turn of any other section the
ledger stays as it is.

Two facts about turns carry all the rest. A slot that is not open stays so while representatives are
appointed, hence a section has nothing more to come after its turn. And the turn of a section looks
at nothing but its own slot, hence the turns of others show in it by the next identifier only.

Main results:

* `run_fillSlots_undisturbed`, `run_bulkAssign_undisturbed` — an undisturbed batch is the account of
  its sections.
* `appointAll_resumed`, `account_resumed` — sections that had their turn are passed over when they
  are gone through again.
* `assignments_appointAll` — the turns add what is reported as made, and nothing else.
-/

namespace PollRoster

namespace Ledger

/-! ## Turns -/

/-- Whether a slot can be filled: its section is known and nobody holds it. -/
def IsOpen (l : Ledger) (sectionId : Int) (role : Role) : Prop :=
  (l.territory.section? sectionId).isSome ∧ l.findSlot sectionId role = none

instance (l : Ledger) (sectionId : Int) (role : Role) : Decidable (l.IsOpen sectionId role) :=
  inferInstanceAs (Decidable (_ ∧ _))

/-- The ledger after the turn of a section. -/
def appoint (representativeId : Int) (role : Role) (l : Ledger) (sectionId : Int) : Ledger :=
  if l.IsOpen sectionId role then l.add (l.next sectionId representativeId role) else l

/-- The ledger after the turns of sections one after another. -/
def appointAll (representativeId : Int) (role : Role) (l : Ledger) (sectionIds : List Int) :
    Ledger :=
  sectionIds.foldl (appoint representativeId role) l

/-- The status that the turn of a section comes to. -/
def verdict (representativeId : Int) (role : Role) (l : Ledger) (sectionId : Int) : BulkStatus :=
  match l.territory.section? sectionId, l.findSlot sectionId role with
  | none, _ => .notFound
  | some _, none => .assigned l.nextId
  | some _, some held =>
    if held.representativeId = representativeId then .alreadyAssigned held.id
    else .slotOccupied held.representativeId

/-- The items that the turns of sections come to, one after another. -/
def account (representativeId : Int) (role : Role) : Ledger → List Int → List BulkItem
  | _, [] => []
  | l, sectionId :: rest =>
    ⟨sectionId, l.verdict representativeId role sectionId⟩ ::
      account representativeId role (l.appoint representativeId role sectionId) rest

variable {l : Ledger} {representativeId sectionId : Int} {role : Role}

theorem appoint_of_open (h : l.IsOpen sectionId role) :
    l.appoint representativeId role sectionId = l.add (l.next sectionId representativeId role) :=
  if_pos h

theorem appoint_of_not_open (h : ¬l.IsOpen sectionId role) :
    l.appoint representativeId role sectionId = l :=
  if_neg h

theorem verdict_of_unknown (h : l.territory.section? sectionId = none) :
    l.verdict representativeId role sectionId = .notFound := by
  unfold verdict
  rw [h]

theorem verdict_of_open (h : l.IsOpen sectionId role) :
    l.verdict representativeId role sectionId = .assigned l.nextId := by
  obtain ⟨x, hSection⟩ := Option.isSome_iff_exists.mp h.1
  unfold verdict
  rw [hSection, h.2]

theorem verdict_of_held (hSection : (l.territory.section? sectionId).isSome) {held : Assignment}
    (hHeld : l.findSlot sectionId role = some held) :
    l.verdict representativeId role sectionId =
      if held.representativeId = representativeId then .alreadyAssigned held.id
      else .slotOccupied held.representativeId := by
  obtain ⟨x, hSection⟩ := Option.isSome_iff_exists.mp hSection
  unfold verdict
  rw [hSection, hHeld]

/-- A slot that is not open has no section or has a holder. -/
theorem not_isOpen_iff : ¬l.IsOpen sectionId role ↔ l.territory.section? sectionId = none ∨
    (l.territory.section? sectionId).isSome ∧ ∃ held, l.findSlot sectionId role = some held := by
  unfold IsOpen
  cases l.territory.section? sectionId <;> cases l.findSlot sectionId role <;> simp

/-! ## One turn -/

@[simp] theorem territory_appoint :
    (l.appoint representativeId role sectionId).territory = l.territory := by
  unfold appoint
  split <;> rfl

@[simp] theorem representatives_appoint :
    (l.appoint representativeId role sectionId).representatives = l.representatives := by
  unfold appoint
  split <;> rfl

/-- The turn of a section changes no slot but an open one, which it fills. -/
theorem findSlot_appoint (sectionId' : Int) (role' : Role) :
    (l.appoint representativeId role sectionId).findSlot sectionId' role' =
      if l.IsOpen sectionId role ∧ (sectionId', role') = (sectionId, role) then
        some (l.next sectionId representativeId role)
      else l.findSlot sectionId' role' := by
  by_cases hOpen : l.IsOpen sectionId role
  · rw [appoint_of_open hOpen, findSlot_add]
    show (l.findSlot sectionId' role').or
      (if (sectionId, role) = (sectionId', role') then _ else _) = _
    by_cases hSame : (sectionId', role') = (sectionId, role)
    · obtain ⟨rfl, rfl⟩ := Prod.mk.inj hSame
      simp [hOpen, hOpen.2]
    · have hOther : ¬(sectionId, role) = (sectionId', role') := fun h => hSame h.symm
      rw [if_neg hOther, if_neg fun h => hSame h.2, Option.or_none]
  · rw [appoint_of_not_open hOpen, if_neg fun h => hOpen h.1]

/-- Whoever holds a slot keeps it. -/
theorem findSlot_appoint_of_held {sectionId' : Int} {role' : Role} {held : Assignment}
    (h : l.findSlot sectionId' role' = some held) :
    (l.appoint representativeId role sectionId).findSlot sectionId' role' = some held := by
  rw [findSlot_appoint, if_neg, h]
  rintro ⟨hOpen, hSame⟩
  obtain ⟨rfl, rfl⟩ := Prod.mk.inj hSame
  rw [hOpen.2] at h
  cases h

/-- After its turn a section has nothing more to come. -/
theorem not_isOpen_appoint :
    ¬(l.appoint representativeId role sectionId).IsOpen sectionId role := by
  intro hStill
  have hFree := hStill.2
  rw [findSlot_appoint] at hFree
  split at hFree
  · cases hFree
  next hClosed =>
    -- nobody was appointed, so the slot was not open before, and it has not changed
    rw [appoint_of_not_open fun h => hClosed ⟨h, rfl⟩] at hStill
    exact hClosed ⟨hStill, rfl⟩

theorem not_isOpen_appoint_of_not_isOpen {sectionId' : Int} (h : ¬l.IsOpen sectionId' role) :
    ¬(l.appoint representativeId role sectionId).IsOpen sectionId' role := by
  rw [not_isOpen_iff] at h ⊢
  rw [territory_appoint]
  rcases h with hUnknown | ⟨hSection, held, hHeld⟩
  · exact .inl hUnknown
  · exact .inr ⟨hSection, held, findSlot_appoint_of_held hHeld⟩

/-- The turn of another section leaves a slot open or not. -/
theorem isOpen_appoint_of_ne {sectionId' : Int} (h : sectionId' ≠ sectionId) :
    (l.appoint representativeId role sectionId).IsOpen sectionId' role ↔
      l.IsOpen sectionId' role := by
  have hOther : ¬(l.IsOpen sectionId role ∧ (sectionId', role) = (sectionId, role)) :=
    fun hBoth => h (Prod.mk.inj hBoth.2).1
  unfold IsOpen
  rw [territory_appoint, findSlot_appoint, if_neg hOther]

/-- The verdict on a slot that is not open is final. -/
theorem verdict_appoint_of_not_isOpen {sectionId' : Int} (h : ¬l.IsOpen sectionId' role) :
    (l.appoint representativeId role sectionId).verdict representativeId role sectionId' =
      l.verdict representativeId role sectionId' := by
  rcases not_isOpen_iff.mp h with hUnknown | ⟨hSection, held, hHeld⟩
  · rw [verdict_of_unknown hUnknown, verdict_of_unknown (by rwa [territory_appoint])]
  · rw [verdict_of_held hSection hHeld,
      verdict_of_held (by rwa [territory_appoint]) (findSlot_appoint_of_held hHeld)]

end Ledger

/-! ## Going through sections again -/

/-- What is reported of a section that is gone through again. -/
def BulkStatus.again : BulkStatus → BulkStatus
  | .assigned id => .alreadyAssigned id
  | status => status

def BulkItem.again (item : BulkItem) : BulkItem := { item with status := item.status.again }

namespace Ledger

variable {l : Ledger} {representativeId sectionId : Int} {role : Role}

/-- Right after its turn a section is reported as it was, but for the assignment just made. -/
theorem verdict_appoint_self :
    (l.appoint representativeId role sectionId).verdict representativeId role sectionId =
      (l.verdict representativeId role sectionId).again := by
  by_cases hOpen : l.IsOpen sectionId role
  · have hSection : ((l.appoint representativeId role sectionId).territory.section?
        sectionId).isSome := by
      rw [territory_appoint]
      exact hOpen.1
    have hHeld : (l.appoint representativeId role sectionId).findSlot sectionId role =
        some (l.next sectionId representativeId role) := by
      rw [findSlot_appoint, if_pos ⟨hOpen, rfl⟩]
    rw [verdict_of_held hSection hHeld, verdict_of_open hOpen]
    exact if_pos rfl
  · rw [verdict_appoint_of_not_isOpen hOpen]
    -- no new assignment is reported of a slot that is not open
    rcases not_isOpen_iff.mp hOpen with hUnknown | ⟨hSection, held, hHeld⟩
    · rw [verdict_of_unknown hUnknown]
      rfl
    · rw [verdict_of_held hSection hHeld]
      split <;> rfl

section AllTurns

variable {sectionIds : List Int}

theorem appointAll_append (before after : List Int) :
    l.appointAll representativeId role (before ++ after) =
      (l.appointAll representativeId role before).appointAll representativeId role after :=
  List.foldl_append

theorem territory_appointAll :
    (l.appointAll representativeId role sectionIds).territory = l.territory := by
  induction sectionIds generalizing l with
  | nil => rfl
  | cons sectionId rest ih => exact ih.trans territory_appoint

theorem representatives_appointAll :
    (l.appointAll representativeId role sectionIds).representatives = l.representatives := by
  induction sectionIds generalizing l with
  | nil => rfl
  | cons sectionId rest ih => exact ih.trans representatives_appoint

theorem not_isOpen_appointAll_of_not_isOpen (h : ¬l.IsOpen sectionId role) :
    ¬(l.appointAll representativeId role sectionIds).IsOpen sectionId role := by
  induction sectionIds generalizing l with
  | nil => exact h
  | cons first rest ih => exact ih (not_isOpen_appoint_of_not_isOpen h)

/-- After all turns none of the sections has anything more to come. -/
theorem not_isOpen_appointAll (h : sectionId ∈ sectionIds) :
    ¬(l.appointAll representativeId role sectionIds).IsOpen sectionId role := by
  induction sectionIds generalizing l with
  | nil => simp at h
  | cons first rest ih =>
    show ¬((l.appoint representativeId role first).appointAll representativeId role rest).IsOpen
      sectionId role
    rcases List.mem_cons.mp h with rfl | hRest
    · exact not_isOpen_appointAll_of_not_isOpen not_isOpen_appoint
    · exact ih hRest

theorem appointAll_of_not_isOpen (h : ∀ id ∈ sectionIds, ¬l.IsOpen id role) :
    l.appointAll representativeId role sectionIds = l := by
  induction sectionIds with
  | nil => rfl
  | cons first rest ih =>
    obtain ⟨hFirst, hRest⟩ := List.forall_mem_cons.mp h
    show (l.appoint representativeId role first).appointAll representativeId role rest = l
    rw [appoint_of_not_open hFirst]
    exact ih hRest

/-- **Resuming.** Sections that had their turn are passed over. -/
theorem appointAll_resumed (before after : List Int) :
    (l.appointAll representativeId role before).appointAll representativeId role (before ++ after) =
      l.appointAll representativeId role (before ++ after) := by
  rw [appointAll_append, appointAll_of_not_isOpen fun _ h => not_isOpen_appointAll h,
    ← appointAll_append]

theorem verdict_appointAll_of_not_isOpen (h : ¬l.IsOpen sectionId role) :
    (l.appointAll representativeId role sectionIds).verdict representativeId role sectionId =
      l.verdict representativeId role sectionId := by
  induction sectionIds generalizing l with
  | nil => rfl
  | cons first rest ih =>
    exact (ih (not_isOpen_appoint_of_not_isOpen h)).trans (verdict_appoint_of_not_isOpen h)

/-! ## Accounts -/

theorem sections_account (l : Ledger) (representativeId : Int) (role : Role)
    (sectionIds : List Int) :
    (l.account representativeId role sectionIds).map (·.sectionId) = sectionIds := by
  induction sectionIds generalizing l with
  | nil => rfl
  | cons first rest ih =>
    unfold account
    rw [List.map_cons, ih]

/-- Sections that are gone through once have one item each. -/
theorem account_inj (h : sectionIds.Nodup) {item item' : BulkItem}
    (hItem : item ∈ l.account representativeId role sectionIds)
    (hItem' : item' ∈ l.account representativeId role sectionIds)
    (hSame : item.sectionId = item'.sectionId) : item = item' := by
  rw [← sections_account l representativeId role sectionIds] at h
  exact List.inj_on_of_nodup_map h hItem hItem' hSame

theorem account_append (before after : List Int) :
    l.account representativeId role (before ++ after) =
      l.account representativeId role before ++
        (l.appointAll representativeId role before).account representativeId role after := by
  induction before generalizing l with
  | nil => rfl
  | cons first rest ih =>
    rw [List.cons_append, account, ih, account, List.cons_append]
    rfl

theorem account_of_not_isOpen (h : ∀ id ∈ sectionIds, ¬l.IsOpen id role) :
    l.account representativeId role sectionIds =
      sectionIds.map fun id => ⟨id, l.verdict representativeId role id⟩ := by
  induction sectionIds with
  | nil => rfl
  | cons first rest ih =>
    obtain ⟨hFirst, hRest⟩ := List.forall_mem_cons.mp h
    rw [account, appoint_of_not_open hFirst, ih hRest, List.map_cons]

/-- After all turns the sections are reported as they were, but for the assignments made. -/
theorem again_account :
    (l.account representativeId role sectionIds).map BulkItem.again =
      sectionIds.map fun id =>
        ⟨id, (l.appointAll representativeId role sectionIds).verdict representativeId role id⟩ := by
  induction sectionIds generalizing l with
  | nil => rfl
  | cons first rest ih =>
    rw [account, List.map_cons, List.map_cons, ih]
    -- the verdict on the first section was final after its own turn
    have hFirst : (l.appointAll representativeId role (first :: rest)).verdict representativeId role
        first = (l.verdict representativeId role first).again :=
      (verdict_appointAll_of_not_isOpen not_isOpen_appoint).trans verdict_appoint_self
    rw [hFirst]
    rfl

/-- **Resuming.** Sections that had their turn are reported again, the assignments made at them as
held; the others are reported as if they were never interrupted. -/
theorem account_resumed (before after : List Int) :
    (l.appointAll representativeId role before).account representativeId role (before ++ after) =
      (l.account representativeId role before).map BulkItem.again ++
        (l.appointAll representativeId role before).account representativeId role after := by
  have hClosed : ∀ id ∈ before, ¬(l.appointAll representativeId role before).IsOpen id role :=
    fun _ h => not_isOpen_appointAll h
  rw [account_append, appointAll_of_not_isOpen hClosed, account_of_not_isOpen hClosed,
    again_account]

/-! ## The assignments made -/

theorem madeBy_append (items items' : List BulkItem) :
    madeBy representativeId role (items ++ items') =
      madeBy representativeId role items ++ madeBy representativeId role items' :=
  List.filterMap_append

theorem madeBy_account_cons (sectionId : Int) (rest : List Int) :
    madeBy representativeId role (l.account representativeId role (sectionId :: rest)) =
      madeBy representativeId role [⟨sectionId, l.verdict representativeId role sectionId⟩] ++
        madeBy representativeId role
          ((l.appoint representativeId role sectionId).account representativeId role rest) :=
  madeBy_cons _ _

theorem madeBy_of_not_isOpen (h : ¬l.IsOpen sectionId role) :
    madeBy representativeId role [⟨sectionId, l.verdict representativeId role sectionId⟩] = [] := by
  rcases not_isOpen_iff.mp h with hUnknown | ⟨hSection, held, hHeld⟩
  · rw [verdict_of_unknown hUnknown]
    rfl
  · rw [verdict_of_held hSection hHeld]
    split <;> rfl

/-- The turns add the assignments that are reported as made, and change no others. -/
theorem assignments_appointAll :
    (l.appointAll representativeId role sectionIds).assignments = l.assignments ++
      madeBy representativeId role (l.account representativeId role sectionIds) := by
  induction sectionIds generalizing l with
  | nil => exact (List.append_nil _).symm
  | cons first rest ih =>
    have hFirst : (l.appoint representativeId role first).assignments = l.assignments ++
        madeBy representativeId role [⟨first, l.verdict representativeId role first⟩] := by
      by_cases hOpen : l.IsOpen first role
      · rw [appoint_of_open hOpen, verdict_of_open hOpen]
        rfl
      · rw [appoint_of_not_open hOpen, madeBy_of_not_isOpen hOpen, List.append_nil]
    rw [madeBy_account_cons, ← List.append_assoc, ← hFirst]
    exact ih

/-- Nothing is made at sections that are gone through again. -/
theorem madeBy_again (items : List BulkItem) :
    madeBy representativeId role (items.map BulkItem.again) = [] := by
  have hNone : ∀ item : BulkItem, item.again.made? representativeId role = none := by
    rintro ⟨sectionId, status⟩
    cases status <;> rfl
  simp [madeBy, hNone]

theorem mem_madeBy {items : List BulkItem} {a : Assignment}
    (h : a ∈ madeBy representativeId role items) : ⟨a.sectionId, .assigned a.id⟩ ∈ items := by
  obtain ⟨⟨id, status⟩, hItem, hMade⟩ := List.mem_filterMap.mp h
  cases status with
  | assigned made =>
    obtain rfl := Option.some.inj hMade
    exact hItem
  | _ => cases hMade

end AllTurns

end Ledger

/-! ## Batches -/

namespace Assigning

open Program

variable {l : Ledger} {representativeId sectionId : Int} {role : Role}

/-- An undisturbed turn comes to its verdict. -/
theorem run_fillNext_undisturbed (l : Ledger) (representativeId : Int) (role : Role)
    (hPos : 0 < sectionId) (now : Moment) :
    ∃ finish, (fillNext representativeId role sectionId).run none now l =
      ⟨.ok (l.verdict representativeId role sectionId),
        (madeBy representativeId role
          [⟨sectionId, l.verdict representativeId role sectionId⟩]).map .assigned,
        l.appoint representativeId role sectionId, finish⟩ := by
  have hStop : Cancellation.isRaised none now = false := rfl
  rw [run_fillNext_unless_cancelled hStop]
  by_cases hOpen : l.IsOpen sectionId role
  · rw [run_fillSlot_of_free hPos hOpen.1 hOpen.2, Ledger.verdict_of_open hOpen,
      Ledger.appoint_of_open hOpen]
    exact ⟨_, rfl⟩
  · rw [Ledger.appoint_of_not_open hOpen]
    rcases Ledger.not_isOpen_iff.mp hOpen with hUnknown | ⟨hSection, held, hHeld⟩
    · rw [run_fillSlot_of_unknown hPos hUnknown, Ledger.verdict_of_unknown hUnknown]
      exact ⟨_, rfl⟩
    · rw [run_fillSlot_of_held hPos hSection hHeld, Ledger.verdict_of_held hSection hHeld]
      unfold heldOrOccupied
      split <;> exact ⟨_, rfl⟩

/-- **Undisturbed batches.** -/
theorem run_fillSlots_undisturbed (l : Ledger) (representativeId : Int) (role : Role)
    {sectionIds : List Int} (hPos : ∀ id ∈ sectionIds, 0 < id) (now : Moment) :
    ∃ finish, (fillSlots representativeId role sectionIds).run none now l =
      ⟨.ok (l.account representativeId role sectionIds),
        (madeBy representativeId role (l.account representativeId role sectionIds)).map .assigned,
        l.appointAll representativeId role sectionIds, finish⟩ := by
  induction sectionIds generalizing now l with
  | nil => exact ⟨now, rfl⟩
  | cons sectionId rest ih =>
    obtain ⟨hFirst, hRest⟩ := List.forall_mem_cons.mp hPos
    obtain ⟨later, hTurn⟩ := run_fillNext_undisturbed l representativeId role hFirst now
    obtain ⟨finish, hOthers⟩ := ih (l.appoint representativeId role sectionId) hRest later
    refine ⟨finish, ?_⟩
    rw [fillSlots, run_bind, hTurn, Trace.andThen]
    dsimp only
    rw [run_map, hOthers, Ledger.madeBy_account_cons, List.map_append]
    rfl

theorem run_bulkAssign_undisturbed (hPos : 0 < representativeId) {sectionIds : List Int}
    (hSome : sectionIds ≠ []) (hPositive : ∀ id ∈ sectionIds, 0 < id)
    (hKnown : (l.representative? representativeId).isSome) (role : Role) :
    ∃ finish, (bulkAssign representativeId sectionIds role).run none 0 l =
      ⟨.ok ⟨representativeId, role, l.account representativeId role (distinct sectionIds)⟩,
        (madeBy representativeId role
          (l.account representativeId role (distinct sectionIds))).map .assigned,
        l.appointAll representativeId role (distinct sectionIds), finish⟩ := by
  have hDistinct : ∀ id ∈ distinct sectionIds, 0 < id := fun id hId =>
    hPositive id (mem_distinct.mp hId)
  obtain ⟨finish, hFill⟩ := run_fillSlots_undisturbed l representativeId role hDistinct 0
  rw [run_bulkAssign hPos hSome hPositive hKnown, run_map, hFill]
  exact ⟨finish, rfl⟩

end Assigning

end PollRoster
