import PollRoster.Proofs.Batch

/-!
# Truthful reports

What the report of a batch says is so when the batch has ended, whenever the operator cancelled. The
flag can go up in the middle of a batch because of what the batch itself announced; the sections
after that announcement, and no others, are then reported as cancelled.

A report speaks of the ledger at the end, and most of it was written earlier. What an item says
stays so because a batch only adds assignments: the slot of an item that is filled or occupied
cannot be taken by anybody else.

Main results:

* `fillNext_accounted` — one section: what is reported of it is so at once.
* `fillSlots_accounted` — all sections, by recursion.
* `bulkAssign_truthful` — a batch as a whole.
-/

namespace PollRoster

namespace Ledger

/-- Whether an assignment, and nothing else, takes its slot. -/
def IsHeldBy (l : Ledger) (a : Assignment) : Prop :=
  ∀ b, b ∈ l.assignments ∧ b.slot = a.slot ↔ b = a

theorem Orderly.isHeldBy {l : Ledger} (h : l.Orderly) {a : Assignment}
    (hMem : a ∈ l.assignments) : l.IsHeldBy a := by
  intro b
  constructor
  · rintro ⟨hb, hSlot⟩
    exact List.inj_on_of_nodup_map h.slots hb hMem hSlot
  · rintro rfl
    exact ⟨hMem, rfl⟩

theorem Orderly.isHeldBy_of_findSlot {l : Ledger} (h : l.Orderly) {sectionId : Int} {role : Role}
    {a : Assignment} (hFind : l.findSlot sectionId role = some a) :
    l.IsHeldBy ⟨a.id, sectionId, a.representativeId, role⟩ := by
  obtain ⟨hMem, hSlot⟩ := (findSlot_eq_some_iff h).mp hFind
  obtain ⟨rfl, rfl⟩ := Prod.mk.inj hSlot
  exact h.isHeldBy hMem

end Ledger

/-! ## What a report says -/

namespace BulkItem

/-- Whether what an item says is so of a ledger. -/
def IsBorneOut (representativeId : Int) (role : Role) (l : Ledger) (item : BulkItem) : Prop :=
  match item.status with
  | .assigned id | .alreadyAssigned id => l.IsHeldBy ⟨id, item.sectionId, representativeId, role⟩
  | .slotOccupied occupant =>
    occupant ≠ representativeId ∧ ∃ id, l.IsHeldBy ⟨id, item.sectionId, occupant, role⟩
  | .notFound => l.territory.section? item.sectionId = none
  | .cancelled => True

/-- The assignment that an item reports as made. -/
def made? (representativeId : Int) (role : Role) (item : BulkItem) : Option Assignment :=
  match item.status with
  | .assigned id => some ⟨id, item.sectionId, representativeId, role⟩
  | _ => none

variable {representativeId : Int} {role : Role} {l l' : Ledger}

/-- What an item says stays so while assignments are only added. -/
theorem IsBorneOut.of_added {item : BulkItem} (h : item.IsBorneOut representativeId role l)
    (hLike : l.IsLike l') (hOrderly : l'.Orderly) (hKept : l.assignments ⊆ l'.assignments) :
    item.IsBorneOut representativeId role l' := by
  -- whoever held a slot is still there, and the ledger that grew holds no slot twice
  have hStays : ∀ a, l.IsHeldBy a → l'.IsHeldBy a := fun a ha =>
    hOrderly.isHeldBy (hKept ((ha a).mpr rfl).1)
  obtain ⟨sectionId, status⟩ := item
  cases status with
  | assigned id => exact hStays _ h
  | alreadyAssigned id => exact hStays _ h
  | slotOccupied occupant =>
    obtain ⟨hOther, id, hHeld⟩ := h
    exact ⟨hOther, id, hStays _ hHeld⟩
  | notFound =>
    show l'.territory.section? sectionId = none
    rw [hLike.1]
    exact h
  | cancelled => trivial

end BulkItem

/-- The assignments that items report as made, in their order. -/
def madeBy (representativeId : Int) (role : Role) (items : List BulkItem) : List Assignment :=
  items.filterMap (·.made? representativeId role)

/-- The assignments that a report tells of, in the order of its items. -/
def BulkReport.made (report : BulkReport) : List Assignment :=
  madeBy report.representativeId report.role report.items

/-- How many slots items report as filled. -/
def filledCount (items : List BulkItem) : Nat := items.countP (·.status.isCreated)

theorem madeBy_cons {representativeId : Int} {role : Role} (item : BulkItem)
    (items : List BulkItem) : madeBy representativeId role (item :: items) =
      madeBy representativeId role [item] ++ madeBy representativeId role items := by
  rw [madeBy, ← List.singleton_append, List.filterMap_append]
  rfl

theorem filledCount_cons (item : BulkItem) (items : List BulkItem) :
    filledCount (item :: items) = filledCount [item] + filledCount items := by
  rw [filledCount, ← List.singleton_append, List.countP_append]
  rfl

/-- What a run leaves behind of the sections asked for, next to what its items say. -/
structure Accounted (representativeId : Int) (role : Role) (raisedAfter : Option Nat)
    (now : Moment) (l : Ledger) (sectionIds : List Int) (items : List BulkItem)
    (t : Trace Ledger α) : Prop where
  sections : items.map (·.sectionId) = sectionIds
  /-- An item is cancelled if the flag was up when the items before it were done. -/
  cancelled : ∀ before item after, items = before ++ item :: after →
    (item.status = .cancelled ↔ ∃ k ∈ raisedAfter, k ≤ now.written + filledCount before)
  borneOut : ∀ item ∈ items, item.IsBorneOut representativeId role t.repository
  assignments : t.repository.assignments = l.assignments ++ madeBy representativeId role items
  events : t.events = (madeBy representativeId role items).map .assigned
  written : t.finish.written = now.written + filledCount items
  like : l.IsLike t.repository
  orderly : t.repository.Orderly

namespace Accounted

variable {representativeId : Int} {role : Role} {raisedAfter : Option Nat} {now : Moment}
  {l : Ledger}

theorem nil (hOrderly : l.Orderly) (result : Except OperationError α) :
    Accounted representativeId role raisedAfter now l [] [] ⟨result, [], l, now⟩ where
  sections := rfl
  cancelled := by
    intro before item after hSplit
    cases before <;> exact nomatch hSplit
  borneOut := fun _ hItem => (List.not_mem_nil hItem).elim
  assignments := (List.append_nil _).symm
  events := rfl
  written := rfl
  like := .refl l
  orderly := hOrderly

/-- The account of one section, and of the others from where it ended. -/
theorem cons {item : BulkItem} {sectionId : Int} {first : Trace Ledger α} {rest : Trace Ledger β}
    {sectionIds : List Int} {items : List BulkItem}
    (h : Accounted representativeId role raisedAfter now l [sectionId] [item] first)
    (hRest : Accounted representativeId role raisedAfter first.finish first.repository sectionIds
      items rest) (result : Except OperationError γ) :
    Accounted representativeId role raisedAfter now l (sectionId :: sectionIds) (item :: items)
      ⟨result, first.events ++ rest.events, rest.repository, rest.finish⟩ where
  sections := by
    have hFirst : item.sectionId = sectionId := List.singleton_inj.mp h.sections
    rw [List.map_cons, hRest.sections, hFirst]
  cancelled := by
    intro before item' after hSplit
    cases before with
    | nil =>
      obtain ⟨rfl, -⟩ := List.cons.inj hSplit
      exact h.cancelled [] item [] rfl
    | cons item'' before =>
      obtain ⟨rfl, hFurther⟩ := List.cons.inj hSplit
      rw [hRest.cancelled before item' after hFurther, h.written, filledCount_cons item before,
        Nat.add_assoc]
  borneOut := by
    refine List.forall_mem_cons.mpr ⟨?_, hRest.borneOut⟩
    have hKept : first.repository.assignments ⊆ rest.repository.assignments := by
      rw [hRest.assignments]
      exact List.subset_append_left _ _
    exact (h.borneOut item List.mem_cons_self).of_added hRest.like hRest.orderly hKept
  assignments := by
    rw [hRest.assignments, h.assignments, madeBy_cons item items, List.append_assoc]
  events := by
    rw [hRest.events, h.events, madeBy_cons item items, List.map_append]
  written := by
    rw [hRest.written, h.written, filledCount_cons item items, Nat.add_assoc]
  like := ⟨hRest.like.1.trans h.like.1, hRest.like.2.trans h.like.2⟩
  orderly := hRest.orderly

end Accounted

theorem Cancellation.isRaised_afterWriting (raisedAfter : Option Nat) (now : Moment) :
    Cancellation.isRaised (raisedAfter.map .afterWriting) now = true ↔
      ∃ k ∈ raisedAfter, k ≤ now.written := by
  cases raisedAfter with
  | none => simp [Cancellation.isRaised]
  | some k =>
    -- no look at the flag comes before the zeroth
    show decide (Moment.afterWriting k ≤ now) = true ↔ _
    have hLe : Moment.afterWriting k ≤ now ↔ k < now.written ∨ k = now.written ∧ 0 ≤ now.looks :=
      Iff.rfl
    rw [decide_eq_true_eq, hLe]
    simp only [Option.mem_some_iff, exists_eq_left']
    omega

namespace Assigning

open Program

variable {raisedAfter : Option Nat} {now : Moment} {l : Ledger} {representativeId sectionId : Int}
  {role : Role}

/-! ## One section -/

/-- An item that stands alone is cancelled or not. -/
theorem cancelled_singleton {item : BulkItem} {written : Nat}
    (h : item.status = .cancelled ↔ ∃ k ∈ raisedAfter, k ≤ written) :
    ∀ before item' after, [item] = before ++ item' :: after →
      (item'.status = .cancelled ↔ ∃ k ∈ raisedAfter, k ≤ written + filledCount before) := by
  intro before item' after hSplit
  cases before with
  | nil =>
    obtain ⟨rfl, -⟩ := List.cons.inj hSplit
    exact h
  | cons item'' before =>
    have hNone : [] = before ++ item' :: after := (List.cons.inj hSplit).2
    cases before <;> exact nomatch hNone

/-- A section that is left as it was, whatever the reason. -/
theorem accounted_of_unchanged (hOrderly : l.Orderly) {status : BulkStatus}
    (hCreated : status.isCreated = false)
    (hCancelled : status = .cancelled ↔ ∃ k ∈ raisedAfter, k ≤ now.written)
    (hBorneOut : (⟨sectionId, status⟩ : BulkItem).IsBorneOut representativeId role l) :
    Accounted representativeId role raisedAfter now l [sectionId] [⟨sectionId, status⟩]
      (⟨.ok status, [], l, now.looked⟩ : Trace Ledger BulkStatus) := by
  have hMade : madeBy representativeId role [⟨sectionId, status⟩] = [] := by
    cases status <;> first | rfl | exact nomatch hCreated
  have hCount : filledCount [⟨sectionId, status⟩] = 0 := by
    rw [filledCount, List.countP_singleton, hCreated]
    rfl
  exact {
    sections := rfl
    cancelled := cancelled_singleton hCancelled
    borneOut := List.forall_mem_singleton.mpr hBorneOut
    assignments := by rw [hMade, List.append_nil]
    events := by rw [hMade]; rfl
    written := by rw [hCount]; rfl
    like := .refl l
    orderly := hOrderly }

/-- A section whose slot is filled. -/
theorem accounted_of_filled (hOrderly : l.Orderly) (hFree : l.findSlot sectionId role = none)
    (hDown : ¬∃ k ∈ raisedAfter, k ≤ now.written) :
    Accounted representativeId role raisedAfter now l [sectionId]
      [⟨sectionId, .assigned l.nextId⟩]
      (⟨.ok (.assigned l.nextId), [.assigned (l.next sectionId representativeId role)],
        l.add (l.next sectionId representativeId role),
        now.looked.announced (.assigned (l.next sectionId representativeId role))⟩ :
        Trace Ledger BulkStatus) where
  sections := rfl
  cancelled := cancelled_singleton ⟨nofun, fun hUp => (hDown hUp).elim⟩
  borneOut := by
    have hMem : l.next sectionId representativeId role ∈
        (l.add (l.next sectionId representativeId role)).assignments :=
      List.mem_append_right _ List.mem_cons_self
    exact List.forall_mem_singleton.mpr ((hOrderly.add hFree _).isHeldBy hMem)
  assignments := rfl
  events := rfl
  written := rfl
  like := ⟨rfl, rfl⟩
  orderly := hOrderly.add hFree _

/-- A section whose slot somebody holds. -/
theorem heldOrOccupied_borneOut (hOrderly : l.Orderly) {existing : Assignment}
    (hHeld : l.findSlot sectionId role = some existing) (representativeId : Int) :
    ∃ status, statusOf (heldOrOccupied existing representativeId) = .ok status ∧
      status.isCreated = false ∧ status ≠ .cancelled ∧
      (⟨sectionId, status⟩ : BulkItem).IsBorneOut representativeId role l := by
  have hStands := hOrderly.isHeldBy_of_findSlot hHeld
  rw [heldOrOccupied]
  split
  next hSame =>
    refine ⟨.alreadyAssigned existing.id, rfl, rfl, by simp, ?_⟩
    show l.IsHeldBy ⟨existing.id, sectionId, representativeId, role⟩
    rw [← hSame]
    exact hStands
  next hOther =>
    exact ⟨.slotOccupied existing.representativeId, rfl, rfl, by simp, hOther, _, hStands⟩

/-- **One section.** A section with a positive identifier gets a status, and what the status says is
so at once. -/
theorem fillNext_accounted (hOrderly : l.Orderly) (hPos : 0 < sectionId) (representativeId : Int)
    (role : Role) (raisedAfter : Option Nat) (now : Moment) :
    ∃ status t,
      (fillNext representativeId role sectionId).run (raisedAfter.map .afterWriting) now l = t ∧
      t.result = .ok status ∧
      Accounted representativeId role raisedAfter now l [sectionId] [⟨sectionId, status⟩] t := by
  have hFlag := Cancellation.isRaised_afterWriting raisedAfter now
  rw [fillNext, run_isCancelled_bind]
  cases hStop : Cancellation.isRaised (raisedAfter.map .afterWriting) now with
  | true =>
    have hUp : ∃ k ∈ raisedAfter, k ≤ now.written := hFlag.mp hStop
    exact ⟨.cancelled, _, rfl, rfl,
      accounted_of_unchanged hOrderly rfl ⟨fun _ => hUp, fun _ => rfl⟩ trivial⟩
  | false =>
    have hDown : ¬∃ k ∈ raisedAfter, k ≤ now.written := fun hUp => by
      rw [hFlag.mpr hUp] at hStop
      cases hStop
    rw [if_neg Bool.false_ne_true, run_bind, run_attempt]
    cases hSection : l.territory.section? sectionId with
    | none =>
      rw [run_fillSlot_of_unknown hPos hSection]
      exact ⟨.notFound, _, rfl, rfl,
        accounted_of_unchanged hOrderly rfl ⟨by simp, fun hUp => (hDown hUp).elim⟩ hSection⟩
    | some x =>
      have hKnown : (l.territory.section? sectionId).isSome := by
        rw [hSection]
        rfl
      cases hSlot : l.findSlot sectionId role with
      | none =>
        rw [run_fillSlot_of_free hPos hKnown hSlot]
        exact ⟨.assigned l.nextId, _, rfl, rfl, accounted_of_filled hOrderly hSlot hDown⟩
      | some existing =>
        obtain ⟨status, hStatus, hCreated, hNot, hBorneOut⟩ :=
          heldOrOccupied_borneOut hOrderly hSlot representativeId
        rw [run_fillSlot_of_held hPos hKnown hSlot, Trace.andThen]
        dsimp only
        rw [hStatus]
        exact ⟨status, _, rfl, rfl, accounted_of_unchanged hOrderly hCreated
          ⟨fun h => (hNot h).elim, fun hUp => (hDown hUp).elim⟩ hBorneOut⟩

/-! ## All sections -/

/-- **All sections.** The slots of sections with positive identifiers are filled without a failure,
and what the items say is so at the end. -/
theorem fillSlots_accounted (hOrderly : l.Orderly) {sectionIds : List Int}
    (hPos : ∀ id ∈ sectionIds, 0 < id) (representativeId : Int) (role : Role)
    (raisedAfter : Option Nat) (now : Moment) :
    ∃ items t,
      (fillSlots representativeId role sectionIds).run (raisedAfter.map .afterWriting) now l = t ∧
      t.result = .ok items ∧
      Accounted representativeId role raisedAfter now l sectionIds items t := by
  -- each section starts from the moment and the ledger that the one before it left
  induction sectionIds generalizing now l with
  | nil => exact ⟨[], _, rfl, rfl, .nil hOrderly _⟩
  | cons sectionId rest ih =>
    obtain ⟨hPos, hRestPos⟩ := List.forall_mem_cons.mp hPos
    obtain ⟨status, first, hFirst, hStatus, hOne⟩ :=
      fillNext_accounted hOrderly hPos representativeId role raisedAfter now
    obtain ⟨items, further, hFurther, hItems, hRest⟩ := ih hOne.orderly hRestPos first.finish
    refine ⟨⟨sectionId, status⟩ :: items, _, rfl, ?_⟩
    rw [fillSlots, run_bind, hFirst, Trace.andThen, hStatus]
    dsimp only
    rw [run_map, hFurther, hItems]
    exact ⟨rfl, hOne.cons hRest _⟩

/-! ## The report -/

/-- A batch of a known representative and sections with positive identifiers fills the slots of the
distinct sections. -/
theorem run_bulkAssign (hPos : 0 < representativeId) {sectionIds : List Int}
    (hSome : sectionIds ≠ []) (hPositive : ∀ id ∈ sectionIds, 0 < id)
    (hKnown : (l.representative? representativeId).isSome) (role : Role) (stop : Cancellation)
    (now : Moment) :
    (bulkAssign representativeId sectionIds role).run stop now l =
      (fillSlots representativeId role (distinct sectionIds) >>= fun items =>
        pure ⟨representativeId, role, items⟩).run stop now l := by
  obtain ⟨x, hAnswer⟩ := answer_representative_of_known hKnown
  exact run_bulkAssign_of_found hPos hSome hPositive hAnswer

/-- **Truthful reports.** The report of a batch over a reachable ledger lists the distinct sections
asked for in order. The items after the assignment whose announcement raised the flag, and no
others, are cancelled. In the ledger at the end every other item is borne out, nothing has changed
but the assignments that the items report as made, and these were announced in order. -/
theorem bulkAssign_truthful (hReach : l.Reachable) {sectionIds : List Int}
    (hSome : sectionIds ≠ []) (hPositive : ∀ id ∈ sectionIds, 0 < id)
    (hKnown : (l.representative? representativeId).isSome) (role : Role)
    (raisedAfter : Option Nat) {t : Trace Ledger BulkReport}
    (hRun : (bulkAssign representativeId sectionIds role).run
      (raisedAfter.map .afterWriting) 0 l = t) :
    (0 < representativeId → ∃ report, t.result = .ok report) ∧
    ∀ report, t.result = .ok report →
      report.representativeId = representativeId ∧ report.role = role ∧
      report.items.map (·.sectionId) = sectionIds.eraseDups ∧
      (∀ before item after, report.items = before ++ item :: after →
        (item.status = .cancelled ↔ ∃ k ∈ raisedAfter, k ≤ filledCount before)) ∧
      (∀ item ∈ report.items, item.IsBorneOut representativeId role t.repository) ∧
      t.repository.assignments = l.assignments ++ report.made ∧
      t.events = report.made.map .assigned := by
  subst hRun
  by_cases hPos : 0 < representativeId
  · have hDistinct : ∀ id ∈ distinct sectionIds, 0 < id := fun id hId =>
      hPositive id (mem_distinct.mp hId)
    obtain ⟨items, t, hFill, hItems, hAccount⟩ :=
      fillSlots_accounted hReach.orderly hDistinct representativeId role raisedAfter 0
    rw [run_bulkAssign hPos hSome hPositive hKnown, run_map, hFill, hItems]
    refine ⟨fun _ => ⟨_, rfl⟩, ?_⟩
    rintro report ⟨rfl⟩
    refine ⟨rfl, rfl, ?_, ?_, hAccount.borneOut, hAccount.assignments, hAccount.events⟩
    · rw [hAccount.sections, distinct_eq_eraseDups]
    · intro before item after hSplit
      have hCancelled := hAccount.cancelled before item after hSplit
      rwa [show (0 : Moment).written = 0 from rfl, Nat.zero_add] at hCancelled
  -- an identifier that is not positive is refused before the ledger is looked at
  · obtain ⟨reason, hCheck⟩ := OperationError.checkId_of_not_pos hPos "representative_id"
    refine ⟨fun h => (hPos h).elim, fun report hReport => ?_⟩
    have hNonempty : ¬sectionIds.isEmpty = true := by
      rw [List.isEmpty_iff]
      exact hSome
    rw [bulkAssign, if_neg hNonempty, run_ofExcept_bind_error hCheck] at hReport
    simp at hReport

end Assigning

/-! ## A batch that is cancelled on its way -/

/-- The ledger of the village, where Bruno serves the second section. -/
def Ledger.village : Ledger :=
  let empty := start (.ofData ReferenceData.village.territory) ReferenceData.village.representatives
  (empty.answer (.insert 2 2 .primary)).2

theorem Ledger.reachable_village : village.Reachable := .call (.insert 2 2 .primary) (.start _ _)

namespace Assigning

/-- The report on six sections, one of them unknown and one asked for twice, when the operator
cancels at the second assignment. -/
def villageReport : BulkReport where
  representativeId := 1
  role := .primary
  items := [⟨1, .assigned 2⟩, ⟨2, .slotOccupied 2⟩, ⟨9, .notFound⟩, ⟨3, .assigned 3⟩,
    ⟨4, .cancelled⟩, ⟨5, .cancelled⟩]

theorem villageReport_truthful :
    (Ledger.village.representative? 1).isSome ∧
    ∃ t, (bulkAssign 1 [1, 2, 9, 3, 2, 4, 5] .primary).run
        ((some 2).map .afterWriting) 0 Ledger.village = t ∧
      t.result = .ok villageReport ∧
      (∀ item ∈ villageReport.items, item.IsBorneOut 1 .primary t.repository) ∧
      t.events = [.assigned ⟨2, 1, 1, .primary⟩, .assigned ⟨3, 3, 1, .primary⟩] := by
  have hKnown : (Ledger.village.representative? 1).isSome := by decide
  have hResult : ((bulkAssign 1 [1, 2, 9, 3, 2, 4, 5] .primary).run
      ((some 2).map .afterWriting) 0 Ledger.village).result = .ok villageReport := by rfl
  have hPositive : ∀ id ∈ [1, 2, 9, 3, 2, 4, 5], (0 : Int) < id := by decide
  obtain ⟨-, hTrue⟩ := bulkAssign_truthful Ledger.reachable_village (List.cons_ne_nil _ _)
    hPositive hKnown .primary (some 2) rfl
  obtain ⟨-, -, -, -, hBorneOut, -, hEvents⟩ := hTrue _ hResult
  exact ⟨hKnown, _, rfl, hResult, hBorneOut, hEvents⟩

end Assigning

end PollRoster
