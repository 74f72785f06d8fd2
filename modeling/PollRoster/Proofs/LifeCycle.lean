import PollRoster.Proofs.Singles

/-!
# The life of an assignment

An assignment begins when an empty slot is filled and ends when it is removed under its identifier.
In between nothing else ends it: whoever asks for the same once more is told that it is there. After
its end nothing revives it, and its identifier stands for nothing any more, even if the slot is
filled again for the same representative. For an identifier is handed out once, so a removal that
comes late, or twice, cannot hit the assignment of somebody else.

Main results:

* `mem_answer`, `IsRetired.answer` — what a single call keeps of an assignment, before its end and
  after.
* `performAll_spares` — the same for operations, of which only some can end an assignment.
* `slot_life_cycle` — the life of an assignment from the slot that it fills to the slot it leaves.
-/

namespace PollRoster

namespace Ledger

variable {l l' : Ledger} {a : Assignment} {id : Int}

/-! ## All else -/

/-- Whether two ledgers are the same apart from one assignment: from whoever takes its slot, and
from whatever is recorded under its identifier. -/
structure SameApartFrom (a : Assignment) (l l' : Ledger) : Prop where
  like : l.IsLike l'
  slots : ∀ sectionId role, (sectionId, role) ≠ a.slot →
    l'.findSlot sectionId role = l.findSlot sectionId role
  records : ∀ id, id ≠ a.id → l'.assignment? id = l.assignment? id

/-- In orderly ledgers it is enough that the others are stored in both. -/
theorem sameApartFrom_of_mem (hLike : l.IsLike l') (h : l.Orderly) (h' : l'.Orderly)
    (hMem : ∀ b, b ≠ a → (b ∈ l'.assignments ↔ b ∈ l.assignments)) : SameApartFrom a l l' where
  like := hLike
  slots := by
    intro sectionId role hOther
    refine Option.ext fun b => ?_
    rw [findSlot_eq_some_iff h, findSlot_eq_some_iff h']
    refine and_congr_left ?_
    intro hSlot
    refine hMem b ?_
    rintro rfl
    exact hOther hSlot.symm
  records := by
    intro id hOther
    refine Option.ext fun b => ?_
    rw [assignment?_eq_some_iff h, assignment?_eq_some_iff h']
    refine and_congr_left ?_
    intro hId
    refine hMem b ?_
    rintro rfl
    exact hOther hId.symm

theorem Orderly.sameApartFrom_add (h : l.Orderly) {sectionId representativeId : Int} {role : Role}
    (hFree : l.findSlot sectionId role = none) :
    SameApartFrom (l.next sectionId representativeId role) l
      (l.add (l.next sectionId representativeId role)) := by
  refine sameApartFrom_of_mem ⟨rfl, rfl⟩ h (h.add hFree _) fun b hOther => ?_
  show b ∈ l.assignments ++ [_] ↔ b ∈ l.assignments
  simp [hOther]

theorem Orderly.sameApartFrom_without (h : l.Orderly) (ha : a ∈ l.assignments) :
    SameApartFrom a l (l.without a.id) := by
  refine sameApartFrom_of_mem ⟨rfl, rfl⟩ h (h.without a.id) fun b hOther => ?_
  show b ∈ l.assignments.filter _ ↔ b ∈ l.assignments
  rw [List.mem_filter]
  -- nothing but the assignment itself has its identifier
  exact and_iff_left_of_imp fun hb => decide_eq_true fun hId => hOther (h.eq_of_id ha hb hId)

/-- A removal empties the slot of the assignment. -/
theorem Orderly.findSlot_without (h : l.Orderly) (ha : a ∈ l.assignments) {sectionId : Int}
    {role : Role} (hSlot : a.slot = (sectionId, role)) :
    (l.without a.id).findSlot sectionId role = none := by
  rw [findSlot_eq_none_iff]
  intro b hb hTakes
  obtain ⟨hMem, hId⟩ := List.mem_filter.mp hb
  obtain rfl := List.inj_on_of_nodup_map h.slots hMem ha (hTakes.trans hSlot.symm)
  exact of_decide_eq_true hId rfl

/-! ## What a call keeps -/

/-- No call ends an assignment but the deletion of its identifier. -/
theorem mem_answer {c : RepositoryCall} (hOther : c ≠ .delete a.id) (ha : a ∈ l.assignments) :
    a ∈ (l.answer c).2.assignments := by
  cases c with
  | insert sectionId representativeId role =>
    rcases l.insert_cases sectionId representativeId role with ⟨-, hInsert⟩ | ⟨held, -, hInsert⟩
    · rw [answer, hInsert]
      exact List.mem_append_left _ ha
    · rw [answer, hInsert]
      exact ha
  | delete id =>
    rcases l.delete_cases id with ⟨-, hDelete⟩ | ⟨found, -, hDelete⟩
    · rw [answer, hDelete]
      exact ha
    · rw [answer, hDelete]
      refine List.mem_filter.mpr ⟨ha, decide_eq_true ?_⟩
      rintro rfl
      exact hOther rfl
  | _ => exact ha

/-- Whether an orderly ledger over the reference data of `base` holds an assignment. -/
structure StillHolds (base : Ledger) (a : Assignment) (l : Ledger) : Prop where
  like : base.IsLike l
  orderly : l.Orderly
  mem : a ∈ l.assignments

theorem StillHolds.answer {base : Ledger} (h : StillHolds base a l) {c : RepositoryCall}
    (hOther : c ≠ .delete a.id) : StillHolds base a (l.answer c).2 :=
  ⟨h.like.answer c, h.orderly.answer c, mem_answer hOther h.mem⟩

/-- Whether an identifier was handed out and stands for nothing any more. -/
def IsRetired (l : Ledger) (id : Int) : Prop :=
  id < l.nextId ∧ ∀ a ∈ l.assignments, a.id ≠ id

theorem IsRetired.assignment?_eq_none (h : l.IsRetired id) : l.assignment? id = none := by
  unfold assignment?
  rw [List.find?_eq_none]
  intro a ha hId
  exact h.2 a ha (of_decide_eq_true hId)

theorem Orderly.isRetired_without (h : l.Orderly) (ha : a ∈ l.assignments) :
    (l.without a.id).IsRetired a.id := by
  refine ⟨h.fresh a ha, fun b hb => ?_⟩
  exact of_decide_eq_true (List.mem_filter.mp hb).2

/-- No call brings an identifier back. -/
theorem IsRetired.answer (h : l.IsRetired id) (c : RepositoryCall) :
    (l.answer c).2.IsRetired id := by
  refine ⟨Int.lt_of_lt_of_le h.1 (nextId_answer c l).1, ?_⟩
  cases c with
  | insert sectionId representativeId role =>
    rcases l.insert_cases sectionId representativeId role with ⟨-, hInsert⟩ | ⟨held, -, hInsert⟩
    · rw [Ledger.answer, hInsert]
      intro a ha
      rcases List.mem_append.mp ha with ha | ha
      · exact h.2 a ha
      -- the identifier handed out lies above all that were handed out before
      · rw [List.mem_singleton.mp ha]
        exact Int.ne_of_gt h.1
    · rw [Ledger.answer, hInsert]
      exact h.2
  | delete id' =>
    rcases l.delete_cases id' with ⟨-, hDelete⟩ | ⟨found, -, hDelete⟩
    · rw [Ledger.answer, hDelete]
      exact h.2
    · rw [Ledger.answer, hDelete]
      exact fun a ha => h.2 a (List.mem_filter.mp ha).1
  | _ => exact h.2

/-- Identifiers that are handed out pass their check. -/
theorem Reachable.nextId_pos (h : l.Reachable) : 0 < l.nextId := by
  induction h with
  | start territory representatives => exact Int.one_pos
  | call c _ ih => exact Int.lt_of_lt_of_le ih (nextId_answer c _).1

end Ledger

/-! ## What operations keep -/

namespace Operation

open Program

/-- Whether an operation removes the assignment of an identifier if there is one. -/
def Removes (id : Int) : Operation → Prop
  | .remove assignmentId | .delete assignmentId | .execute (.remove assignmentId) =>
    assignmentId = id
  | _ => False

/-- A program that fills slots deletes nothing. -/
theorem asks_of_isFilling {p : Program α} (h : p.Asks RepositoryCall.IsFilling) (id : Int) :
    p.Asks (· ≠ .delete id) := by
  refine h.mono fun c hFills => ?_
  rintro rfl
  exact hFills

theorem remove_spares {assignmentId id : Int} (h : assignmentId ≠ id) :
    (Assigning.remove assignmentId).Asks (· ≠ .delete id) := by
  refine (Assigning.remove_asks assignmentId).mono fun c hDelete hSame => h ?_
  exact RepositoryCall.delete.inj (hDelete.symm.trans hSame)

theorem execute_spares {command : Command} {id : Int} (h : ¬(execute command).Removes id) :
    command.execute.Asks (· ≠ .delete id) := by
  cases command with
  | assign sectionId representativeId role =>
    exact (asks_of_isFilling (Assigning.assign_asks _ _ _) id).bind fun _ => trivial
  | remove assignmentId => exact (remove_spares h).bind fun _ => trivial
  | bulkAssign representativeId sectionIds role =>
    exact (asks_of_isFilling (Assigning.bulkAssign_asks _ _ _) id).bind fun _ => trivial
  | invalidateCache scope => trivial

variable {ρ : Type} [Repository ρ] {P : ρ → Prop} {id : Int} {r : ρ}

/-- What every call keeps but one deletion, every operation keeps but those that ask for it. -/
theorem perform_spares (hCall : ∀ c r, c ≠ .delete id → P r → P (Repository.answer c r).2)
    {o : Operation × Cancellation} (hOther : ¬o.1.Removes id) (h : P r) : P (perform r o) := by
  obtain ⟨operation, stop⟩ := o
  -- one deletion apart, each is a program or a call of the kind that `hCall` is about
  cases operation with
  | assign sectionId representativeId role =>
    exact (asks_of_isFilling (Assigning.assign_asks _ _ _) id).run_keeps hCall h
  | remove assignmentId => exact (remove_spares hOther).run_keeps hCall h
  | bulkAssign representativeId sectionIds role =>
    exact (asks_of_isFilling (Assigning.bulkAssign_asks _ _ _) id).run_keeps hCall h
  | execute command => exact (execute_spares hOther).run_keeps hCall h
  | insert sectionId representativeId role => exact hCall _ r nofun h
  | delete assignmentId =>
    refine hCall _ r (fun hSame => ?_) h
    exact hOther (RepositoryCall.delete.inj hSame)

theorem performAll_spares (hCall : ∀ c r, c ≠ .delete id → P r → P (Repository.answer c r).2)
    {operations : List (Operation × Cancellation)} (hOther : ∀ o ∈ operations, ¬o.1.Removes id)
    (h : P r) : P (performAll r operations) := by
  induction operations generalizing r with
  | nil => exact h
  | cons o rest ih =>
    obtain ⟨hFirst, hRest⟩ := List.forall_mem_cons.mp hOther
    exact ih hRest (perform_spares hCall hFirst h)

end Operation

namespace Assigning

open Program Operation

variable {stop : Cancellation} {now : Moment} {l : Ledger} {sectionId representativeId : Int}
  {role : Role} {a : Assignment}

/-! ## The beginning -/

/-- What is known once an assignment has filled its slot. -/
theorem assign_created (hStop : stop.isRaised now = false)
    (h : ((assign sectionId representativeId role).run stop now l).result = .ok (.created a)) :
    a = l.next sectionId representativeId role ∧ l.findSlot sectionId role = none ∧
      0 < sectionId ∧ 0 < representativeId ∧ (l.territory.section? sectionId).isSome ∧
      (l.representative? representativeId).isSome ∧
      ∃ finish, (assign sectionId representativeId role).run stop now l =
        ⟨.ok (.created a), [.assigned a], l.add a, finish⟩ := by
  rcases assign_cases sectionId representativeId role stop now l with
    ⟨x, finish, hx, hRun⟩ | ⟨hSection, hKnown, hFree, finish, hRun⟩
  · rw [hRun] at h
    exact absurd h (hx a)
  · have hCreated : a = l.next sectionId representativeId role := by
      rw [hRun] at h
      exact (AssignOutcome.created.inj (Except.ok.inj h)).symm
    -- identifiers that are not positive would have been refused
    have hPos : 0 < representativeId := by
      by_contra hNot
      obtain ⟨reason, hCheck⟩ := OperationError.checkId_of_not_pos hNot "representative_id"
      rw [run_assign_of_refused hStop hCheck] at h
      cases h
    have hPosSection : 0 < sectionId := by
      by_contra hNot
      obtain ⟨reason, hCheck⟩ := OperationError.checkId_of_not_pos hNot "section_id"
      rw [run_assign_of_known hStop hPos hKnown, fillSlot, run_ofExcept_bind_error hCheck] at h
      cases h
    rw [← hCreated] at hRun
    exact ⟨hCreated, hFree, hPosSection, hPos, hSection, hKnown, finish, hRun⟩

/-! ## In between -/

/-- To ask for a slot that one holds changes nothing. -/
theorem run_assign_of_own (hStop : stop.isRaised now = false) (hPosSection : 0 < sectionId)
    (hPos : 0 < representativeId) (hSection : (l.territory.section? sectionId).isSome)
    (hKnown : (l.representative? representativeId).isSome)
    (hHeld : l.findSlot sectionId role = some a) (hOwn : a.representativeId = representativeId) :
    (assign sectionId representativeId role).run stop now l =
      ⟨.ok (.unchanged a), [], l, now.looked⟩ := by
  rw [run_assign_of_known hStop hPos hKnown, run_fillSlot_of_held hPosSection hSection hHeld,
    heldOrOccupied, if_pos hOwn]

/-- However often. -/
theorem assignEach_of_own {finish : Moment}
    (hOwn : (assign sectionId representativeId role).run none 0 l =
      ⟨.ok (.unchanged a), [], l, finish⟩) (n : Nat) :
    assignEach representativeId role (List.replicate n sectionId) l =
      ⟨List.replicate n (sectionId, .ok (.unchanged a)), none, [], l⟩ := by
  induction n with
  | zero => rfl
  | succ n ih =>
    rw [List.replicate_succ, assignEach, hOwn]
    dsimp only [failureToStopAt?]
    rw [ih]
    rfl

/-! ## The end -/

theorem run_remove_of_mem (hStop : stop.isRaised now = false) (hOrderly : l.Orderly)
    (ha : a ∈ l.assignments) (hPos : 0 < a.id) :
    (remove a.id).run stop now l = ⟨.ok a, [.removed a], l.without a.id, now.looked⟩ := by
  rw [run_remove hStop hPos,
    Ledger.delete_of_found ((Ledger.assignment?_eq_some_iff hOrderly).mpr ⟨ha, rfl⟩)]

theorem run_remove_of_retired (hStop : stop.isRaised now = false) {id : Int} (hPos : 0 < id)
    (hRetired : l.IsRetired id) :
    (remove id).run stop now l = ⟨.error (.notFound "Assignment" id), [], l, now.looked⟩ := by
  rw [run_remove hStop hPos, Ledger.delete_of_missing hRetired.assignment?_eq_none]

/-- **The life of an assignment.** An assignment over a reachable ledger that reports to have filled
a slot has found it empty, and holds it afterwards; all else is as it was. Let then others do what
they like, except remove it. It still holds its slot, and whoever asks for the same again, however
often, is told so and changes nothing. Its removal answers it and empties its slot; all else stays
as it is. From then on, whatever is done, a removal under its identifier finds nothing and changes
nothing. -/
theorem slot_life_cycle (hReach : l.Reachable)
    (hCreated : ((assign sectionId representativeId role).run none 0 l).result =
      .ok (.created a)) :
    let beginning := (assign sectionId representativeId role).run none 0 l
    (a.sectionId = sectionId ∧ a.representativeId = representativeId ∧ a.role = role ∧
      beginning.events = [.assigned a] ∧ l.findSlot sectionId role = none ∧
      beginning.repository.findSlot sectionId role = some a ∧
      beginning.repository.assignment? a.id = some a ∧
      Ledger.SameApartFrom a l beginning.repository) ∧
    ∀ others : List (Operation × Cancellation), (∀ o ∈ others, ¬o.1.Removes a.id) →
      let held := performAll beginning.repository others
      let removal := (remove a.id).run none 0 held
      (held.findSlot sectionId role = some a ∧
        ∀ n, assignEach representativeId role (List.replicate n sectionId) held =
          ⟨List.replicate n (sectionId, .ok (.unchanged a)), none, [], held⟩) ∧
      (removal.result = .ok a ∧ removal.events = [.removed a] ∧
        removal.repository.findSlot sectionId role = none ∧
        Ledger.SameApartFrom a held removal.repository) ∧
      ∀ later : List (Operation × Cancellation),
        let after := performAll removal.repository later
        let again := (remove a.id).run none 0 after
        again.result = .error (.notFound "Assignment" a.id) ∧ again.events = [] ∧
          again.repository = after := by
  intro beginning
  obtain ⟨hNext, hFree, hPosSection, hPos, hSection, hKnown, finish, hRun⟩ :=
    assign_created rfl hCreated
  change beginning = _ at hRun
  have hOrderly : l.Orderly := hReach.orderly
  have hAdded : (l.add a).Orderly := by
    rw [hNext]
    exact hOrderly.add hFree representativeId
  have hMem : a ∈ (l.add a).assignments := List.mem_append_right _ List.mem_cons_self
  have hSlot : a.slot = (sectionId, role) := by
    rw [hNext]
    rfl
  have hSame : a.representativeId = representativeId := by
    rw [hNext]
    rfl
  have hPosId : 0 < a.id := by
    rw [hNext]
    exact hReach.nextId_pos
  rw [hRun]
  -- the identifier is a new one and the slot was empty, so nothing else is touched
  refine ⟨⟨congrArg Prod.fst hSlot, hSame, congrArg Prod.snd hSlot, rfl, hFree,
    (Ledger.findSlot_eq_some_iff hAdded).mpr ⟨hMem, hSlot⟩,
    (Ledger.assignment?_eq_some_iff hAdded).mpr ⟨hMem, rfl⟩, ?_⟩, fun others hOthers => ?_⟩
  · rw [hNext]
    exact hOrderly.sameApartFrom_add hFree
  intro held removal
  -- every call of the others keeps the assignment where it is
  have hHeld : Ledger.StillHolds l a held :=
    performAll_spares (fun c r hOther h => h.answer hOther) hOthers ⟨⟨rfl, rfl⟩, hAdded, hMem⟩
  obtain ⟨hLike, hHeldOrderly, hStill⟩ := hHeld
  have hFound : held.findSlot sectionId role = some a :=
    (Ledger.findSlot_eq_some_iff hHeldOrderly).mpr ⟨hStill, hSlot⟩
  have hSection' : (held.territory.section? sectionId).isSome := by
    rw [hLike.1]
    exact hSection
  have hKnown' : (held.representative? representativeId).isSome := by
    rw [Ledger.representative?, hLike.2]
    exact hKnown
  have hOwn : (assign sectionId representativeId role).run none 0 held = _ :=
    run_assign_of_own rfl hPosSection hPos hSection' hKnown' hFound hSame
  -- its identifier is still its own, so the removal meets it and nothing else
  have hRemoval : removal = _ := run_remove_of_mem rfl hHeldOrderly hStill hPosId
  rw [hRemoval]
  refine ⟨⟨hFound, assignEach_of_own hOwn⟩, ⟨rfl, rfl, hHeldOrderly.findSlot_without hStill hSlot,
    hHeldOrderly.sameApartFrom_without hStill⟩, fun later => ?_⟩
  intro after again
  -- and after the end no call brings the identifier back
  have hRetired : after.IsRetired a.id :=
    performAll_keeps (P := fun l : Ledger => l.IsRetired a.id) (fun c _ h => h.answer c)
      (hHeldOrderly.isRetired_without hStill) later
  have hAgain : again = _ := run_remove_of_retired rfl hPosId hRetired
  rw [hAgain]
  exact ⟨rfl, rfl, rfl⟩

/-- Bruno fills the third section and leaves the second one, where Anna takes his place in a batch.
-/
def villageOthers : List (Operation × Cancellation) :=
  [(.assign 3 2 .primary, none), (.remove 1, none), (.bulkAssign 1 [1, 2, 9] .primary, none)]

/-- Anna fills the first section, and others do what they like. When she is removed Bruno takes her
place, and a second removal of hers does not hit him. -/
theorem slot_life_cycle_village :
    let beginning := (assign 1 1 .primary).run none 0 Ledger.village
    let held := performAll beginning.repository villageOthers
    let removal := (remove 2).run none 0 held
    let refilled := performAll removal.repository [(.assign 1 2 .primary, none)]
    beginning.result = .ok (.created ⟨2, 1, 1, .primary⟩) ∧
    (∀ o ∈ villageOthers, ¬o.1.Removes 2) ∧
    held.assignments = [⟨2, 1, 1, .primary⟩, ⟨3, 3, 2, .primary⟩, ⟨4, 2, 1, .primary⟩] ∧
    removal.result = .ok ⟨2, 1, 1, .primary⟩ ∧
    refilled.findSlot 1 .primary = some ⟨5, 1, 2, .primary⟩ ∧
    ((remove 2).run none 0 refilled).result = .error (.notFound "Assignment" 2) ∧
    ((remove 2).run none 0 refilled).repository = refilled := by
  have hCreated : ((assign 1 1 .primary).run none 0 Ledger.village).result =
      .ok (.created ⟨2, 1, 1, .primary⟩) := by rfl
  have hOthers : ∀ o ∈ villageOthers, ¬o.1.Removes 2 := by
    intro o ho
    simp only [villageOthers, List.mem_cons, List.not_mem_nil, or_false] at ho
    rcases ho with rfl | rfl | rfl
    · exact id
    · show ¬((1 : Int) = 2)
      decide
    · exact id
  obtain ⟨-, hLife⟩ := slot_life_cycle Ledger.reachable_village hCreated
  obtain ⟨-, ⟨hRemoved, -⟩, hNever⟩ := hLife villageOthers hOthers
  obtain ⟨hAgain, -, hSame⟩ := hNever [(.assign 1 2 .primary, none)]
  exact ⟨hCreated, hOthers, rfl, hRemoved, rfl, hAgain, hSame⟩

end Assigning

end PollRoster
