import PollRoster.Proofs.Assigning
import PollRoster.Proofs.Counting

/-!
# Batches

A batch fills the slots of one section after another, and its report tells which of them it filled.
Whatever it was cancelled at, the ledger differs from the one before at these sections only.

Main results:

* `fillSlots_filled`, `fillSlots_ok` — by recursion on the sections, from `fillNext_cases`.
* `bulkAssign_cases` — a batch is refused, or fills the slots of its sections.
* `bulkAssign_announces`, `sections_of_bulkAssign` — over whatever repository, a batch announces
  changes only, and each of its sections has its place in the report.
-/

namespace PollRoster

/-- Whether an event announces a change to the assignments. -/
def Event.IsChange : Event → Prop
  | .assigned _ | .removed _ => True
  | .invalidated _ => False

/-- The sections whose slots were filled, in the order of the report. -/
def createdIds (items : List BulkItem) : List Int :=
  (items.filter (·.status.isCreated)).map (·.sectionId)

namespace Assigning

open Program

variable {stop : Cancellation} {now : Moment} {l : Ledger} {representativeId : Int} {role : Role}

/-! ## One section of a batch -/

/-- The turn of a section changes nothing and reports no new assignment, or fills its slot. -/
theorem fillNext_cases (representativeId : Int) (role : Role) (sectionId : Int)
    (stop : Cancellation) (now : Moment) (l : Ledger) :
    (∃ x finish, (∀ status, x = .ok status → status.isCreated = false) ∧
      (0 < sectionId → ∃ status, x = .ok status) ∧
      (fillNext representativeId role sectionId).run stop now l = ⟨x, [], l, finish⟩) ∨
    ((l.territory.section? sectionId).isSome ∧ ∃ finish,
      (fillNext representativeId role sectionId).run stop now l =
        ⟨.ok (.assigned l.nextId), [.assigned (l.next sectionId representativeId role)],
          l.add (l.next sectionId representativeId role), finish⟩) := by
  rw [fillNext, run_isCancelled_bind]
  cases stop.isRaised now with
  | true =>
    refine .inl ⟨.ok .cancelled, now.looked, fun status hStatus => ?_, fun _ => ⟨_, rfl⟩, rfl⟩
    rw [← Except.ok.inj hStatus]
    rfl
  | false =>
    rw [if_neg Bool.false_ne_true, run_bind, run_attempt]
    rcases fillSlot_cases sectionId representativeId role stop now.looked l with
      ⟨x, hx, hStatus, hRun⟩ | ⟨hSection, -, hRun⟩
    · rw [hRun]
      -- no outcome but a new assignment is reported as one
      refine .inl ⟨statusOf x, now.looked, fun status hStatus => ?_, hStatus, ?_⟩
      · cases x with
        | ok outcome =>
          cases outcome with
          | created a => exact (hx a rfl).elim
          | unchanged a =>
            rw [← Except.ok.inj hStatus]
            rfl
        | error e => cases e <;> cases hStatus <;> rfl
      · rw [Trace.andThen]
        dsimp only
        rw [run_ofExcept]
        rfl
    · rw [hRun]
      exact .inr ⟨hSection, _, rfl⟩

/-! ## All sections of a batch -/

/-- What filling slots leaves behind: if it did not fail, the ledger differs at the sections that
are reported as filled. -/
structure Filled (representativeId : Int) (l : Ledger) (t : Trace Ledger (List BulkItem)) :
    Prop where
  changes : ∀ e ∈ t.events, e.IsChange
  differs : ∀ items, t.result = .ok items →
    l.DiffersAt (createdIds items) representativeId t.repository
  sections : ∀ items, t.result = .ok items → ∀ id ∈ createdIds items,
    (l.territory.section? id).isSome

theorem Filled.failed (e : OperationError) (finish : Moment) :
    Filled representativeId l ⟨.error e, [], l, finish⟩ :=
  ⟨fun _ hMem => (List.not_mem_nil hMem).elim, fun _ h => (nomatch h), fun _ h => (nomatch h)⟩

/-- A section that was left as it was, before the others. -/
theorem Filled.cons_of_not_created {t : Trace Ledger (List BulkItem)}
    (h : Filled representativeId l t) {status : BulkStatus} (hStatus : status.isCreated = false)
    (sectionId : Int) :
    Filled representativeId l
      ⟨t.result.map (⟨sectionId, status⟩ :: ·), t.events, t.repository, t.finish⟩ := by
  have hSame : ∀ rest, createdIds (⟨sectionId, status⟩ :: rest) = createdIds rest := by
    intro rest
    rw [createdIds, List.filter_cons_of_neg (by rw [hStatus]; exact Bool.false_ne_true),
      createdIds]
  refine ⟨h.changes, fun items hItems => ?_, fun items hItems => ?_⟩
  · obtain ⟨rest, hRest, rfl⟩ := map_eq_ok.mp hItems
    rw [hSame]
    exact h.differs rest hRest
  · obtain ⟨rest, hRest, rfl⟩ := map_eq_ok.mp hItems
    rw [hSame]
    exact h.sections rest hRest

/-- A section whose slot was filled, before the others. -/
theorem Filled.cons_of_created {sectionId : Int} {t : Trace Ledger (List BulkItem)}
    (h : Filled representativeId (l.add (l.next sectionId representativeId role)) t)
    (hSection : (l.territory.section? sectionId).isSome) (id : Int) :
    Filled representativeId l
      ⟨t.result.map (⟨sectionId, .assigned id⟩ :: ·),
        .assigned (l.next sectionId representativeId role) :: t.events, t.repository,
        t.finish⟩ := by
  refine ⟨fun e he => ?_, fun items hItems => ?_, fun items hItems => ?_⟩
  · rcases List.mem_cons.mp he with rfl | he
    · trivial
    · exact h.changes e he
  · obtain ⟨rest, hRest, rfl⟩ := map_eq_ok.mp hItems
    exact (l.differsAt_add sectionId representativeId role).trans (h.differs rest hRest)
  · obtain ⟨rest, hRest, rfl⟩ := map_eq_ok.mp hItems
    intro id' hId
    rcases List.mem_cons.mp hId with rfl | hId
    · exact hSection
    · exact h.sections rest hRest id' hId

/-- **Filling slots.** The report tells where the ledger differs. -/
theorem fillSlots_filled (representativeId : Int) (role : Role) (sectionIds : List Int)
    (stop : Cancellation) (now : Moment) (l : Ledger) :
    Filled representativeId l ((fillSlots representativeId role sectionIds).run stop now l) := by
  -- the ledger changes along the batch, so it is the recursion's to vary
  induction sectionIds generalizing now l with
  | nil =>
    refine ⟨fun _ hMem => (List.not_mem_nil hMem).elim, fun items hItems => ?_,
      fun items hItems => ?_⟩
    · rw [← Except.ok.inj hItems]
      exact .refl l
    · rw [← Except.ok.inj hItems]
      exact fun _ hMem => (List.not_mem_nil hMem).elim
  | cons sectionId rest ih =>
    rw [fillSlots, run_bind]
    rcases fillNext_cases representativeId role sectionId stop now l with
      ⟨x, finish, hx, -, hRun⟩ | ⟨hSection, finish, hRun⟩
    · rw [hRun]
      cases x with
      -- a failure that is no status ends the batch, before this section has changed anything
      | error e => exact .failed e finish
      | ok status =>
        rw [Trace.andThen]
        dsimp only
        rw [run_map]
        exact (ih finish l).cons_of_not_created (hx status rfl) sectionId
    · rw [hRun, Trace.andThen]
      dsimp only
      rw [run_map]
      exact (ih finish _).cons_of_created hSection l.nextId

/-- Filling the slots of sections with positive identifiers does not fail. -/
theorem fillSlots_ok (representativeId : Int) (role : Role) {sectionIds : List Int}
    (hPos : ∀ id ∈ sectionIds, 0 < id) (stop : Cancellation) (now : Moment) (l : Ledger) :
    ∃ items, ((fillSlots representativeId role sectionIds).run stop now l).result = .ok items := by
  induction sectionIds generalizing now l with
  | nil => exact ⟨[], rfl⟩
  | cons sectionId rest ih =>
    obtain ⟨hPos, hRest⟩ := List.forall_mem_cons.mp hPos
    -- whatever became of this section, it has a status and the next one has its turn
    obtain ⟨status, hStatus⟩ : ∃ status,
        ((fillNext representativeId role sectionId).run stop now l).result = .ok status := by
      rcases fillNext_cases representativeId role sectionId stop now l with
        ⟨x, finish, -, hOk, hRun⟩ | ⟨-, finish, hRun⟩
      · rw [hRun]
        exact hOk hPos
      · rw [hRun]
        exact ⟨_, rfl⟩
    obtain ⟨items, hItems⟩ := ih hRest
      ((fillNext representativeId role sectionId).run stop now l).finish
      ((fillNext representativeId role sectionId).run stop now l).repository
    rw [fillSlots, run_bind, Trace.andThen, hStatus]
    dsimp only
    rw [run_map, hItems]
    exact ⟨_, rfl⟩

/-- A batch is refused before anything is done, or the representative is known, the slots of its
sections are filled, and it is reported what became of them. -/
theorem bulkAssign_cases (representativeId : Int) (sectionIds : List Int) (role : Role)
    (stop : Cancellation) (now : Moment) (l : Ledger) :
    (∃ e, (bulkAssign representativeId sectionIds role).run stop now l = ⟨.error e, [], l, now⟩) ∨
    ((l.representative? representativeId).isSome ∧ ∃ items t, Filled representativeId l t ∧
      t.result = .ok items ∧ (bulkAssign representativeId sectionIds role).run stop now l =
        ⟨.ok ⟨representativeId, role, items⟩, t.events, t.repository, t.finish⟩) := by
  rw [bulkAssign]
  split
  · exact .inl ⟨_, rfl⟩
  cases hCheck : OperationError.checkId "representative_id" representativeId with
  | error e => exact .inl ⟨e, run_ofExcept_bind_error rfl _⟩
  | ok u =>
    rw [run_ofExcept_bind_ok rfl]
    cases hChecks : sectionIds.forM (OperationError.checkId "section_id") with
    | error e => exact .inl ⟨e, run_ofExcept_bind_error rfl _⟩
    | ok u =>
      rw [run_ofExcept_bind_ok rfl]
      cases hKnown : l.representative? representativeId with
      | none => exact .inl ⟨_, run_requireRepresentative_of_unknown hKnown _⟩
      | some r =>
        have hSome : (l.representative? representativeId).isSome := by
          rw [hKnown]
          rfl
        -- the identifiers were checked, so nothing can fail any more
        have hPos : ∀ id ∈ distinct sectionIds, 0 < id := fun id hId =>
          OperationError.pos_of_checkId (forM_eq_ok.mp hChecks id (mem_distinct.mp hId))
        obtain ⟨items, hItems⟩ := fillSlots_ok representativeId role hPos stop now l
        rw [run_requireRepresentative_of_known hSome, run_map, hItems]
        exact .inr ⟨rfl, items, _, fillSlots_filled _ _ _ _ _ _, hItems, rfl⟩

/-! ## What a batch announces -/

theorem reportHolder_announces (sectionId representativeId : Int) (role : Role) :
    (reportHolder sectionId representativeId role).Announces Event.IsChange := by
  refine (announces_ask (.findSlot sectionId role)).bind fun found => ?_
  cases found with
  | some existing => exact announces_ofExcept _
  | none => trivial

theorem insertInto_announces (sectionId representativeId : Int) (role : Role) :
    (insertInto sectionId representativeId role).Announces Event.IsChange := by
  -- an insertion is answered with a new assignment, or refused for whatever reason
  intro answer
  cases answer with
  | ok a => exact ⟨trivial, trivial⟩
  | error e =>
    cases e with
    | slotOccupied _ _ _ => exact reportHolder_announces sectionId representativeId role
    | _ => trivial

theorem fillSlot_announces (sectionId representativeId : Int) (role : Role) :
    (fillSlot sectionId representativeId role).Announces Event.IsChange := by
  refine (announces_ofExcept _).bind fun _ => ?_
  refine (announces_ask (.sectionExists sectionId)).bind fun known => ?_
  cases known with
  | false => trivial
  | true =>
    refine (announces_ask (.findSlot sectionId role)).bind fun found => ?_
    cases found with
    | some existing => exact announces_ofExcept _
    | none => exact insertInto_announces sectionId representativeId role

theorem fillNext_announces (representativeId : Int) (role : Role) (sectionId : Int) :
    (fillNext representativeId role sectionId).Announces Event.IsChange := by
  refine announces_isCancelled.bind fun cancelled => ?_
  cases cancelled with
  | true => trivial
  | false =>
    exact (fillSlot_announces sectionId representativeId role).attempt.bind fun _ =>
      announces_ofExcept _

theorem fillSlots_announces (representativeId : Int) (role : Role) (sectionIds : List Int) :
    (fillSlots representativeId role sectionIds).Announces Event.IsChange := by
  induction sectionIds with
  | nil => trivial
  | cons sectionId rest ih =>
    exact (fillNext_announces representativeId role sectionId).bind fun _ =>
      ih.bind fun _ => trivial

/-- **Batches announce changes only.** -/
theorem bulkAssign_announces (representativeId : Int) (sectionIds : List Int) (role : Role) :
    (bulkAssign representativeId sectionIds role).Announces Event.IsChange := by
  rw [bulkAssign]
  split
  · trivial
  · refine (announces_ofExcept _).bind fun _ => (announces_ofExcept _).bind fun _ => ?_
    refine Announces.bind ?_ fun _ => ?_
    · refine (announces_ask (.representative representativeId)).bind fun found => ?_
      cases found <;> trivial
    · exact (fillSlots_announces representativeId role _).bind fun _ => trivial

/-! ## The sections of a report -/

section AnyRepository

variable {ρ : Type} [Repository ρ] {r : ρ} {sectionIds : List Int}

theorem sections_of_fillSlots {items : List BulkItem}
    (h : ((fillSlots representativeId role sectionIds).run stop now r).result = .ok items) :
    items.map (·.sectionId) = sectionIds := by
  induction sectionIds generalizing now r items with
  | nil =>
    rw [← Except.ok.inj h]
    rfl
  | cons sectionId rest ih =>
    obtain ⟨status, _, _, -, h⟩ := exists_of_run_bind_ok h
    obtain ⟨others, _, _, hOthers, h⟩ := exists_of_run_bind_ok h
    rw [← Except.ok.inj h]
    exact congrArg (sectionId :: ·) (ih hOthers)

/-- The report of a batch goes through its distinct sections in order. -/
theorem sections_of_bulkAssign {report : BulkReport}
    (h : ((bulkAssign representativeId sectionIds role).run stop now r).result = .ok report) :
    report.items.map (·.sectionId) = distinct sectionIds := by
  rw [bulkAssign] at h
  split at h
  · cases h
  -- the checks ahead have no part in the report
  · obtain ⟨_, _, _, -, h⟩ := exists_of_run_bind_ok h
    obtain ⟨_, _, _, -, h⟩ := exists_of_run_bind_ok h
    obtain ⟨_, _, _, -, h⟩ := exists_of_run_bind_ok h
    obtain ⟨items, _, _, hItems, h⟩ := exists_of_run_bind_ok h
    rw [← Except.ok.inj h]
    exact sections_of_fillSlots hItems

end AnyRepository

end Assigning

end PollRoster
