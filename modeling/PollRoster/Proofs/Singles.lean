import PollRoster.Proofs.Journal
import PollRoster.Proofs.Report

/-!
# Batches and single assignments

A batch checks the representative once and then goes from section to section. A client who has no
batch assigns the sections one by one, has the representative checked every time, and decides for
himself after which failures to go on. The two come to the same. This does not rest on the ledger
being reliable: a look-up may miss an occupant and an insertion may fail, and both meet the same
faults at the same sections.

Main results:

* `statusOf_cases` — what a batch makes of the outcome of one section.
* `fillSlots_agrees` — section by section, over any repository that keeps the representative.
* `bulkAssign_eq_singles` — a batch as a whole, over an unreliable ledger.
-/

namespace PollRoster

namespace Assigning

open Program

/-! ## One section after another -/

/-- The failure for which a client leaves the remaining sections alone: any but an occupied slot and
a missing record. -/
def failureToStopAt? : Except OperationError AssignOutcome → Option OperationError
  | .ok _ | .error (.slotOccupied _ _ _) | .error (.notFound _ _) => none
  | .error e => some e

/-- What a client is left with who assigns one section after another. -/
structure Singles (ρ : Type) where
  /-- The sections dealt with, and what each assignment came to. -/
  outcomes : List (Int × Except OperationError AssignOutcome)
  /-- The failure at which the client stopped. -/
  stoppedAt : Option OperationError
  events : List Event
  repository : ρ

/-- Assigns one section after another, each by an assignment of its own, up to the first failure to
stop at. -/
def assignEach [Repository ρ] (representativeId : Int) (role : Role) : List Int → ρ → Singles ρ
  | [], r => ⟨[], none, [], r⟩
  | sectionId :: rest, r =>
    let single := (assign sectionId representativeId role).run none 0 r
    match failureToStopAt? single.result with
    | some e => ⟨[], some e, single.events, single.repository⟩
    | none =>
      let others := assignEach representativeId role rest single.repository
      ⟨(sectionId, single.result) :: others.outcomes, others.stoppedAt,
        single.events ++ others.events, others.repository⟩

/-- Which status of a batch stands for which outcome of a single assignment. -/
inductive IsReportedAs : Except OperationError AssignOutcome → BulkStatus → Prop
  | created (a : Assignment) : IsReportedAs (.ok (.created a)) (.assigned a.id)
  | unchanged (a : Assignment) : IsReportedAs (.ok (.unchanged a)) (.alreadyAssigned a.id)
  | occupied (sectionId : Int) (role : Role) (occupant : Int) :
    IsReportedAs (.error (.slotOccupied sectionId role occupant)) (.slotOccupied occupant)
  | missing (resource : String) (id : Int) : IsReportedAs (.error (.notFound resource id)) .notFound

/-- Whether an item of a batch stands for a single assignment. -/
def Stands (single : Int × Except OperationError AssignOutcome) (item : BulkItem) : Prop :=
  item.sectionId = single.1 ∧ IsReportedAs single.2 item.status

/-! ## Section by section -/

/-- An outcome is one to stop at, and then fails the batch, or has a status that stands for it. -/
theorem statusOf_cases (outcome : Except OperationError AssignOutcome) :
    (∃ e, failureToStopAt? outcome = some e ∧ statusOf outcome = .error e) ∨
    failureToStopAt? outcome = none ∧ ∃ status, statusOf outcome = .ok status ∧
      IsReportedAs outcome status := by
  cases outcome with
  | ok outcome =>
    cases outcome with
    | created a => exact .inr ⟨rfl, _, rfl, .created a⟩
    | unchanged a => exact .inr ⟨rfl, _, rfl, .unchanged a⟩
  | error e =>
    cases e with
    | slotOccupied sectionId role occupant =>
      exact .inr ⟨rfl, _, rfl, .occupied sectionId role occupant⟩
    | notFound resource id => exact .inr ⟨rfl, _, rfl, .missing resource id⟩
    | _ => exact .inl ⟨_, rfl, rfl⟩

variable {ρ : Type} [Repository ρ] {r : ρ} {representativeId : Int} {role : Role}

/-- Whether filling slots has left what single assignments leave, and has come to the same end. -/
structure Agrees (sectionIds : List Int) (t : Trace ρ (List BulkItem)) (s : Singles ρ) : Prop where
  repository : t.repository = s.repository
  events : t.events = s.events
  stopped : ∀ e, s.stoppedAt = some e → t.result = .error e
  finished : s.stoppedAt = none → ∃ items, t.result = .ok items ∧
    items.map (·.sectionId) = sectionIds ∧ List.Forall₂ Stands s.outcomes items

/-- A single assignment fills the slot as the turn of a section in a batch does. -/
theorem run_assign_of_never {x : Representative} (hPos : 0 < representativeId)
    (h : Repository.answer (.representative representativeId) r = (.ok (some x), r))
    (sectionId : Int) (now : Moment) :
    (assign sectionId representativeId role).run none 0 r =
      let filled := (fillSlot sectionId representativeId role).run none now.looked r
      { filled with
        finish := ((assign sectionId representativeId role).run none 0 r).finish } := by
  rw [run_assign_of_found rfl hPos h]
  exact run_never _ _ _

/-- **Section by section.** Where the representative is found before every call, filling the slots
of a batch agrees with single assignments. -/
theorem fillSlots_agrees {P : ρ → Prop}
    (hFound : ∀ r, P r → ∃ x,
      Repository.answer (.representative representativeId) r = (.ok (some x), r))
    (hCall : ∀ c r, P r → P (Repository.answer c r).2) (hPos : 0 < representativeId)
    (sectionIds : List Int) (now : Moment) (h : P r) :
    Agrees sectionIds ((fillSlots representativeId role sectionIds).run none now r)
      (assignEach representativeId role sectionIds r) := by
  -- each section starts from the repository that the one before it left
  induction sectionIds generalizing now r with
  | nil =>
    refine ⟨rfl, rfl, fun e he => ?_, fun _ => ⟨[], rfl, rfl, .nil⟩⟩
    cases he
  | cons sectionId rest ih =>
    obtain ⟨x, hAnswer⟩ := hFound r h
    have hKept : P ((fillSlot sectionId representativeId role).run none now.looked r).repository :=
      run_keeps hCall _ h
    have hDown : Cancellation.isRaised none now = false := rfl
    rw [fillSlots, run_bind, run_fillNext_unless_cancelled hDown, assignEach,
      run_assign_of_never hPos hAnswer sectionId now]
    dsimp only
    set filled := (fillSlot sectionId representativeId role).run none now.looked r
    rcases statusOf_cases filled.result with ⟨e, hStop, hFail⟩ | ⟨hGoOn, status, hStatus, hStands⟩
    · rw [hStop, hFail]
      refine ⟨rfl, rfl, fun e' he' => ?_, fun hNone => ?_⟩
      · rw [← Option.some.inj he']
        rfl
      · cases hNone
    · have hRest := ih filled.finish hKept
      rw [hGoOn, hStatus, Trace.andThen]
      dsimp only
      rw [run_map]
      refine ⟨hRest.repository, congrArg (filled.events ++ ·) hRest.events, fun e he => ?_,
        fun hNone => ?_⟩
      · dsimp only
        rw [hRest.stopped e he]
        rfl
      · obtain ⟨items, hItems, hIds, hAll⟩ := hRest.finished hNone
        refine ⟨⟨sectionId, status⟩ :: items, ?_, congrArg (sectionId :: ·) hIds,
          .cons ⟨rfl, hStands⟩ hAll⟩
        dsimp only
        rw [hItems]
        rfl

/-! ## A batch as a whole -/

/-- Behind an unreliable connection the representatives stay those of the ledger. -/
theorem representatives_answer (c : RepositoryCall) (u : UnreliableLedger) :
    (u.answer c).2.ledger.representatives = u.ledger.representatives := by
  rcases u.answer_cases c with ⟨hKept, -⟩ | ⟨-, hLeft⟩
  · rw [hKept]
  · rw [hLeft]
    exact (u.ledger.answer_static c).2

/-- A known representative is found behind it, however many calls were made before. -/
theorem exists_representative {u u' : UnreliableLedger}
    (hKnown : (u.ledger.representative? representativeId).isSome)
    (hSame : u'.ledger.representatives = u.ledger.representatives) :
    ∃ x, Repository.answer (.representative representativeId) u' = (.ok (some x), u') := by
  obtain ⟨x, hx⟩ := Option.isSome_iff_exists.mp hKnown
  rw [Ledger.representative?, ← hSame] at hx
  exact ⟨x, congrArg (fun found => (Except.ok found, u')) hx⟩

theorem exists_eraseDups_eq_cons {ids : List Int} (h : ids ≠ []) :
    ∃ first rest, ids.eraseDups = first :: rest := by
  cases ids with
  | nil => exact (h rfl).elim
  | cons first rest => exact ⟨first, _, List.eraseDups_cons⟩

/-- **A batch is its single assignments.** Over a ledger whatever its contents, with any look-ups
that miss an occupant and any insertions that fail, a batch that nobody cancels leaves the same
ledger and the same faults to come as single assignments of the distinct sections in order, and
announces the same. If these are stopped by a failure, the batch fails with it. If they are not, the
items of its report stand for their outcomes. -/
theorem bulkAssign_eq_singles {u : UnreliableLedger} {sectionIds : List Int}
    (hSome : sectionIds ≠ []) (hPositive : ∀ id ∈ sectionIds, 0 < id) {representativeId : Int}
    (hKnown : (u.ledger.representative? representativeId).isSome) (role : Role) :
    let batch := (bulkAssign representativeId sectionIds role).run none 0 u
    let singles := assignEach representativeId role sectionIds.eraseDups u
    batch.repository = singles.repository ∧ batch.events = singles.events ∧
      (∀ e, singles.stoppedAt = some e → batch.result = .error e) ∧
      (singles.stoppedAt = none → ∃ items, batch.result = .ok ⟨representativeId, role, items⟩ ∧
        items.map (·.sectionId) = sectionIds.eraseDups ∧
        List.Forall₂ Stands singles.outcomes items) := by
  dsimp only
  by_cases hPos : 0 < representativeId
  · have hFound : ∀ u' : UnreliableLedger, u'.ledger.representatives = u.ledger.representatives →
        ∃ x, Repository.answer (.representative representativeId) u' = (.ok (some x), u') :=
      fun _ hSame => exists_representative hKnown hSame
    have hCall : ∀ (c : RepositoryCall) (u' : UnreliableLedger),
        u'.ledger.representatives = u.ledger.representatives →
        (Repository.answer c u').2.ledger.representatives = u.ledger.representatives :=
      fun c u' hSame => (representatives_answer c u').trans hSame
    obtain ⟨x, hAnswer⟩ := hFound u rfl
    have hAgrees : Agrees (distinct sectionIds)
        ((fillSlots representativeId role (distinct sectionIds)).run none 0 u)
        (assignEach representativeId role (distinct sectionIds) u) :=
      fillSlots_agrees hFound hCall hPos (distinct sectionIds) 0 rfl
    rw [run_bulkAssign_of_found hPos hSome hPositive hAnswer, run_map, ← distinct_eq_eraseDups]
    refine ⟨hAgrees.repository, hAgrees.events, fun e he => ?_, fun hNone => ?_⟩
    · dsimp only
      rw [hAgrees.stopped e he]
      rfl
    · obtain ⟨items, hItems, hIds, hAll⟩ := hAgrees.finished hNone
      refine ⟨items, ?_, hIds, hAll⟩
      dsimp only
      rw [hItems]
      rfl
  -- an identifier that is not positive fails the batch, and the first of the single assignments
  · obtain ⟨reason, hCheck⟩ := OperationError.checkId_of_not_pos hPos "representative_id"
    have hNonempty : ¬sectionIds.isEmpty = true := by
      rw [List.isEmpty_iff]
      exact hSome
    obtain ⟨first, rest, hFirst⟩ := exists_eraseDups_eq_cons hSome
    rw [bulkAssign, if_neg hNonempty, run_ofExcept_bind_error hCheck, hFirst, assignEach,
      run_assign_of_refused rfl hCheck]
    refine ⟨rfl, rfl, fun e he => ?_, fun hNone => ?_⟩
    · rw [← Option.some.inj he]
    · cases hNone

/-- The village behind a connection whose second look-up misses Bruno, with these failures of its
insertions. -/
def loosenedVillage (failures : List (Option String)) : UnreliableLedger :=
  ⟨.village, [false, true], failures⟩

/-- Six sections are asked for, one of them twice and one unknown. Bruno is found when he is in the
way of the insertion. If the third insertion fails, batch and client both stop there; if it does
not, both deal with all sections. -/
theorem bulkAssign_eq_singles_village :
    (Ledger.village.representative? 1).isSome ∧ (∀ id ∈ [1, 2, 9, 1, 3, 4], (0 : Int) < id) ∧
    (let stopped := assignEach 1 .primary [1, 2, 9, 3, 4]
        (loosenedVillage [none, none, some "disk full"])
      let batch := (bulkAssign 1 [1, 2, 9, 1, 3, 4] .primary).run none 0
        (loosenedVillage [none, none, some "disk full"])
      stopped.stoppedAt = some (.repository "disk full") ∧
        stopped.repository.ledger.assignments = [⟨1, 2, 2, .primary⟩, ⟨2, 1, 1, .primary⟩] ∧
        batch.repository = stopped.repository ∧
        batch.result = .error (.repository "disk full")) ∧
    (let finished := assignEach 1 .primary [1, 2, 9, 3, 4] (loosenedVillage [])
      let batch := (bulkAssign 1 [1, 2, 9, 1, 3, 4] .primary).run none 0 (loosenedVillage [])
      finished.outcomes.map Prod.snd = [.ok (.created ⟨2, 1, 1, .primary⟩),
        .error (.slotOccupied 2 .primary 2), .error (.notFound "Section" 9),
        .ok (.created ⟨3, 3, 1, .primary⟩), .ok (.created ⟨4, 4, 1, .primary⟩)] ∧
        ∃ items, batch.result = .ok ⟨1, .primary, items⟩ ∧
          List.Forall₂ Stands finished.outcomes items) := by
  have hKnown : (Ledger.village.representative? 1).isSome := by decide
  have hPositive : ∀ id ∈ [1, 2, 9, 1, 3, 4], (0 : Int) < id := by decide
  have hDistinct : [1, 2, 9, 1, 3, 4].eraseDups = ([1, 2, 9, 3, 4] : List Int) := by decide
  have hStopped := bulkAssign_eq_singles (u := loosenedVillage [none, none, some "disk full"])
    (List.cons_ne_nil _ _) hPositive hKnown .primary
  have hFinished := bulkAssign_eq_singles (u := loosenedVillage []) (List.cons_ne_nil _ _) hPositive
    hKnown .primary
  rw [hDistinct] at hStopped hFinished
  obtain ⟨hRepository, -, hFailed, -⟩ := hStopped
  obtain ⟨-, -, -, hDone⟩ := hFinished
  obtain ⟨items, hItems, -, hStands⟩ := hDone rfl
  exact ⟨hKnown, hPositive, ⟨rfl, rfl, hRepository, hFailed _ rfl⟩, rfl, items, hItems, hStands⟩

end Assigning

end PollRoster
