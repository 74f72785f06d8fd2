import PollRoster.Proofs.Failure
import PollRoster.Proofs.Ledger
import PollRoster.Proofs.Program
import PollRoster.Assigning

/-!
# Assigning over a ledger

What the programs that change assignments do when they run at once over a ledger. A slot that was
found empty is still empty when it is filled, so nobody is refused by the insertion itself.

Main results:

* `run_fillSlot_of_held`, `run_fillSlot_of_free` — filling one slot.
* `fillSlot_cases`, `assign_cases`, `remove_cases` — a program either changes nothing, or does the
  one thing that it announces.
* `assign_asks`, `bulkAssign_asks`, `remove_asks` — the calls that a program may make.
-/

namespace PollRoster

/-- Whether a call is one of those by which slots are filled: a look-up of a single record, or an
insertion. -/
def RepositoryCall.IsFilling : RepositoryCall → Prop
  | .representative _ | .sectionExists _ | .findSlot _ _ | .insert _ _ _ => True
  | _ => False

theorem OperationError.checkId_of_pos {value : Int} (h : 0 < value) (field : String) :
    checkId field value = .ok () := by
  rw [checkId, checkIdentifier, if_neg (by omega)]

theorem OperationError.checkId_of_not_pos {value : Int} (h : ¬0 < value) (field : String) :
    ∃ reason, checkId field value = .error (.validation field reason) := by
  rw [checkId, checkIdentifier, if_pos (by omega)]
  exact ⟨_, rfl⟩

theorem OperationError.pos_of_checkId {field : String} {value : Int} {u : Unit}
    (h : checkId field value = .ok u) : 0 < value := by
  by_contra hNot
  obtain ⟨reason, hCheck⟩ := checkId_of_not_pos hNot field
  rw [hCheck] at h
  exact nomatch h

namespace Assigning

open Program

variable {stop : Cancellation} {now : Moment} {l : Ledger} {sectionId representativeId : Int}
  {role : Role}

/-- What another holder means for a representative is never a new assignment. -/
theorem heldOrOccupied_ne_created (existing a : Assignment) (representativeId : Int) :
    heldOrOccupied existing representativeId ≠ .ok (.created a) := by
  rw [heldOrOccupied]
  split <;> simp

/-- Another holder has a status in a batch. -/
theorem exists_statusOf_heldOrOccupied (existing : Assignment) (representativeId : Int) :
    ∃ status, statusOf (heldOrOccupied existing representativeId) = .ok status := by
  rw [heldOrOccupied]
  split
  · exact ⟨_, rfl⟩
  · exact ⟨_, rfl⟩

/-! ## Checks ahead -/

section AnyRepository

variable {ρ : Type} [Repository ρ] {r : ρ}

/-- A look at the flag that is down, before the rest of a program. -/
theorem run_unless_cancelled (hStop : stop.isRaised now = false) (e : OperationError)
    (p : Program α) :
    (isCancelled >>= fun cancelled => if cancelled then .fail e else p).run stop now r =
      p.run stop now.looked r := by
  rw [run_isCancelled_bind, hStop, if_neg Bool.false_ne_true]

theorem run_if_cancelled (hStop : stop.isRaised now = true) (e : OperationError)
    (p : Program α) :
    (isCancelled >>= fun cancelled => if cancelled then .fail e else p).run stop now r =
      ⟨.error e, [], r, now.looked⟩ := by
  rw [run_isCancelled_bind, hStop, if_pos rfl]
  rfl

/-- A representative who is found lets the rest of a program go on. -/
theorem run_requireRepresentative_of_found {x : Representative}
    (h : Repository.answer (.representative representativeId) r = (.ok (some x), r))
    (p : Program α) :
    (requireRepresentative representativeId >>= fun _ => p).run stop now r = p.run stop now r := by
  have hRun : (requireRepresentative representativeId).run stop now r = ⟨.ok (), [], r, now⟩ :=
    run_ask_bind_ok h _
  rw [run_bind, hRun]
  rfl

/-- An assignment that is not cancelled and is asked for a representative who is found fills the
slot. -/
theorem run_assign_of_found {x : Representative} (hStop : stop.isRaised now = false)
    (hPos : 0 < representativeId)
    (h : Repository.answer (.representative representativeId) r = (.ok (some x), r)) :
    (assign sectionId representativeId role).run stop now r =
      (fillSlot sectionId representativeId role).run stop now.looked r := by
  rw [assign, run_unless_cancelled hStop,
    run_ofExcept_bind_ok (OperationError.checkId_of_pos hPos _),
    run_requireRepresentative_of_found h]

/-- A representative whose identifier is refused is not looked for. -/
theorem run_assign_of_refused {e : OperationError} (hStop : stop.isRaised now = false)
    (hCheck : OperationError.checkId "representative_id" representativeId = .error e) :
    (assign sectionId representativeId role).run stop now r = ⟨.error e, [], r, now.looked⟩ := by
  rw [assign, run_unless_cancelled hStop, run_ofExcept_bind_error hCheck]

/-- A batch of positive identifiers passes the checks that it makes ahead. -/
theorem run_bulkAssign_of_pos (hPos : 0 < representativeId) {sectionIds : List Int}
    (hSome : sectionIds ≠ []) (hPositive : ∀ id ∈ sectionIds, 0 < id) :
    (bulkAssign representativeId sectionIds role).run stop now r =
      (requireRepresentative representativeId >>= fun _ =>
        fillSlots representativeId role (distinct sectionIds) >>= fun items =>
          pure ⟨representativeId, role, items⟩).run stop now r := by
  have hChecks : sectionIds.forM (OperationError.checkId "section_id") = .ok () :=
    forM_eq_ok.mpr fun id hId => OperationError.checkId_of_pos (hPositive id hId) _
  have hNonempty : ¬sectionIds.isEmpty = true := by
    rw [List.isEmpty_iff]
    exact hSome
  rw [bulkAssign, if_neg hNonempty, run_ofExcept_bind_ok (OperationError.checkId_of_pos hPos _),
    run_ofExcept_bind_ok hChecks]

/-- A batch of a representative who is found, and of sections with positive identifiers, fills the
slots of the distinct sections. -/
theorem run_bulkAssign_of_found {x : Representative} (hPos : 0 < representativeId)
    {sectionIds : List Int} (hSome : sectionIds ≠ []) (hPositive : ∀ id ∈ sectionIds, 0 < id)
    (h : Repository.answer (.representative representativeId) r = (.ok (some x), r)) :
    (bulkAssign representativeId sectionIds role).run stop now r =
      (fillSlots representativeId role (distinct sectionIds) >>= fun items =>
        pure ⟨representativeId, role, items⟩).run stop now r := by
  rw [run_bulkAssign_of_pos hPos hSome hPositive, run_requireRepresentative_of_found h]

/-- A batch for an identifier that is refused ends before the repository is asked. -/
theorem run_bulkAssign_of_refused {sectionIds : List Int} (hSome : sectionIds ≠ [])
    {e : OperationError}
    (hCheck : OperationError.checkId "representative_id" representativeId = .error e) :
    (bulkAssign representativeId sectionIds role).run stop now r = ⟨.error e, [], r, now⟩ := by
  have hNonempty : ¬sectionIds.isEmpty = true := by
    rw [List.isEmpty_iff]
    exact hSome
  rw [bulkAssign, if_neg hNonempty, run_ofExcept_bind_error hCheck]

theorem run_fillSlot_of_missing (hPos : 0 < sectionId)
    (hMissing : Repository.answer (.sectionExists sectionId) r = (.ok false, r)) :
    (fillSlot sectionId representativeId role).run stop now r =
      ⟨.error (.notFound "Section" sectionId), [], r, now⟩ := by
  rw [fillSlot, run_ofExcept_bind_ok (OperationError.checkId_of_pos hPos _),
    run_ask_bind_ok hMissing]
  rfl

/-- A filling up to the look at the slot. -/
theorem run_fillSlot_of_existing (hPos : 0 < sectionId) {found : Option Assignment}
    (hKnown : Repository.answer (.sectionExists sectionId) r = (.ok true, r))
    (hLook : Repository.answer (.findSlot sectionId role) r = (.ok found, r)) :
    (fillSlot sectionId representativeId role).run stop now r =
      (match found with
        | some existing => ofExcept (heldOrOccupied existing representativeId)
        | none => insertInto sectionId representativeId role).run stop now r := by
  rw [fillSlot, run_ofExcept_bind_ok (OperationError.checkId_of_pos hPos _),
    run_ask_bind_ok hKnown, if_neg (by decide), run_ask_bind_ok hLook]
  cases found <;> rfl

/-- The turn of a section in a batch, while the flag is down, fills its slot. -/
theorem run_fillNext_unless_cancelled (hStop : stop.isRaised now = false) :
    (fillNext representativeId role sectionId).run stop now r =
      let filled := (fillSlot sectionId representativeId role).run stop now.looked r
      ⟨statusOf filled.result, filled.events, filled.repository, filled.finish⟩ := by
  rw [fillNext, run_isCancelled_bind, hStop, if_neg Bool.false_ne_true, run_bind, run_attempt,
    Trace.andThen]
  dsimp only
  rw [run_ofExcept, List.append_nil]

theorem run_fillNext_if_cancelled (hStop : stop.isRaised now = true) :
    (fillNext representativeId role sectionId).run stop now r =
      ⟨.ok .cancelled, [], r, now.looked⟩ := by
  rw [fillNext, run_isCancelled_bind, hStop, if_pos rfl]
  rfl

end AnyRepository

/-- A ledger finds the representatives that it knows. -/
theorem answer_representative_of_known (h : (l.representative? representativeId).isSome) :
    ∃ x, Repository.answer (.representative representativeId) l = (.ok (some x), l) := by
  obtain ⟨x, hx⟩ := Option.isSome_iff_exists.mp h
  exact ⟨x, congrArg (fun found => (Except.ok found, l)) hx⟩

/-- A representative who is known lets the rest of a program go on. -/
theorem run_requireRepresentative_of_known (h : (l.representative? representativeId).isSome)
    (p : Program α) :
    (requireRepresentative representativeId >>= fun _ => p).run stop now l =
      p.run stop now l := by
  obtain ⟨x, hAnswer⟩ := answer_representative_of_known h
  exact run_requireRepresentative_of_found hAnswer p

theorem run_requireRepresentative_of_unknown (h : l.representative? representativeId = none)
    (p : Program α) :
    (requireRepresentative representativeId >>= fun _ => p).run stop now l =
      ⟨.error (.notFound "Representative" representativeId), [], l, now⟩ := by
  have hAnswer : Repository.answer (.representative representativeId) l = (.ok none, l) :=
    congrArg (fun x => (Except.ok x, l)) h
  have hRun : (requireRepresentative representativeId).run stop now l =
      ⟨.error (.notFound "Representative" representativeId), [], l, now⟩ :=
    run_ask_bind_ok hAnswer _
  rw [run_bind, hRun]
  rfl

/-- A batch for a representative who is unknown ends before the first section. -/
theorem run_bulkAssign_of_unknown (hPos : 0 < representativeId) {sectionIds : List Int}
    (hSome : sectionIds ≠ []) (hPositive : ∀ id ∈ sectionIds, 0 < id)
    (hUnknown : l.representative? representativeId = none) :
    (bulkAssign representativeId sectionIds role).run stop now l =
      ⟨.error (.notFound "Representative" representativeId), [], l, now⟩ := by
  rw [run_bulkAssign_of_pos hPos hSome hPositive, run_requireRepresentative_of_unknown hUnknown]

/-! ## One slot -/

theorem run_insertInto_of_free (hFree : l.findSlot sectionId role = none) :
    (insertInto sectionId representativeId role).run stop now l =
      ⟨.ok (.created (l.next sectionId representativeId role)),
        [.assigned (l.next sectionId representativeId role)],
        l.add (l.next sectionId representativeId role),
        now.announced (.assigned (l.next sectionId representativeId role))⟩ := by
  have hAnswer : Repository.answer (.insert sectionId representativeId role) l =
      (.ok (l.next sectionId representativeId role),
        l.add (l.next sectionId representativeId role)) := Ledger.insert_of_free hFree _
  rw [insertInto, run_tryAsk_bind, hAnswer]
  rfl

theorem run_fillSlot_of_unknown (hPos : 0 < sectionId)
    (hSection : l.territory.section? sectionId = none) :
    (fillSlot sectionId representativeId role).run stop now l =
      ⟨.error (.notFound "Section" sectionId), [], l, now⟩ := by
  have hMissing : Repository.answer (.sectionExists sectionId) l = (.ok false, l) :=
    congrArg (fun found => (Except.ok (Option.isSome found), l)) hSection
  exact run_fillSlot_of_missing hPos hMissing

/-- A filling up to the look at the slot. -/
theorem run_fillSlot_of_section (hPos : 0 < sectionId)
    (hSection : (l.territory.section? sectionId).isSome) :
    (fillSlot sectionId representativeId role).run stop now l =
      (match l.findSlot sectionId role with
        | some existing => ofExcept (heldOrOccupied existing representativeId)
        | none => insertInto sectionId representativeId role).run stop now l := by
  have hKnown : Repository.answer (.sectionExists sectionId) l = (.ok true, l) :=
    congrArg (fun x => (Except.ok x, l)) hSection
  exact run_fillSlot_of_existing hPos hKnown rfl

theorem run_fillSlot_of_held (hPos : 0 < sectionId)
    (hSection : (l.territory.section? sectionId).isSome) {existing : Assignment}
    (hHeld : l.findSlot sectionId role = some existing) :
    (fillSlot sectionId representativeId role).run stop now l =
      ⟨heldOrOccupied existing representativeId, [], l, now⟩ := by
  rw [run_fillSlot_of_section hPos hSection, hHeld]
  exact run_ofExcept _

theorem run_fillSlot_of_free (hPos : 0 < sectionId)
    (hSection : (l.territory.section? sectionId).isSome)
    (hFree : l.findSlot sectionId role = none) :
    (fillSlot sectionId representativeId role).run stop now l =
      ⟨.ok (.created (l.next sectionId representativeId role)),
        [.assigned (l.next sectionId representativeId role)],
        l.add (l.next sectionId representativeId role),
        now.announced (.assigned (l.next sectionId representativeId role))⟩ := by
  rw [run_fillSlot_of_section hPos hSection, hFree]
  exact run_insertInto_of_free hFree

/-- Filling a slot either changes and announces nothing, or makes the next assignment and announces
it. What a batch has no status for is an identifier that is not positive, and nothing else. -/
theorem fillSlot_cases (sectionId representativeId : Int) (role : Role) (stop : Cancellation)
    (now : Moment) (l : Ledger) :
    (∃ x, (∀ a, x ≠ .ok (.created a)) ∧ (0 < sectionId → ∃ status, statusOf x = .ok status) ∧
      (fillSlot sectionId representativeId role).run stop now l = ⟨x, [], l, now⟩) ∨
    ((l.territory.section? sectionId).isSome ∧ l.findSlot sectionId role = none ∧
      (fillSlot sectionId representativeId role).run stop now l =
        ⟨.ok (.created (l.next sectionId representativeId role)),
          [.assigned (l.next sectionId representativeId role)],
          l.add (l.next sectionId representativeId role),
          now.announced (.assigned (l.next sectionId representativeId role))⟩) := by
  by_cases hPos : 0 < sectionId
  -- past the checks, what the first look at the slot finds decides
  · cases hSection : l.territory.section? sectionId with
    | none =>
      exact .inl ⟨.error (.notFound "Section" sectionId), fun a => nofun, fun _ => ⟨_, rfl⟩,
        run_fillSlot_of_unknown hPos hSection⟩
    | some x =>
      have hKnown : (l.territory.section? sectionId).isSome := by
        rw [hSection]
        rfl
      cases hSlot : l.findSlot sectionId role with
      | some existing =>
        exact .inl ⟨_, fun a => heldOrOccupied_ne_created existing a representativeId,
          fun _ => exists_statusOf_heldOrOccupied existing representativeId,
          run_fillSlot_of_held hPos hKnown hSlot⟩
      | none => exact .inr ⟨rfl, rfl, run_fillSlot_of_free hPos hKnown hSlot⟩
  · obtain ⟨reason, hCheck⟩ := OperationError.checkId_of_not_pos hPos "section_id"
    refine .inl ⟨.error (.validation "section_id" reason), fun a => nofun, fun h => ?_, ?_⟩
    · exact (hPos h).elim
    · exact run_ofExcept_bind_error hCheck _

/-! ## Assigning and removing -/

/-- An assignment that is not cancelled and is asked for a known representative fills the slot. -/
theorem run_assign_of_known (hStop : stop.isRaised now = false) (hPos : 0 < representativeId)
    (hKnown : (l.representative? representativeId).isSome) :
    (assign sectionId representativeId role).run stop now l =
      (fillSlot sectionId representativeId role).run stop now.looked l := by
  obtain ⟨x, hAnswer⟩ := answer_representative_of_known hKnown
  exact run_assign_of_found hStop hPos hAnswer

theorem assign_cases (sectionId representativeId : Int) (role : Role) (stop : Cancellation)
    (now : Moment) (l : Ledger) :
    (∃ x finish, (∀ a, x ≠ .ok (.created a)) ∧
      (assign sectionId representativeId role).run stop now l = ⟨x, [], l, finish⟩) ∨
    ((l.territory.section? sectionId).isSome ∧ (l.representative? representativeId).isSome ∧
      l.findSlot sectionId role = none ∧
      ∃ finish, (assign sectionId representativeId role).run stop now l =
        ⟨.ok (.created (l.next sectionId representativeId role)),
          [.assigned (l.next sectionId representativeId role)],
          l.add (l.next sectionId representativeId role), finish⟩) := by
  cases hStop : stop.isRaised now with
  | true =>
    exact .inl ⟨.error .cancelled, now.looked, fun a => nofun, run_if_cancelled hStop _ _⟩
  | false =>
    by_cases hPos : 0 < representativeId
    · cases hKnown : l.representative? representativeId with
      | none =>
        refine .inl ⟨.error (.notFound "Representative" representativeId), now.looked,
          fun a => nofun, ?_⟩
        rw [assign, run_unless_cancelled hStop,
          run_ofExcept_bind_ok (OperationError.checkId_of_pos hPos _),
          run_requireRepresentative_of_unknown hKnown]
      | some r =>
        have hSome : (l.representative? representativeId).isSome := by
          rw [hKnown]
          rfl
        rw [run_assign_of_known hStop hPos hSome]
        rcases fillSlot_cases sectionId representativeId role stop now.looked l with
          ⟨x, hx, -, hRun⟩ | ⟨hSection, hFree, hRun⟩
        · exact .inl ⟨x, _, hx, hRun⟩
        · exact .inr ⟨hSection, rfl, hFree, _, hRun⟩
    · obtain ⟨reason, hCheck⟩ := OperationError.checkId_of_not_pos hPos "representative_id"
      exact .inl ⟨.error (.validation "representative_id" reason), now.looked, fun a => nofun,
        run_assign_of_refused hStop hCheck⟩

/-- A removal that is not cancelled deletes. -/
theorem run_remove (hStop : stop.isRaised now = false) {id : Int} (hPos : 0 < id) :
    (remove id).run stop now l =
      match l.delete id with
      | (.ok a, l) => ⟨.ok a, [.removed a], l, now.looked⟩
      | (.error e, l) => ⟨.error e, [], l, now.looked⟩ := by
  rw [remove, run_unless_cancelled hStop,
    run_ofExcept_bind_ok (OperationError.checkId_of_pos hPos _)]
  rcases l.delete_cases id with ⟨-, hDelete⟩ | ⟨a, -, hDelete⟩
  · rw [run_ask_bind_error (c := .delete id) hDelete, hDelete]
  · rw [run_ask_bind_ok (c := .delete id) hDelete, hDelete]
    rfl

theorem remove_cases (id : Int) (stop : Cancellation) (now : Moment) (l : Ledger) :
    (∃ e finish, (remove id).run stop now l = ⟨.error e, [], l, finish⟩) ∨
    ∃ a, l.assignment? id = some a ∧
      ∃ finish, (remove id).run stop now l = ⟨.ok a, [.removed a], l.without id, finish⟩ := by
  cases hStop : stop.isRaised now with
  | true =>
    exact .inl ⟨.cancelled, now.looked, run_if_cancelled hStop _ _⟩
  | false =>
    by_cases hPos : 0 < id
    · rw [run_remove hStop hPos]
      rcases l.delete_cases id with ⟨-, hDelete⟩ | ⟨a, hFound, hDelete⟩
      · rw [hDelete]
        exact .inl ⟨_, _, rfl⟩
      · rw [hDelete]
        exact .inr ⟨a, hFound, _, rfl⟩
    · obtain ⟨reason, hCheck⟩ := OperationError.checkId_of_not_pos hPos "assignment_id"
      refine .inl ⟨.validation "assignment_id" reason, now.looked, ?_⟩
      rw [remove, run_unless_cancelled hStop]
      exact run_ofExcept_bind_error hCheck _

/-! ## What the programs ask -/

theorem requireRepresentative_asks (id : Int) :
    (requireRepresentative id).Asks RepositoryCall.IsFilling := by
  refine (asks_ask trivial).bind fun found => ?_
  cases found <;> trivial

theorem insertInto_asks (sectionId representativeId : Int) (role : Role) :
    (insertInto sectionId representativeId role).Asks RepositoryCall.IsFilling := by
  refine (asks_tryAsk trivial).bind fun answer => ?_
  split
  · trivial
  · refine (asks_ask trivial).bind fun occupant => ?_
    cases occupant with
    | some existing => exact asks_ofExcept _
    | none => trivial
  · trivial

theorem fillSlot_asks (sectionId representativeId : Int) (role : Role) :
    (fillSlot sectionId representativeId role).Asks RepositoryCall.IsFilling := by
  refine (asks_ofExcept _).bind fun _ => (asks_ask trivial).bind fun known => ?_
  cases known with
  | false => trivial
  | true =>
    refine (asks_ask trivial).bind fun occupant => ?_
    cases occupant with
    | some existing => exact asks_ofExcept _
    | none => exact insertInto_asks sectionId representativeId role

theorem assign_asks (sectionId representativeId : Int) (role : Role) :
    (assign sectionId representativeId role).Asks RepositoryCall.IsFilling := by
  refine asks_isCancelled.bind fun cancelled => ?_
  cases cancelled with
  | true => trivial
  | false =>
    exact (asks_ofExcept _).bind fun _ => (requireRepresentative_asks _).bind fun _ =>
      fillSlot_asks sectionId representativeId role

theorem remove_asks (assignmentId : Int) :
    (remove assignmentId).Asks (· = .delete assignmentId) := by
  have hDelete : (ask (.delete assignmentId)).Asks (· = .delete assignmentId) := asks_ask rfl
  refine asks_isCancelled.bind fun cancelled => ?_
  cases cancelled with
  | true => trivial
  | false => exact (asks_ofExcept _).bind fun _ => hDelete.bind fun _ => trivial

theorem fillSlots_asks (representativeId : Int) (role : Role) (sectionIds : List Int) :
    (fillSlots representativeId role sectionIds).Asks RepositoryCall.IsFilling := by
  induction sectionIds with
  | nil => trivial
  | cons sectionId rest ih =>
    refine Asks.bind (asks_isCancelled.bind fun cancelled => ?_) fun _ => ih.bind fun _ => trivial
    cases cancelled with
    | true => trivial
    | false =>
      exact (fillSlot_asks sectionId representativeId role).attempt.bind fun _ => asks_ofExcept _

theorem bulkAssign_asks (representativeId : Int) (sectionIds : List Int) (role : Role) :
    (bulkAssign representativeId sectionIds role).Asks RepositoryCall.IsFilling := by
  rw [bulkAssign]
  split
  · trivial
  · exact (asks_ofExcept _).bind fun _ => (asks_ofExcept _).bind fun _ =>
      (requireRepresentative_asks _).bind fun _ => (fillSlots_asks _ role _).bind fun _ => trivial

end Assigning

end PollRoster
