import PollRoster.Proofs.Appointing
import PollRoster.Proofs.Singles

/-!
# Resuming a batch

A batch can be cut short: the operator cancels, beforehand or while the listeners are told of an
assignment, or an insertion fails without writing. Whoever then asks for the same batch again is
left with what one undisturbed batch would have come to, down to the identifiers.

This rests on where a batch can be cut. It has gone through its sections undisturbed up to some
point, and it has not touched those that were left: neither a cancelled section nor a failed
insertion uses up an identifier.

Main results:

* `fillNext_disturbed` — one section, with the flag up or down and the insertion failing or not.
* `fillSlots_disturbed` — all sections: `EndsBefore` says where the batch was cut.
* `bulkAssign_resumes` — the batch as a whole and the batch after it.
-/

namespace PollRoster

/-- A ledger where look-ups are true and the insertions to come may fail. -/
def Ledger.failing (l : Ledger) (failures : List (Option String)) : UnreliableLedger :=
  ⟨l, [], failures⟩

namespace Assigning

open Program

variable {l : Ledger} {failures : List (Option String)} {representativeId sectionId : Int}
  {role : Role} {stop : Cancellation} {now : Moment}

/-! ## One section -/

/-- An insertion into a free slot fails and writes nothing, or makes the next assignment. -/
theorem answer_insert_failing (hFree : l.findSlot sectionId role = none)
    (failures : List (Option String)) :
    (∃ reason, Repository.answer (.insert sectionId representativeId role) (l.failing failures) =
      (.error (.repository reason), l.failing failures.tail)) ∨
    Repository.answer (.insert sectionId representativeId role) (l.failing failures) =
      (.ok (l.next sectionId representativeId role),
        (l.add (l.next sectionId representativeId role)).failing failures.tail) := by
  -- an insertion that is not made to fail is the ledger's own
  have hForward : ∀ rest : List (Option String),
      UnreliableLedger.forward (.insert sectionId representativeId role) (l.failing rest) =
        (.ok (l.next sectionId representativeId role),
          (l.add (l.next sectionId representativeId role)).failing rest) := by
    intro rest
    have hInsert : l.answer (.insert sectionId representativeId role) =
        (.ok (l.next sectionId representativeId role),
          l.add (l.next sectionId representativeId role)) := Ledger.insert_of_free hFree _
    unfold UnreliableLedger.forward Ledger.failing
    rw [hInsert]
  cases failures with
  | nil => exact .inr (hForward [])
  | cons failure rest =>
    cases failure with
    | none => exact .inr (hForward rest)
    | some reason => exact .inl ⟨reason, rfl⟩

theorem run_insertInto_disturbed (hFree : l.findSlot sectionId role = none) (stop : Cancellation)
    (now : Moment) :
    (∃ reason, (insertInto sectionId representativeId role).run stop now (l.failing failures) =
      ⟨.error (.repository reason), [], l.failing failures.tail, now⟩) ∨
    (insertInto sectionId representativeId role).run stop now (l.failing failures) =
      ⟨.ok (.created (l.next sectionId representativeId role)),
        [.assigned (l.next sectionId representativeId role)],
        (l.add (l.next sectionId representativeId role)).failing failures.tail,
        now.announced (.assigned (l.next sectionId representativeId role))⟩ := by
  unfold insertInto
  rw [run_tryAsk_bind]
  rcases answer_insert_failing hFree failures with ⟨reason, hFailed⟩ | hMade
  · rw [hFailed]
    exact .inl ⟨reason, rfl⟩
  · rw [hMade]
    exact .inr rfl

/-- **One section.** Its turn is cancelled, or fails with the insertion, or comes to its verdict.
Only the last changes the ledger. -/
theorem fillNext_disturbed (l : Ledger) (failures : List (Option String)) (representativeId : Int)
    (role : Role) (hPos : 0 < sectionId) (stop : Cancellation) (now : Moment) :
    (stop.isRaised now = true ∧
      (fillNext representativeId role sectionId).run stop now (l.failing failures) =
        ⟨.ok .cancelled, [], l.failing failures, now.looked⟩) ∨
    ∃ rest finish,
      (∃ reason, (fillNext representativeId role sectionId).run stop now (l.failing failures) =
        ⟨.error (.repository reason), [], l.failing rest, finish⟩) ∨
      (fillNext representativeId role sectionId).run stop now (l.failing failures) =
        ⟨.ok (l.verdict representativeId role sectionId),
          (madeBy representativeId role
            [⟨sectionId, l.verdict representativeId role sectionId⟩]).map .assigned,
          (l.appoint representativeId role sectionId).failing rest, finish⟩ := by
  cases hStop : stop.isRaised now with
  | true => exact .inl ⟨rfl, run_fillNext_if_cancelled hStop⟩
  | false =>
    right
    rw [run_fillNext_unless_cancelled hStop]
    -- what is looked up is true of the ledger
    have hKnows : ∀ {x : Bool}, (l.territory.section? sectionId).isSome = x →
        Repository.answer (.sectionExists sectionId) (l.failing failures) =
          (.ok x, l.failing failures) :=
      fun h => congrArg (fun known => (Except.ok known, l.failing failures)) h
    have hLooks : ∀ {x : Option Assignment}, l.findSlot sectionId role = x →
        Repository.answer (.findSlot sectionId role) (l.failing failures) =
          (.ok x, l.failing failures) :=
      fun h => congrArg (fun found => (Except.ok found, l.failing failures)) h
    by_cases hOpen : l.IsOpen sectionId role
    · rw [run_fillSlot_of_existing hPos (hKnows hOpen.1) (hLooks hOpen.2),
        Ledger.verdict_of_open hOpen, Ledger.appoint_of_open hOpen]
      dsimp only
      rcases run_insertInto_disturbed hOpen.2 stop now.looked with ⟨reason, hFailed⟩ | hMade
      · rw [hFailed]
        exact ⟨failures.tail, _, .inl ⟨reason, rfl⟩⟩
      · rw [hMade]
        exact ⟨failures.tail, _, .inr rfl⟩
    -- where nothing is inserted nothing can fail
    · rw [Ledger.appoint_of_not_open hOpen]
      rcases Ledger.not_isOpen_iff.mp hOpen with hUnknown | ⟨hSection, held, hHeld⟩
      · have hMissing : (l.territory.section? sectionId).isSome = false := by
          rw [hUnknown]
          rfl
        rw [run_fillSlot_of_missing hPos (hKnows hMissing), Ledger.verdict_of_unknown hUnknown]
        exact ⟨failures, _, .inr rfl⟩
      · rw [run_fillSlot_of_existing hPos (hKnows hSection) (hLooks hHeld),
          Ledger.verdict_of_held hSection hHeld]
        refine ⟨failures, now.looked, .inr ?_⟩
        dsimp only
        rw [run_ofExcept]
        unfold heldOrOccupied
        split <;> rfl

/-! ## All sections -/

/-- Where a batch ends: the sections of `before` have had their turns undisturbed, and those of
`after` have been left alone, because the operator cancelled or because an insertion failed. -/
structure EndsBefore (representativeId : Int) (role : Role) (l : Ledger) (before after : List Int)
    (t : Trace UnreliableLedger (List BulkItem)) : Prop where
  ledger : t.repository.ledger = l.appointAll representativeId role before
  events : t.events = (madeBy representativeId role (l.account representativeId role before)).map
    .assigned
  result : t.result = .ok (l.account representativeId role before ++
      after.map fun id => ⟨id, .cancelled⟩) ∨
    ∃ reason, t.result = .error (.repository reason)

/-- Once the flag is up all sections are cancelled. -/
theorem run_fillSlots_of_raised {ρ : Type} [Repository ρ] (representativeId : Int) (role : Role)
    (sectionIds : List Int) (r : ρ) (hStop : stop.isRaised now = true) :
    ∃ finish, (fillSlots representativeId role sectionIds).run stop now r =
      ⟨.ok (sectionIds.map fun id => ⟨id, .cancelled⟩), [], r, finish⟩ := by
  induction sectionIds generalizing now with
  | nil => exact ⟨now, rfl⟩
  | cons sectionId rest ih =>
    -- a flag that is up stays up
    have hStill : stop.isRaised now.looked = true := by
      cases stop with
      | none => cases hStop
      | some moment =>
        have hLe : moment ≤ now := of_decide_eq_true hStop
        refine decide_eq_true (hLe.imp_right ?_)
        rintro ⟨hWritten, hLooks⟩
        exact ⟨hWritten, Nat.le_succ_of_le hLooks⟩
    obtain ⟨finish, hRest⟩ := ih hStill
    refine ⟨finish, ?_⟩
    rw [fillSlots, run_bind, run_fillNext_if_cancelled hStop, Trace.andThen]
    dsimp only
    rw [run_map, hRest]
    rfl

/-- **All sections.** However a batch is disturbed, it ends before some section. -/
theorem fillSlots_disturbed (l : Ledger) (failures : List (Option String)) (representativeId : Int)
    (role : Role) {sectionIds : List Int} (hPos : ∀ id ∈ sectionIds, 0 < id) (stop : Cancellation)
    (now : Moment) :
    ∃ before after, sectionIds = before ++ after ∧
      EndsBefore representativeId role l before after
        ((fillSlots representativeId role sectionIds).run stop now (l.failing failures)) := by
  induction sectionIds generalizing now l failures with
  | nil => exact ⟨[], [], rfl, rfl, rfl, .inl rfl⟩
  | cons sectionId rest ih =>
    obtain ⟨hFirst, hRest⟩ := List.forall_mem_cons.mp hPos
    rcases fillNext_disturbed l failures representativeId role hFirst stop now with
      ⟨hStop, -⟩ | ⟨left, later, ⟨reason, hFailed⟩ | hTurn⟩
    -- the flag is up: this section is left alone, and so are all others
    · obtain ⟨finish, hCancelled⟩ := run_fillSlots_of_raised representativeId role
        (sectionId :: rest) (l.failing failures) hStop
      rw [hCancelled]
      exact ⟨[], sectionId :: rest, rfl, rfl, rfl, .inl rfl⟩
    -- the insertion fails, and the batch with it
    · rw [fillSlots, run_bind, hFailed]
      exact ⟨[], sectionId :: rest, rfl, rfl, rfl, .inr ⟨reason, rfl⟩⟩
    · obtain ⟨before, after, hSplit, hEnds⟩ :=
        ih (l.appoint representativeId role sectionId) left hRest later
      refine ⟨sectionId :: before, after, congrArg (sectionId :: ·) hSplit, ?_⟩
      rw [fillSlots, run_bind, hTurn, Trace.andThen]
      dsimp only
      rw [run_map]
      refine ⟨hEnds.ledger, ?_, ?_⟩
      · dsimp only
        rw [hEnds.events, Ledger.madeBy_account_cons, List.map_append]
      · dsimp only
        rcases hEnds.result with hOk | ⟨reason, hError⟩
        · rw [hOk]
          exact .inl rfl
        · rw [hError]
          exact .inr ⟨reason, rfl⟩

/-- **A disturbed batch** ends before some section, and reports the others as cancelled if it comes
to a report at all. -/
theorem bulkAssign_disturbed (hPos : 0 < representativeId) {sectionIds : List Int}
    (hSome : sectionIds ≠ []) (hPositive : ∀ id ∈ sectionIds, 0 < id)
    (hKnown : (l.representative? representativeId).isSome) (role : Role) (stop : Cancellation)
    (failures : List (Option String)) :
    ∃ before after t, distinct sectionIds = before ++ after ∧
      (bulkAssign representativeId sectionIds role).run stop 0 (l.failing failures) = t ∧
      t.repository.ledger = l.appointAll representativeId role before ∧
      t.events = (madeBy representativeId role
        (l.account representativeId role before)).map .assigned ∧
      ∀ report, t.result = .ok report → report.items =
        l.account representativeId role before ++ after.map fun id => ⟨id, .cancelled⟩ := by
  have hDistinct : ∀ id ∈ distinct sectionIds, 0 < id := fun id hId =>
    hPositive id (mem_distinct.mp hId)
  obtain ⟨x, hFound⟩ : ∃ x, Repository.answer (.representative representativeId)
      (l.failing failures) = (.ok (some x), l.failing failures) :=
    exists_representative (u := l.failing failures) hKnown rfl
  obtain ⟨before, after, hSplit, hEnds⟩ :=
    fillSlots_disturbed l failures representativeId role hDistinct stop 0
  refine ⟨before, after, _, hSplit, rfl, ?_⟩
  rw [run_bulkAssign_of_found hPos hSome hPositive hFound, run_map]
  refine ⟨hEnds.ledger, hEnds.events, fun report hReport => ?_⟩
  dsimp only at hReport
  -- a batch whose insertion failed has no report
  rcases hEnds.result with hOk | ⟨reason, hError⟩
  · rw [hOk] at hReport
    rw [← Except.ok.inj hReport]
  · rw [hError] at hReport
    cases hReport

/-! ## The batch after it -/

/-- An undisturbed batch that is left only some of its sections to deal with reports the others as
they were reported, the assignments made at them as held. -/
theorem run_bulkAssign_of_resumed (hPos : 0 < representativeId) {sectionIds : List Int}
    (hSome : sectionIds ≠ []) (hPositive : ∀ id ∈ sectionIds, 0 < id)
    (hKnown : (l.representative? representativeId).isSome) (role : Role) {before after : List Int}
    (hSplit : distinct sectionIds = before ++ after) :
    let left := l.appointAll representativeId role before
    ∃ finish, (bulkAssign representativeId sectionIds role).run none 0 left =
      ⟨.ok ⟨representativeId, role, (l.account representativeId role before).map BulkItem.again ++
          left.account representativeId role after⟩,
        (madeBy representativeId role (left.account representativeId role after)).map .assigned,
        l.appointAll representativeId role (distinct sectionIds), finish⟩ := by
  intro left
  have hStill : (left.representative? representativeId).isSome := by
    unfold Ledger.representative?
    rw [Ledger.representatives_appointAll]
    exact hKnown
  obtain ⟨finish, hRun⟩ := run_bulkAssign_undisturbed hPos hSome hPositive hStill role
  refine ⟨finish, ?_⟩
  rw [hRun, hSplit, Ledger.account_resumed, Ledger.appointAll_resumed, Ledger.madeBy_append,
    Ledger.madeBy_again, List.nil_append]

/-- An assignment made before a batch was cut short is reported as held, and of its section nothing
else is reported. -/
theorem held_of_resumed {before after : List Int} (hOnce : (before ++ after).Nodup)
    {a : Assignment} (hMade : a ∈ madeBy representativeId role
      (l.account representativeId role before)) (item : BulkItem) :
    item ∈ (l.account representativeId role before).map BulkItem.again ++
        (l.appointAll representativeId role before).account representativeId role after ∧
      item.sectionId = a.sectionId ↔ item = ⟨a.sectionId, .alreadyAssigned a.id⟩ := by
  have hHeld : ⟨a.sectionId, .alreadyAssigned a.id⟩ ∈
      (l.account representativeId role before).map BulkItem.again :=
    List.mem_map.mpr ⟨_, Ledger.mem_madeBy hMade, rfl⟩
  have hMem := List.mem_append_left
    ((l.appointAll representativeId role before).account representativeId role after) hHeld
  -- together the two accounts are one, in which each section is named once
  rw [← Ledger.account_resumed] at hMem ⊢
  constructor
  · rintro ⟨hItem, hSection⟩
    exact Ledger.account_inj hOnce hItem hMem hSection
  · rintro rfl
    exact ⟨hMem, rfl⟩

/-- **A batch that was cut short can be resumed.** Whatever a ledger holds, let a batch be cut short
by the operator or by failing insertions, and let the same batch follow undisturbed. Then the ledger
is the one that a single undisturbed batch leaves, and the events of both are its events. Where the
first batch made an assignment the second one makes none and reports that very assignment as held.
If the first batch had completed, the second one writes and announces nothing. -/
theorem bulkAssign_resumes {l : Ledger} {sectionIds : List Int} (hSome : sectionIds ≠ [])
    (hPositive : ∀ id ∈ sectionIds, 0 < id) {representativeId : Int} (hPos : 0 < representativeId)
    (hKnown : (l.representative? representativeId).isSome) (role : Role) (stop : Cancellation)
    (failures : List (Option String)) :
    let batch := bulkAssign representativeId sectionIds role
    let first := batch.run stop 0 (l.failing failures)
    let second := batch.run none 0 first.repository.ledger
    let whole := batch.run none 0 l
    second.repository = whole.repository ∧ first.events ++ second.events = whole.events ∧
    (∃ made report, first.repository.ledger.assignments = l.assignments ++ made ∧
      first.events = made.map .assigned ∧ second.result = .ok report ∧
      ∀ a ∈ made,
        (∀ item, item ∈ report.items ∧ item.sectionId = a.sectionId ↔
          item = ⟨a.sectionId, .alreadyAssigned a.id⟩) ∧
        ∀ b, .assigned b ∈ second.events → b.sectionId ≠ a.sectionId) ∧
    ∀ report, first.result = .ok report → (∀ item ∈ report.items, item.status ≠ .cancelled) →
      second.repository = first.repository.ledger ∧ second.events = [] := by
  intro batch first second whole
  obtain ⟨before, after, t, hSplit, hFirst, hLeft, hTold, hReport⟩ :=
    bulkAssign_disturbed hPos hSome hPositive hKnown role stop failures
  change first = t at hFirst
  rw [← hFirst] at hLeft hTold hReport
  -- the second batch goes through the sections before the cut again, and then through the others
  obtain ⟨finish, hSecond⟩ := run_bulkAssign_of_resumed hPos hSome hPositive hKnown role hSplit
  rw [← hLeft] at hSecond
  change second = _ at hSecond
  obtain ⟨finish', hWhole⟩ := run_bulkAssign_undisturbed hPos hSome hPositive hKnown role
  change whole = _ at hWhole
  have hOnce : (before ++ after).Nodup := by
    rw [← hSplit]
    exact nodup_distinct sectionIds
  rw [hSecond, hWhole, hTold, hLeft]
  refine ⟨rfl, ?_, ⟨_, _, Ledger.assignments_appointAll, rfl, rfl, fun a ha => ⟨?_, ?_⟩⟩, ?_⟩
  -- what is told before the cut and after it is told in one go otherwise
  · rw [← List.map_append, ← Ledger.madeBy_append, ← Ledger.account_append, hSplit]
  · exact held_of_resumed hOnce ha
  -- an assignment made now would be a second item of its section
  · intro b hb hSame
    obtain ⟨b', hMade, hTell⟩ := List.mem_map.mp hb
    obtain rfl := Event.assigned.inj hTell
    have hNew := Ledger.mem_madeBy hMade
    have hHeld := (held_of_resumed hOnce ha _).mp ⟨List.mem_append_right _ hNew, hSame⟩
    cases congrArg BulkItem.status hHeld
  · intro report hOk hNone
    -- nothing was left to do
    have hDone : after = [] := by
      rw [List.eq_nil_iff_forall_not_mem]
      intro id hId
      refine hNone ⟨id, .cancelled⟩ ?_ rfl
      rw [hReport report hOk]
      exact List.mem_append_right _ (List.mem_map.mpr ⟨id, hId, rfl⟩)
    rw [hDone, List.append_nil] at hSplit
    rw [hDone, hSplit]
    exact ⟨rfl, rfl⟩

/-- Anna asks for five sections, one of them twice, one unknown and one held by Bruno. The batch is
cut short by the operator as the second assignment is announced, or by its second insertion. Both
times it is resumed to the end, and the section that was filled keeps its assignment. -/
theorem bulkAssign_resumes_village :
    let batch := bulkAssign 1 [1, 2, 9, 1, 3, 4] .primary
    let cancelled := batch.run (some (.afterWriting 2)) 0 (Ledger.village.failing [])
    let failed := batch.run none 0 (Ledger.village.failing [none, some "disk full"])
    let whole := batch.run none 0 Ledger.village
    (Ledger.village.representative? 1).isSome ∧ (∀ id ∈ [1, 2, 9, 1, 3, 4], (0 : Int) < id) ∧
    cancelled.events = [.assigned ⟨2, 1, 1, .primary⟩, .assigned ⟨3, 3, 1, .primary⟩] ∧
    (batch.run none 0 cancelled.repository.ledger).repository = whole.repository ∧
    failed.result = .error (.repository "disk full") ∧
    failed.events = [.assigned ⟨2, 1, 1, .primary⟩] ∧
    (batch.run none 0 failed.repository.ledger).repository = whole.repository ∧
    whole.repository.assignments = [⟨1, 2, 2, .primary⟩, ⟨2, 1, 1, .primary⟩, ⟨3, 3, 1, .primary⟩,
      ⟨4, 4, 1, .primary⟩] := by
  have hKnown : (Ledger.village.representative? 1).isSome := by decide
  have hPositive : ∀ id ∈ [1, 2, 9, 1, 3, 4], (0 : Int) < id := by decide
  have hCancelled := bulkAssign_resumes (List.cons_ne_nil _ _) hPositive Int.one_pos hKnown .primary
    (some (.afterWriting 2)) []
  have hFailed := bulkAssign_resumes (List.cons_ne_nil _ _) hPositive Int.one_pos hKnown .primary
    none [none, some "disk full"]
  exact ⟨hKnown, hPositive, rfl, hCancelled.1, rfl, rfl, hFailed.1, rfl⟩

end Assigning

end PollRoster
