import PollRoster.Proofs.Database.Reachable
import PollRoster.Proofs.LostOccupant
import PollRoster.Proofs.Progress

/-!
# Assigning and removing at once

Any number of clients assign or remove at one repository, their calls in any order. Were it not for
lost assignments, they might as well have come one after another. A lost assignment is answered by a
failure of the repository, which no program that runs alone is answered; so no order of whole
programs explains it.

Main results:

* `Errand.pending`, `Errand.effect_ne_failure` — each errand takes effect at one of its calls, and
  what it does there is never to fail with a failure of the repository.
* `linearizable_iff_none_lost` — when clients run as if one after another, over a ledger and over a
  database.
* `lost_assign_not_serializable` — three clients that do not.
* `running_isFinished` — all are answered once each client has had six turns.
-/

namespace PollRoster

/-! ## Errands -/

/-- What a client wants done. -/
inductive Errand where
  | assign (sectionId representativeId : Int) (role : Role)
  | remove (assignmentId : Int)
  deriving DecidableEq, Repr

namespace Errand

def program : Errand → Program CommandOutcome
  | .assign sectionId representativeId role =>
    return .assigned (← Assigning.assign sectionId representativeId role)
  | .remove assignmentId => return .removed (← Assigning.remove assignmentId)

/-- Whether the identifiers are positive, and section and representative exist. -/
def IsValid [Repository ρ] (r : ρ) : Errand → Prop
  | .assign sectionId representativeId _ => Assigning.IsValid r sectionId representativeId
  | .remove assignmentId => 0 < assignmentId

/-- Whether a client with this errand is lost: it assigns, is refused because its slot is held, and
finds the slot empty at its next turn. -/
def IsLost [DecidableEq ι] [Repository ρ] (start : Office ι ρ α) (turns : List ι) (i : ι) :
    Errand → Prop
  | .assign sectionId _ role => start.LostOccupant i sectionId role turns
  | .remove _ => False

end Errand

namespace Office

variable {ι ρ α : Type}

/-- Clients with errands at a repository. -/
def running (errand : ι → Errand) (r : ρ) : Office ι ρ CommandOutcome :=
  ⟨r, fun i => (errand i).program⟩

variable [DecidableEq ι] [Repository ρ]

/-- Whether the clients of `order`, coming one after another, are answered as they are after the
turns and leave the same repository. -/
structure RunsAs (start : Office ι ρ α) (turns order : List ι) : Prop where
  answers : ∀ i x, (i, x) ∈ (inTurn start.client order start.repository).1 →
    (start.after turns).answer? i = some x
  repository : (inTurn start.client order start.repository).2 = (start.after turns).repository

/-- Whether all clients might as well have come one after another. -/
def IsSerializable (start : Office ι ρ α) (turns : List ι) : Prop :=
  ∃ order : List ι, order.Nodup ∧ (∀ i, i ∈ order) ∧ start.RunsAs turns order

/-- Clients run as if one after another except those that are lost, and these have changed
nothing. -/
structure LinearizableUnlessLost (errand : ι → Errand) (start : Office ι ρ CommandOutcome)
    (turns : List ι) : Prop where
  /-- The lost are those answered by a failure of the repository. -/
  lost_iff : ∀ i, (errand i).IsLost start turns i ↔
    ∃ reason, (start.after turns).answer? i = some (.error (.repository reason))
  /-- The others run as if one after another, in the order of some of their turns. -/
  others : ∃ order : List ι, order.Nodup ∧ order.Sublist turns ∧
    (∀ i, i ∈ order ↔ ¬(errand i).IsLost start turns i) ∧ start.RunsAs turns order
  /-- All together they do exactly if nobody is lost. -/
  serializable_iff : start.IsSerializable turns ↔ ∀ i, ¬(errand i).IsLost start turns i

end Office

/-! ## Errands at a ledger -/

namespace Errand

/-- Whether an errand is valid at a ledger. -/
def IsAskable (base : Ledger) : Errand → Prop
  | .assign sectionId representativeId _ => Assigning.Askable base sectionId representativeId
  | .remove assignmentId => 0 < assignmentId

/-- The failure of a lost errand. -/
def LostWith : Errand → OperationError → Prop
  | .assign sectionId _ role, e => e = .repository (Assigning.vanishedOccupant sectionId role)
  | .remove _, _ => False

variable {base : Ledger}

/-- What is valid at a repository that keeps a ledger, is valid at the ledger. -/
theorem isAskable_of_isValid [Repository ρ] {store : Ledger → ρ} (hStores : Stores store base)
    {e : Errand} (h : e.IsValid (store base)) : e.IsAskable base := by
  cases e with
  | remove id => exact h
  | assign sectionId representativeId role => exact Assigning.IsValid.askable hStores h

theorem careful (e : Errand) : e.program.IsCareful base fun _ => True := by
  cases e with
  | assign sectionId representativeId role =>
    exact (Assigning.assign_careful sectionId representativeId role).bind fun _ _ => trivial
  | remove id => exact (Assigning.remove_careful id).bind fun _ _ => trivial

/-- **Where an errand takes effect.** -/
theorem pending {e : Errand} (h : e.IsAskable base) :
    e.program.Pending base.IsLike e.program.effect e.LostWith := by
  cases e with
  -- the answer is only wrapped, which neither moves the effect nor changes it
  | assign sectionId representativeId role =>
    have hEffect := funext
      (Program.effect_map (ρ := Ledger) (Assigning.assign sectionId representativeId role)
        CommandOutcome.assigned)
    change (Errand.assign sectionId representativeId role).program.Pending _
      (Program.effect (_ >>= fun a => pure (CommandOutcome.assigned a))) _
    rw [hEffect]
    exact (Assigning.assign_pending h role).map _
  | remove id =>
    have hEffect := funext
      (Program.effect_map (ρ := Ledger) (Assigning.remove id) CommandOutcome.removed)
    change (Errand.remove id).program.Pending _
      (Program.effect (_ >>= fun a => pure (CommandOutcome.removed a))) _
    rw [hEffect]
    exact (Assigning.remove_pending h).map _

/-- An errand that runs alone does not fail with a failure of the repository. -/
theorem effect_ne_failure {e : Errand} (h : e.IsAskable base) {l : Ledger}
    (hLike : base.IsLike l) (reason : String) :
    (e.program.effect l).1 ≠ .error (.repository reason) := by
  intro hFailure
  cases e with
  | assign sectionId representativeId role =>
    change (Program.effect (_ >>= fun a => pure (CommandOutcome.assigned a)) l).1 = _ at hFailure
    rw [Program.effect_map] at hFailure
    have hl := Assigning.Askable.of_isLike h hLike
    cases hSlot : l.findSlot sectionId role with
    | none =>
      rw [hl.effect_of_free hSlot] at hFailure
      cases hFailure
    | some a =>
      rw [hl.effect_of_held hSlot, Assigning.heldOrOccupied] at hFailure
      split at hFailure <;> cases hFailure
  | remove id =>
    change (Program.effect (_ >>= fun a => pure (CommandOutcome.removed a)) l).1 = _ at hFailure
    rw [Program.effect_map, Program.effect, Assigning.run_remove rfl h] at hFailure
    rcases l.delete_cases id with ⟨-, hDelete⟩ | ⟨a, -, hDelete⟩
    · rw [hDelete] at hFailure
      cases hFailure
    · rw [hDelete] at hFailure
      cases hFailure

end Errand

namespace Office

section Running

variable {ι : Type} [DecidableEq ι] {errand : ι → Errand} {base : Ledger}
  (hAskable : ∀ i, (errand i).IsAskable base)
include hAskable

omit [DecidableEq ι] in
/-- Nobody is answered in turn by a failure of the repository. -/
theorem ne_failure_of_mem_inTurn {order : List ι} {i : ι} {x : Except OperationError CommandOutcome}
    (hx : (i, x) ∈ (inTurn (running errand base).client order base).1) (reason : String) :
    x ≠ .error (.repository reason) := by
  obtain ⟨l, hLike, rfl⟩ := exists_effect_of_mem_inTurn (P := base.IsLike)
    (fun c _ h => Ledger.IsLike.answer h c) (.refl base) hx
  exact Errand.effect_ne_failure (hAskable i) hLike reason

/-- A client is lost exactly when it has failed as lost. -/
theorem isLost_iff_failed (turns : List ι) (i : ι) :
    (errand i).IsLost (running errand base) turns i ↔
      ∃ e, (errand i).LostWith e ∧ ((running errand base).after turns).client i = .fail e := by
  have hValid := hAskable i
  cases hErrand : errand i with
  | remove id => exact ⟨fun h => h.elim, fun ⟨_, h, _⟩ => h.elim⟩
  | assign sectionId representativeId role =>
    rw [hErrand] at hValid
    have hStart : (running errand base).client i = (Assigning.assign sectionId representativeId
        role >>= fun a => pure (.assigned a)) := by
      change (errand i).program = _
      rw [hErrand]
      rfl
    have hUnrefused := (Assigning.assign_unrefused hValid role).map CommandOutcome.assigned
    rw [← hStart] at hUnrefused
    have hLost := lost_iff (running errand base) (.refl base) hUnrefused
      ((Assigning.reportHolder_looksAgain role).map _) turns
    refine hLost.symm.trans ⟨fun h => ⟨_, rfl, h⟩, ?_⟩
    rintro ⟨e, rfl, h⟩
    exact h

theorem exists_order_of_running (turns : List ι) :
    ∃ order, Ordered base.IsLike (fun i => (errand i).LostWith) (running errand base) turns
      order :=
  exists_order (K := base.IsLike) (running errand base) (fun c _ h => Ledger.IsLike.answer h c)
    (.refl base) (fun i => Errand.pending (hAskable i)) turns

/-- Once all have finished, the clients that have taken effect are those that are not lost. -/
theorem mem_order_iff {turns order : List ι}
    (hOrder : Ordered base.IsLike (fun i => (errand i).LostWith) (running errand base) turns order)
    (hFinished : ((running errand base).after turns).IsFinished) (i : ι) :
    i ∈ order ↔ ¬(errand i).IsLost (running errand base) turns i := by
  rw [isLost_iff_failed hAskable]
  constructor
  · rintro hIn ⟨e, hWith, hFail⟩
    obtain ⟨x, hx⟩ := exists_mem_inTurn (running errand base).client hIn base
    have hAnswer := hOrder.answer?_eq hFinished hx
    rw [answer?, hFail] at hAnswer
    -- who has taken effect did not fail with a failure of the repository
    cases hErrand : errand i with
    | remove id =>
      rw [hErrand] at hWith
      exact hWith
    | assign sectionId representativeId role =>
      rw [hErrand] at hWith
      have hNot := ne_failure_of_mem_inTurn hAskable hx
        (Assigning.vanishedOccupant sectionId role)
      exact hNot (by rw [← Option.some.inj hAnswer, show e = _ from hWith])
  · intro hNot
    by_contra hOut
    exact hNot (hOrder.lost_of_not_mem hFinished hOut)

/-- The lost clients are those answered by a failure of the repository. -/
theorem isLost_iff_failure {turns : List ι}
    (hFinished : ((running errand base).after turns).IsFinished) (i : ι) :
    (errand i).IsLost (running errand base) turns i ↔
      ∃ reason, ((running errand base).after turns).answer? i =
        some (.error (.repository reason)) := by
  constructor
  · intro hLost
    obtain ⟨e, hWith, hFail⟩ := (isLost_iff_failed hAskable turns i).mp hLost
    cases hErrand : errand i with
    | remove id =>
      rw [hErrand] at hWith
      exact hWith.elim
    | assign sectionId representativeId role =>
      rw [hErrand] at hWith
      rw [answer?, hFail, show e = _ from hWith]
      exact ⟨_, rfl⟩
  · rintro ⟨reason, hFailed⟩
    obtain ⟨order, hOrder⟩ := exists_order_of_running hAskable turns
    by_contra hNot
    obtain ⟨x, hx⟩ := exists_mem_inTurn (running errand base).client
      ((mem_order_iff hAskable hOrder hFinished i).mpr hNot) base
    have hAnswer := hOrder.answer?_eq hFinished hx
    rw [hFailed] at hAnswer
    exact ne_failure_of_mem_inTurn hAskable hx reason (Option.some.inj hAnswer).symm

end Running

/-! ## The result -/

/-- Six turns are enough for an errand, whoever else takes turns in between. -/
theorem running_isFinished {ι ρ : Type} [DecidableEq ι] [Repository ρ] (errand : ι → Errand) (r : ρ)
    {turns : List ι} (hTurns : ∀ i, 6 ≤ turns.count i) :
    ((running errand r).after turns).IsFinished := by
  refine isFinished_of_count (fun i => ?_) hTurns
  change (errand i).program.EndsWithin 6
  cases errand i with
  | assign sectionId representativeId role =>
    exact (Assigning.assign_endsWithin sectionId representativeId role).bind (m := 0)
      fun _ => trivial
  | remove id =>
    have hRemove := (Assigning.remove_endsWithin id).mono (m := 6) (by decide)
    exact hRemove.bind (m := 0) fun _ => trivial

section Result

variable {ι : Type} [DecidableEq ι] {errand : ι → Errand}

/-- No order of whole programs explains a failure of the repository. -/
theorem LinearizableUnlessLost.of_others {ρ : Type} [Repository ρ]
    {start : Office ι ρ CommandOutcome} {turns : List ι}
    (hLost : ∀ i, (errand i).IsLost start turns i ↔
      ∃ reason, (start.after turns).answer? i = some (.error (.repository reason)))
    (hOthers : ∃ order : List ι, order.Nodup ∧ order.Sublist turns ∧
      (∀ i, i ∈ order ↔ ¬(errand i).IsLost start turns i) ∧ start.RunsAs turns order)
    (hNever : ∀ order i x, (i, x) ∈ (inTurn start.client order start.repository).1 →
      ∀ reason, x ≠ .error (.repository reason)) :
    LinearizableUnlessLost errand start turns where
  lost_iff := hLost
  others := hOthers
  serializable_iff := by
    constructor
    · rintro ⟨order, -, hAll, hRuns⟩ i hi
      obtain ⟨reason, hFailed⟩ := (hLost i).mp hi
      obtain ⟨x, hx⟩ := exists_mem_inTurn start.client (hAll i) start.repository
      have hAnswer := hRuns.answers i x hx
      rw [hFailed] at hAnswer
      exact hNever order i x hx reason (Option.some.inj hAnswer).symm
    · intro hNone
      obtain ⟨order, hNodup, -, hMem, hRuns⟩ := hOthers
      exact ⟨order, hNodup, fun i => (hMem i).mpr (hNone i), hRuns⟩

/-- Clients with errands at a repository that keeps a ledger. -/
theorem running_linearizable {ρ : Type} [Repository ρ] {store : Ledger → ρ} {base : Ledger}
    (hStores : Stores store base) (hValid : ∀ i, (errand i).IsValid (store base))
    {turns : List ι} (hFinished : ((running errand (store base)).after turns).IsFinished) :
    LinearizableUnlessLost errand (running errand (store base)) turns := by
  have hAskable := fun i => Errand.isAskable_of_isValid hStores (hValid i)
  have hAfter : (running errand (store base)).after turns =
      ((running errand base).after turns).stored store :=
    after_store (o := running errand base) hStores (.refl base) (fun i => (errand i).careful) turns
  have hTurns : ∀ order, inTurn (running errand (store base)).client order
      (running errand (store base)).repository =
      ((inTurn (running errand base).client order base).1,
        store (inTurn (running errand base).client order base).2) := fun order =>
    inTurn_store hStores (fun i => (errand i).careful) order (.refl base)
  have hSame : ∀ i, (errand i).IsLost (running errand (store base)) turns i ↔
      (errand i).IsLost (running errand base) turns i := by
    intro i
    cases errand i with
    | remove id => exact Iff.rfl
    | assign sectionId representativeId role =>
      exact lostOccupant_stored (o := running errand base) hStores (.refl base)
        fun j => (errand j).careful
  rw [hAfter] at hFinished
  obtain ⟨order, hOrder⟩ := exists_order_of_running hAskable turns
  refine .of_others (fun i => ?_) ⟨order, hOrder.nodup, hOrder.sublist, fun i => ?_, ?_, ?_⟩ ?_
  · rw [hSame, hAfter]
    exact isLost_iff_failure hAskable hFinished i
  · rw [hSame]
    exact mem_order_iff hAskable hOrder hFinished i
  · intro i x hx
    rw [hAfter]
    have hTurn := hTurns order
    exact hOrder.answer?_eq hFinished (by rwa [hTurn] at hx)
  · rw [hAfter, hTurns order]
    exact congrArg store hOrder.repository
  · intro order i x hx reason
    rw [hTurns order] at hx
    exact ne_failure_of_mem_inTurn hAskable hx reason

/-- Clients with errands at a database. -/
theorem running_linearizable_database {db : Database} (hdb : db.Reachable)
    (hValid : ∀ i, (errand i).IsValid db) {turns : List ι}
    (hFinished : ((running errand db).after turns).IsFinished) :
    LinearizableUnlessLost errand (running errand db) turns := by
  obtain ⟨base, hBase⟩ := hdb.healthy
  have hStores := Database.stores_withLedger hBase.keeps
  rw [← hBase.keeps.withLedger_self] at hValid hFinished ⊢
  exact running_linearizable hStores hValid hFinished

/-- **Linearizable unless lost.** Any number of clients assign or remove, in any order of turns.
When all have finished, the lost are those answered by a failure of the repository, the others are
answered as if they had come one after another, and all of them are exactly if nobody is lost. -/
theorem linearizable_iff_none_lost (errand : ι → Errand) (turns : List ι) :
    (∀ l : Ledger, (∀ i, (errand i).IsValid l) → ((running errand l).after turns).IsFinished →
      LinearizableUnlessLost errand (running errand l) turns) ∧
    ∀ db : Database, db.Reachable → (∀ i, (errand i).IsValid db) →
      ((running errand db).after turns).IsFinished →
      LinearizableUnlessLost errand (running errand db) turns := by
  refine ⟨fun l hValid hFinished => ?_, fun db hdb hValid hFinished => ?_⟩
  · exact running_linearizable (stores_self l) hValid hFinished
  · exact running_linearizable_database hdb hValid hFinished

end Result

/-! ## A lost assignment -/

/-- Two representatives for the only slot of the hamlet, and one who empties it. -/
def crossing : Fin 3 → Errand
  | 0 => .assign 1 1 .primary
  | 1 => .assign 1 2 .primary
  | 2 => .remove 1

/-- The first finds the slot empty, the second takes it, the first is refused, the third empties it,
and the first looks again. -/
def crossed : List (Fin 3) := [0, 0, 0, 0, 1, 1, 1, 1, 1, 1, 0, 2, 2, 2, 0]

theorem crossing_valid :
    (∀ i, (crossing i).IsValid Ledger.hamlet) ∧ ∀ i, (crossing i).IsValid Database.hamlet := by
  constructor
  all_goals
    intro i
    match i with
    | 0 => exact ⟨by decide, by decide, rfl, _, rfl⟩
    | 1 => exact ⟨by decide, by decide, rfl, _, rfl⟩
    | 2 => exact show (0 : Int) < 1 by decide

theorem crossing_finished :
    ((running crossing Ledger.hamlet).after crossed).IsFinished ∧
      ((running crossing Database.hamlet).after crossed).IsFinished := by
  constructor
  all_goals
    intro i
    match i with
    | 0 => rfl
    | 1 => rfl
    | 2 => rfl

theorem crossing_linearizable_unless_lost :
    LinearizableUnlessLost crossing (running crossing Ledger.hamlet) crossed ∧
      LinearizableUnlessLost crossing (running crossing Database.hamlet) crossed := by
  obtain ⟨hOverLedger, hOverDatabase⟩ := linearizable_iff_none_lost crossing crossed
  exact ⟨hOverLedger _ crossing_valid.1 crossing_finished.1,
    hOverDatabase _ Database.reachable_hamlet crossing_valid.2 crossing_finished.2⟩

/-- All errands are valid and all clients finish, but the first is answered by a failure of the
repository, and no order of whole programs explains the answers. -/
theorem lost_assign_not_serializable :
    ((∀ i, (crossing i).IsValid Ledger.hamlet) ∧
      ((running crossing Ledger.hamlet).after crossed).IsFinished ∧
      ((running crossing Ledger.hamlet).after crossed).answer? 0 =
        some (.error (.repository (Assigning.vanishedOccupant 1 .primary))) ∧
      ¬(running crossing Ledger.hamlet).IsSerializable crossed) ∧
    ((∀ i, (crossing i).IsValid Database.hamlet) ∧
      ((running crossing Database.hamlet).after crossed).IsFinished ∧
      ((running crossing Database.hamlet).after crossed).answer? 0 =
        some (.error (.repository (Assigning.vanishedOccupant 1 .primary))) ∧
      ¬(running crossing Database.hamlet).IsSerializable crossed) := by
  obtain ⟨hLedger, hDatabase⟩ := crossing_valid
  obtain ⟨hLedgerFinished, hDatabaseFinished⟩ := crossing_finished
  refine ⟨⟨hLedger, hLedgerFinished, rfl, fun hSerial => ?_⟩,
    hDatabase, hDatabaseFinished, rfl, fun hSerial => ?_⟩
  · have hRun := running_linearizable (stores_self _) hLedger hLedgerFinished
    exact hRun.serializable_iff.mp hSerial 0 ((hRun.lost_iff 0).mpr ⟨_, rfl⟩)
  · have hRun := running_linearizable_database Database.reachable_hamlet hDatabase hDatabaseFinished
    exact hRun.serializable_iff.mp hSerial 0 ((hRun.lost_iff 0).mpr ⟨_, rfl⟩)

end Office

end PollRoster
