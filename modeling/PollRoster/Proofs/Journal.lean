import PollRoster.Proofs.Ledger
import PollRoster.Proofs.Program
import PollRoster.Assigning
import PollRoster.Repository.Unreliable

/-!
# The journal of a repository

A journal writes down every call of a repository with its answer and with the repository that it
left. So one can speak of every state that was passed through, also in the middle of a program, and
of every identifier that was handed out.

The operations are those of the store and the two direct calls of a repository that write. They are
carried out over a ledger behind an unreliable connection: any look-up of a slot may miss its
occupant and any insertion may fail without writing. The slots stay exclusive all the same, since
it is the insertion and not the look-up before it that decides.

Main result:

* `slots_exclusive_and_ids_fresh` — over every sequence of operations.
-/

namespace PollRoster

/-! ## Journals -/

/-- A call that was answered, with the repository that it left. -/
structure JournalEntry (ρ : Type) where
  call : RepositoryCall
  answer : Except OperationError call.Answer
  left : ρ

/-- A repository with the calls made so far, the first one first. -/
structure Journal (ρ : Type) where
  repository : ρ
  entries : List (JournalEntry ρ)

/-- The identifier that an answer hands out: that of the assignment which an insertion made. -/
def RepositoryCall.handedOut? : (c : RepositoryCall) → Except OperationError c.Answer → Option Int
  | .insert _ _ _, .ok a => some (Assignment.id a)
  | _, _ => none

namespace Journal

/-- A journal with nothing in it. -/
def opened (r : ρ) : Journal ρ := ⟨r, []⟩

/-- Answers a call from the repository and writes it down. -/
def answer [Repository ρ] (c : RepositoryCall) (j : Journal ρ) :
    Except OperationError c.Answer × Journal ρ :=
  let (answer, r) := Repository.answer c j.repository
  (answer, ⟨r, j.entries ++ [⟨c, answer, r⟩]⟩)

instance [Repository ρ] : Repository (Journal ρ) := ⟨answer⟩

/-- The repositories that the calls left, in order. -/
def passed (j : Journal ρ) : List ρ := j.entries.map (·.left)

/-- The identifiers handed out, in order. -/
def handedOut (j : Journal ρ) : List Int := j.entries.filterMap fun e => e.call.handedOut? e.answer

theorem passed_answer [Repository ρ] (c : RepositoryCall) (j : Journal ρ) :
    (j.answer c).2.passed = j.passed ++ [(Repository.answer c j.repository).2] := by
  simp [answer, passed]

theorem handedOut_answer [Repository ρ] (c : RepositoryCall) (j : Journal ρ) :
    (j.answer c).2.handedOut =
      j.handedOut ++ (c.handedOut? (Repository.answer c j.repository).1).toList := by
  rw [handedOut, handedOut, answer, List.filterMap_append]
  cases h : c.handedOut? (Repository.answer c j.repository).1 <;> simp [h]

end Journal

/-! ## Operations -/

/-- What is asked of the store, or of its repository past the store. -/
inductive Operation where
  | assign (sectionId representativeId : Int) (role : Role)
  | remove (assignmentId : Int)
  | bulkAssign (representativeId : Int) (sectionIds : List Int) (role : Role)
  | execute (command : Command)
  | insert (sectionId representativeId : Int) (role : Role)
  | delete (assignmentId : Int)

namespace Operation

/-- What an operation leaves behind. Each has its own moment of cancellation. -/
def perform [Repository ρ] (r : ρ) : Operation × Cancellation → ρ
  | (.assign sectionId representativeId role, stop) =>
    ((Assigning.assign sectionId representativeId role).run stop 0 r).repository
  | (.remove assignmentId, stop) => ((Assigning.remove assignmentId).run stop 0 r).repository
  | (.bulkAssign representativeId sectionIds role, stop) =>
    ((Assigning.bulkAssign representativeId sectionIds role).run stop 0 r).repository
  | (.execute command, stop) => (command.execute.run stop 0 r).repository
  | (.insert sectionId representativeId role, _) =>
    (Repository.answer (.insert sectionId representativeId role) r).2
  | (.delete assignmentId, _) => (Repository.answer (.delete assignmentId) r).2

/-- What a sequence of operations leaves behind. -/
def performAll [Repository ρ] (r : ρ) (operations : List (Operation × Cancellation)) : ρ :=
  operations.foldl perform r

/-- What every call keeps, every sequence of operations keeps. -/
theorem performAll_keeps [Repository ρ] {P : ρ → Prop}
    (hCall : ∀ c r, P r → P (Repository.answer c r).2) {r : ρ} (h : P r)
    (operations : List (Operation × Cancellation)) : P (performAll r operations) := by
  induction operations generalizing r with
  | nil => exact h
  | cons o rest ih =>
    refine ih ?_
    obtain ⟨operation, stop⟩ := o
    cases operation with
    | assign => exact Program.run_keeps hCall _ h
    | remove => exact Program.run_keeps hCall _ h
    | bulkAssign => exact Program.run_keeps hCall _ h
    | execute => exact Program.run_keeps hCall _ h
    | insert => exact hCall _ r h
    | delete => exact hCall _ r h

end Operation

/-! ## Identifiers of a ledger -/

/-- The next identifier never falls, and an insertion that hands one out moves past it. -/
theorem Ledger.nextId_answer (c : RepositoryCall) (l : Ledger) :
    l.nextId ≤ (l.answer c).2.nextId ∧
      ∀ id, c.handedOut? (l.answer c).1 = some id →
        id = l.nextId ∧ l.nextId < (l.answer c).2.nextId := by
  cases c with
  | insert sectionId representativeId role =>
    rcases l.insert_cases sectionId representativeId role with ⟨-, h⟩ | ⟨a, -, h⟩
    · rw [Ledger.answer, h]
      refine ⟨Int.le_of_lt (Int.lt_succ l.nextId), fun id hId => ?_⟩
      exact ⟨(Option.some.inj hId).symm, Int.lt_succ l.nextId⟩
    · rw [Ledger.answer, h]
      refine ⟨Int.le_refl _, fun id hId => ?_⟩
      cases hId
  | delete id =>
    rcases l.delete_cases id with ⟨-, h⟩ | ⟨a, -, h⟩
    all_goals
      rw [Ledger.answer, h]
      refine ⟨Int.le_refl _, fun id hId => ?_⟩
      cases hId
  | _ =>
    refine ⟨Int.le_refl _, fun id hId => ?_⟩
    cases hId

/-- A call behind the unreliable connection either meets a fault, and then the ledger stays and
nothing is handed out, or is answered by the ledger. -/
theorem UnreliableLedger.answer_cases (c : RepositoryCall) (u : UnreliableLedger) :
    ((u.answer c).2.ledger = u.ledger ∧ c.handedOut? (u.answer c).1 = none) ∨
    ((u.answer c).1 = (u.ledger.answer c).1 ∧ (u.answer c).2.ledger = (u.ledger.answer c).2) := by
  cases c with
  | findSlot sectionId role =>
    rw [answer]
    split
    · exact .inl ⟨rfl, rfl⟩
    · exact .inr ⟨rfl, rfl⟩
    · exact .inr ⟨rfl, rfl⟩
  | insert sectionId representativeId role =>
    rw [answer]
    split
    · exact .inl ⟨rfl, rfl⟩
    · exact .inr ⟨rfl, rfl⟩
    · exact .inr ⟨rfl, rfl⟩
  | _ => exact .inr ⟨rfl, rfl⟩

/-! ## The invariant of the journal -/

namespace Journal

/-- Every ledger passed through is in order, and the identifiers handed out ascend below the next
one. -/
structure Orderly (j : Journal UnreliableLedger) : Prop where
  present : j.repository.ledger.Orderly
  passed : ∀ u ∈ j.passed, u.ledger.Orderly
  increasing : j.handedOut.Pairwise (· < ·)
  below : ∀ id ∈ j.handedOut, id < j.repository.ledger.nextId

theorem orderly_opened {u : UnreliableLedger} (h : u.ledger.Orderly) : (opened u).Orderly :=
  ⟨h, fun _ hu => (List.not_mem_nil hu).elim, .nil, fun _ hId => (List.not_mem_nil hId).elim⟩

/-- Every call keeps the journal in order, with a fault or without. -/
theorem Orderly.answer {j : Journal UnreliableLedger} (h : j.Orderly) (c : RepositoryCall) :
    (j.answer c).2.Orderly := by
  set u := (j.repository.answer c).2 with hu
  have hLedger : u.ledger.Orderly ∧ j.repository.ledger.nextId ≤ u.ledger.nextId ∧
      ∀ id, c.handedOut? (j.repository.answer c).1 = some id →
        id = j.repository.ledger.nextId ∧ j.repository.ledger.nextId < u.ledger.nextId := by
    -- a fault leaves the ledger, whatever was answered; all else the ledger answers
    rcases j.repository.answer_cases c with ⟨hKept, hNone⟩ | ⟨hSame, hLeft⟩
    · rw [hKept, hNone]
      exact ⟨h.present, Int.le_refl _, fun id hId => nomatch hId⟩
    · rw [hSame, hLeft]
      exact ⟨h.present.answer c, Ledger.nextId_answer c _⟩
  obtain ⟨hOrderly, hLe, hHanded⟩ := hLedger
  have hOut : (j.answer c).2.handedOut =
      j.handedOut ++ (c.handedOut? (j.repository.answer c).1).toList := handedOut_answer c j
  refine ⟨hOrderly, ?_, ?_, ?_⟩
  · rw [passed_answer]
    intro v hv
    rcases List.mem_append.mp hv with hv | hv
    · exact h.passed v hv
    · rw [List.mem_singleton.mp hv]
      exact hOrderly
  · rw [hOut, List.pairwise_append]
    refine ⟨h.increasing, ?_, ?_⟩
    · cases c.handedOut? (j.repository.answer c).1 <;> simp
    -- what is new is the next identifier, below which all the others are
    · intro id hId new hNew
      rw [(hHanded new (Option.mem_toList.mp hNew)).1]
      exact h.below id hId
  · rw [hOut]
    intro id hId
    change id < u.ledger.nextId
    rcases List.mem_append.mp hId with hId | hId
    · exact Int.lt_of_lt_of_le (h.below id hId) hLe
    · obtain ⟨rfl, hLt⟩ := hHanded id (Option.mem_toList.mp hId)
      exact hLt

/-! ## The result -/

/-- **Exclusive slots and fresh identifiers.** Over every sequence of operations on an empty ledger,
with any cancellations, missed look-ups and failed insertions: in every state passed through no two
assignments take the same slot and each is found under its own identifier, and each identifier
handed out is greater than all those before it. -/
theorem slots_exclusive_and_ids_fresh (territory : Territory)
    (representatives : List Representative) (misses : List Bool) (failures : List (Option String))
    (operations : List (Operation × Cancellation)) :
    let j := Operation.performAll
      (opened (UnreliableLedger.mk (.start territory representatives) misses failures)) operations
    (∀ u ∈ j.repository :: j.passed, (u.ledger.assignments.map Assignment.slot).Nodup ∧
      ∀ a ∈ u.ledger.assignments, u.ledger.assignment? a.id = some a) ∧
    j.handedOut.Pairwise (· < ·) := by
  intro j
  have hStart : (opened (UnreliableLedger.mk (.start territory representatives) misses
      failures)).Orderly := orderly_opened (Ledger.orderly_start territory representatives)
  have hJournal : j.Orderly :=
    Operation.performAll_keeps (fun c _ h => h.answer c) hStart operations
  refine ⟨fun u hu => ?_, hJournal.increasing⟩
  have hLedger : u.ledger.Orderly := by
    rcases List.mem_cons.mp hu with rfl | hu
    · exact hJournal.present
    · exact hJournal.passed u hu
  exact ⟨hLedger.slots, fun a ha => (Ledger.assignment?_eq_some_iff hLedger).mpr ⟨ha, rfl⟩⟩

end Journal

end PollRoster
