import PollRoster.Proofs.Database.Integrity
import PollRoster.Proofs.Database.Restoring

/-!
# Runs of database calls

A database is used below its repository too: assignments are inserted and deleted, and every table
is read, with whatever identifiers somebody may have made up. One call keeps what the tables rely
on, and so does a run of calls: rows name stored rows, a slot is filled by one row, every row
decodes, and each identifier handed out is greater than those before it.

Main results:

* `Readable.refuses_iff` — which calls are refused, and with which error.
* `calls_keep_integrity` — what holds after every run, and what the next call does then.
-/

namespace PollRoster

/-- A call of the database itself. -/
inductive StorageCall where
  | insert (sectionId representativeId : Int) (role : Role)
  | delete (id : Int)
  | isSeeded
  | territoryData
  | sectionExists (id : Int)
  | representatives
  | representative (id : Int)
  | assignments
  | assignmentsOf (representativeId : Int)
  | assignment (id : Int)
  | findSlot (sectionId : Int) (role : Role)
  deriving DecidableEq, Repr

namespace StorageCall

/-- What a call answers if it does not fail. -/
abbrev Answer : StorageCall → Type
  | .insert _ _ _ => Assignment
  | .delete _ => Assignment
  | .isSeeded => Bool
  | .territoryData => TerritoryData
  | .sectionExists _ => Bool
  | .representatives => List Representative
  | .representative _ => Option Representative
  | .assignments => List Assignment
  | .assignmentsOf _ => List Assignment
  | .assignment _ => Option Assignment
  | .findSlot _ _ => Option Assignment

/-- Answers a call; a read leaves the database as it is. -/
def run : (c : StorageCall) → Database.Step c.Answer
  | .insert sectionId representativeId role => Database.insert sectionId representativeId role
  | .delete id => Database.delete id
  | .isSeeded => fun db => (.ok db.isSeeded, db)
  | .territoryData => fun db => (db.territoryData, db)
  | .sectionExists id => fun db => (.ok (db.sectionExists id), db)
  | .representatives => fun db => (db.representatives, db)
  | .representative id => fun db => (db.representative? id, db)
  | .assignments => fun db => (db.assignments, db)
  | .assignmentsOf representativeId => fun db => (db.assignmentsOf representativeId, db)
  | .assignment id => fun db => (db.assignment? id, db)
  | .findSlot sectionId role => fun db => (db.findSlot sectionId role, db)

/-- The identifier that an answer hands out: that of the assignment which an insertion made. -/
def handedOut? : (c : StorageCall) → Except StorageError c.Answer → Option Int
  | .insert _ _ _, .ok a => some (Assignment.id a)
  | _, _ => none

end StorageCall

namespace Database

/-! ## What calls meet -/

/-- Whether a row takes the slot. -/
def SlotTaken (db : Database) (sectionId : Int) (role : Role) : Prop :=
  ∃ row ∈ db.assignmentRows, row.takes sectionId role

/-- Whether a section and a representative are stored. -/
def Knows (db : Database) (sectionId representativeId : Int) : Prop :=
  (∃ s ∈ db.sectionRows, s.id = sectionId) ∧
    ∃ r ∈ db.representativeRows, r.id = representativeId

end Database

/-- Whether a call is refused with an error: an insertion when the slot is taken, or else when its
section or its representative is not stored; a deletion when there is no such assignment. -/
def StorageCall.IsRefused (db : Database) : StorageCall → StorageError → Prop
  | .insert sectionId representativeId role, e =>
    (db.SlotTaken sectionId role ∧ e = .slotOccupied sectionId role) ∨
      (¬db.SlotTaken sectionId role ∧ ¬db.Knows sectionId representativeId ∧
        e = Database.missingParent)
  | .delete id, e => (¬∃ row ∈ db.assignmentRows, row.id = id) ∧ e = .notFound "Assignment" id
  | _, _ => False

namespace Database

/-- What a run of calls leaves behind, refused ones included. -/
def after (db : Database) (calls : List StorageCall) : Database :=
  calls.foldl (fun db c => (c.run db).2) db

/-- The identifiers that a run of calls hands out, in order. -/
def handedOut (db : Database) : List StorageCall → List Int
  | [] => []
  | c :: rest => (c.handedOut? (c.run db).1).toList ++ (c.run db).2.handedOut rest

/-! ## One call -/

/-- An insertion is refused and changes nothing, or it adds the next row. -/
theorem insert_cases (sectionId representativeId : Int) (role : Role) (db : Database) :
    (db.SlotTaken sectionId role ∧
      insert sectionId representativeId role db = (.error (.slotOccupied sectionId role), db)) ∨
    (¬db.SlotTaken sectionId role ∧ ¬db.Knows sectionId representativeId ∧
      insert sectionId representativeId role db = (.error missingParent, db)) ∨
    (¬db.SlotTaken sectionId role ∧ db.Knows sectionId representativeId ∧
      insert sectionId representativeId role db =
        (.ok ⟨db.nextId, sectionId, representativeId, role⟩,
          { db with
            assignmentRows :=
              db.assignmentRows ++ [⟨db.nextId, sectionId, representativeId, role.code⟩]
            nextId := db.nextId + 1 })) := by
  have hTaken : db.assignmentRows.any (·.takes sectionId role) = true ↔
      db.SlotTaken sectionId role := List.any_eq_true
  have hKnown : (db.sectionExists sectionId &&
      db.representativeRows.any (·.id = representativeId)) = true ↔
        db.Knows sectionId representativeId := by
    simp [sectionExists, Knows]
  -- what is looked at first decides first: the slot, then the parents
  rw [← hTaken, ← hKnown, insert]
  by_cases h : db.assignmentRows.any (·.takes sectionId role) = true
  · exact .inl ⟨h, if_pos h⟩
  · rw [if_neg h]
    by_cases h' : (db.sectionExists sectionId &&
        db.representativeRows.any (·.id = representativeId)) = true
    · exact .inr (.inr ⟨h, h', if_pos h'⟩)
    · exact .inr (.inl ⟨h, h', if_neg h'⟩)

/-- Where rows decode, a deletion finds nothing and changes nothing, or takes what it found away. -/
theorem Readable.delete_cases {db : Database} (h : db.Readable) (id : Int) :
    ((¬∃ row ∈ db.assignmentRows, row.id = id) ∧
      delete id db = (.error (.notFound "Assignment" id), db)) ∨
    ((∃ row ∈ db.assignmentRows, row.id = id) ∧ ∃ a, delete id db =
      (.ok a, { db with assignmentRows := db.assignmentRows.filter (·.id ≠ id) })) := by
  obtain ⟨found, hFound⟩ := h.assignment? id
  cases hRow : db.assignmentRows.find? (·.id = id) with
  | none =>
    have hNone : db.assignment? id = .ok none := by
      rw [Database.assignment?, hRow]
      rfl
    refine .inl ⟨?_, by rw [delete, hNone]⟩
    rintro ⟨row, hMem, hId⟩
    exact List.find?_eq_none.mp hRow row hMem (decide_eq_true hId)
  | some row =>
    have hMem : row ∈ db.assignmentRows := List.mem_of_find?_eq_some hRow
    have hId : row.id = id := by simpa using List.find?_some hRow
    -- the row that is found decodes, so there is an assignment to answer
    have hDecoded : db.assignment? id = row.toAssignment.map some := by
      rw [Database.assignment?, hRow]
      rfl
    obtain ⟨a, -, rfl⟩ := map_eq_ok.mp (hDecoded.symm.trans hFound)
    exact .inr ⟨⟨row, hMem, hId⟩, a, by rw [delete, hFound]⟩

/-- A read that answers is not refused. -/
theorem read_refuses_iff {x : Except StorageError α} (h : ∃ a, x = .ok a) (db : Database)
    (e : StorageError) : (x = .error e ↔ False) ∧ (x = .error e → db = db) := by
  obtain ⟨a, rfl⟩ := h
  refine ⟨⟨fun hError => ?_, False.elim⟩, fun _ => rfl⟩
  cases hError

/-- **Refused calls.** Where rows decode, reads never fail, and a call that is refused changes
nothing. -/
theorem Readable.refuses_iff {db : Database} (h : db.Readable) (c : StorageCall)
    (e : StorageError) :
    ((c.run db).1 = .error e ↔ c.IsRefused db e) ∧
      ((c.run db).1 = .error e → (c.run db).2 = db) := by
  cases c with
  | insert sectionId representativeId role =>
    rw [StorageCall.run, StorageCall.IsRefused]
    rcases insert_cases sectionId representativeId role db with
      ⟨hTaken, hRun⟩ | ⟨hFree, hUnknown, hRun⟩ | ⟨hFree, hKnown, hRun⟩
    · rw [hRun]
      refine ⟨⟨fun hError => .inl ⟨hTaken, (Except.error.inj hError).symm⟩, ?_⟩, fun _ => rfl⟩
      rintro (⟨-, rfl⟩ | ⟨hFree, -⟩)
      · rfl
      · exact absurd hTaken hFree
    · rw [hRun]
      refine ⟨⟨fun hError => .inr ⟨hFree, hUnknown, (Except.error.inj hError).symm⟩, ?_⟩,
        fun _ => rfl⟩
      rintro (⟨hTaken, -⟩ | ⟨-, -, rfl⟩)
      · exact absurd hTaken hFree
      · rfl
    · rw [hRun]
      refine ⟨⟨fun hError => ?_, ?_⟩, fun hError => ?_⟩
      · cases hError
      · rintro (⟨hTaken, -⟩ | ⟨-, hUnknown, -⟩)
        · exact absurd hTaken hFree
        · exact absurd hKnown hUnknown
      · cases hError
  | delete id =>
    rw [StorageCall.run, StorageCall.IsRefused]
    rcases h.delete_cases id with ⟨hMissing, hRun⟩ | ⟨hStored, a, hRun⟩
    · rw [hRun]
      refine ⟨⟨fun hError => ⟨hMissing, (Except.error.inj hError).symm⟩, ?_⟩, fun _ => rfl⟩
      rintro ⟨-, rfl⟩
      rfl
    · rw [hRun]
      refine ⟨⟨fun hError => ?_, ?_⟩, fun hError => ?_⟩
      · cases hError
      · exact fun hRefused => absurd hStored hRefused.1
      · cases hError
  | isSeeded => exact read_refuses_iff ⟨_, rfl⟩ db e
  | territoryData => exact read_refuses_iff h.territoryData db e
  | sectionExists id => exact read_refuses_iff ⟨_, rfl⟩ db e
  | representatives => exact read_refuses_iff h.representatives db e
  | representative id => exact read_refuses_iff (h.representative? id) db e
  | assignments => exact read_refuses_iff h.assignments db e
  | assignmentsOf representativeId =>
    exact read_refuses_iff (h.assignmentsOf representativeId) db e
  | assignment id => exact read_refuses_iff (h.assignment? id) db e
  | findSlot sectionId role => exact read_refuses_iff (h.findSlot sectionId role) db e

/-- A call writes what the same call of the repository writes; what it reads stays. -/
theorem Healthy.call {db : Database} {l : Ledger} (h : db.Healthy l) (c : StorageCall) :
    ∃ l', (c.run db).2.Healthy l' := by
  cases c with
  | insert sectionId representativeId role =>
    obtain ⟨l', -, hl'⟩ := h.answer (.insert sectionId representativeId role)
    have hSame : (Repository.answer (.insert sectionId representativeId role) db).2 =
        (insert sectionId representativeId role db).2 := by
      change (Database.answer _ db).2 = _
      rw [Database.answer]
      rcases insert sectionId representativeId role db with ⟨a | e, left⟩ <;> rfl
    rw [hSame] at hl'
    exact ⟨l', hl'⟩
  | delete id =>
    obtain ⟨l', -, hl'⟩ := h.answer (.delete id)
    have hSame : (Repository.answer (.delete id) db).2 = (delete id db).2 := by
      change (Database.answer _ db).2 = _
      rw [Database.answer, Action.mapError]
      rcases delete id db with ⟨a | e, left⟩ <;> rfl
    rw [hSame] at hl'
    exact ⟨l', hl'⟩
  | _ => exact ⟨l, h⟩

/-- The next identifier never falls, and an insertion that hands one out moves past it. -/
theorem nextId_run (c : StorageCall) (db : Database) :
    db.nextId ≤ (c.run db).2.nextId ∧
      ∀ id, c.handedOut? (c.run db).1 = some id →
        id = db.nextId ∧ db.nextId < (c.run db).2.nextId := by
  cases c with
  | insert sectionId representativeId role =>
    rw [StorageCall.run]
    rcases insert_cases sectionId representativeId role db with
      ⟨-, hRun⟩ | ⟨-, -, hRun⟩ | ⟨-, -, hRun⟩
    · rw [hRun]
      exact ⟨Int.le_refl _, fun id hId => by cases hId⟩
    · rw [hRun]
      exact ⟨Int.le_refl _, fun id hId => by cases hId⟩
    · rw [hRun]
      have hPast : db.nextId < db.nextId + 1 := Int.lt_succ db.nextId
      exact ⟨Int.le_of_lt hPast, fun id hId => ⟨(Option.some.inj hId).symm, hPast⟩⟩
  | delete id =>
    -- a deletion takes rows away and leaves the counter, whatever it finds
    have hSame : (delete id db).2.nextId = db.nextId := by
      rw [delete]
      rcases db.assignment? id with e | (- | a) <;> rfl
    rw [StorageCall.run, hSame]
    exact ⟨Int.le_refl _, fun id hId => by cases hId⟩
  | _ => exact ⟨Int.le_refl _, fun id hId => by cases hId⟩

/-! ## Runs -/

/-- Every run of calls leaves a healthy database. -/
theorem Healthy.after {db : Database} {l : Ledger} (h : db.Healthy l) (calls : List StorageCall) :
    ∃ l', (db.after calls).Healthy l' := by
  induction calls generalizing db l with
  | nil => exact ⟨l, h⟩
  | cons c rest ih =>
    obtain ⟨l', hl'⟩ := h.call c
    exact ih hl'

/-- What a run hands out starts with the next identifier at the earliest, and ascends. -/
theorem handedOut_ascends (db : Database) (calls : List StorageCall) :
    (∀ id ∈ db.handedOut calls, db.nextId ≤ id) ∧ (db.handedOut calls).Pairwise (· < ·) := by
  induction calls generalizing db with
  | nil => exact ⟨fun _ hId => (List.not_mem_nil hId).elim, .nil⟩
  | cons c rest ih =>
    obtain ⟨hLe, hHanded⟩ := nextId_run c db
    obtain ⟨hLater, hAscends⟩ := ih (c.run db).2
    rw [handedOut]
    cases hOut : c.handedOut? (c.run db).1 with
    | none => exact ⟨fun id hId => Int.le_trans hLe (hLater id hId), hAscends⟩
    | some first =>
      obtain ⟨rfl, hLt⟩ := hHanded first hOut
      refine ⟨fun id hId => ?_, List.pairwise_cons.mpr ⟨fun id hId => ?_, hAscends⟩⟩
      · rcases List.mem_cons.mp hId with rfl | hId
        · exact Int.le_refl _
        · exact Int.le_trans hLe (hLater id hId)
      · exact Int.lt_of_lt_of_le hLt (hLater id hId)

/-- No slot is filled by two rows, since roles have different codes. -/
theorem Healthy.nodup_slots {db : Database} {l : Ledger} (h : db.Healthy l) :
    (db.assignmentRows.map fun row => (row.sectionId, row.role)).Nodup := by
  rw [h.keeps.assignmentRows, List.map_map]
  have hSlots : (fun row : AssignmentRow => (row.sectionId, row.role)) ∘
      AssignmentRow.ofAssignment = (fun slot : Int × Role => (slot.1, slot.2.code)) ∘
        Assignment.slot := rfl
  rw [hSlots, ← List.map_map]
  refine h.sound.orderly.slots.map ?_
  rintro ⟨s, role⟩ ⟨s', role'⟩ hEq
  obtain ⟨rfl, hCode⟩ := Prod.mk.inj hEq
  exact Prod.ext rfl (Role.code_inj.mp hCode)

/-- A taken slot is told with its occupant, who is the one that a look-up finds. -/
theorem Healthy.answer_insert_of_taken {db : Database} {l : Ledger} (h : db.Healthy l)
    {sectionId : Int} {role : Role} (hTaken : db.SlotTaken sectionId role)
    (representativeId : Int) :
    ∃ a, db.findSlot sectionId role = .ok (some a) ∧
      Repository.answer (.insert sectionId representativeId role) db =
        (.error (.slotOccupied sectionId role a.representativeId), db) := by
  have hHeld : (l.findSlot sectionId role).isSome := by
    rw [← h.keeps.slotTaken]
    exact List.any_eq_true.mpr hTaken
  obtain ⟨a, ha⟩ := Option.isSome_iff_exists.mp hHeld
  have hFound : db.findSlot sectionId role = .ok (some a) := by rw [h.keeps.findSlot, ha]
  refine ⟨a, hFound, ?_⟩
  have hRefused : insert sectionId representativeId role db =
      (.error (.slotOccupied sectionId role), db) :=
    if_pos (List.any_eq_true.mpr hTaken)
  change Database.answer _ db = _
  -- the refusal of the table names no occupant, so the repository looks him up
  rw [Database.answer, hRefused]
  dsimp only
  rw [insertionError, hFound]

/-- **Integrity of every run.** From any database that loads and calls can lead to, every run of
calls leaves one where each row has its parents, no two rows fill the same slot and every row
decodes; the identifiers that it hands out ascend. The next call is refused in the stated cases
only, and then changes nothing. Through the repository, an insertion into a taken slot is refused
with the occupant that a look-up of the slot finds. -/
theorem calls_keep_integrity {db : Database} (hReach : Reachable db) (calls : List StorageCall) :
    (db.after calls).HasParents ∧
    ((db.after calls).assignmentRows.map fun row => (row.sectionId, row.role)).Nodup ∧
    (db.after calls).Readable ∧
    (db.handedOut calls).Pairwise (· < ·) ∧
    (∀ (c : StorageCall) e,
      ((c.run (db.after calls)).1 = .error e ↔ c.IsRefused (db.after calls) e) ∧
      ((c.run (db.after calls)).1 = .error e → (c.run (db.after calls)).2 = db.after calls)) ∧
    ∀ sectionId role, (db.after calls).SlotTaken sectionId role → ∀ representativeId,
      ∃ a, (db.after calls).findSlot sectionId role = .ok (some a) ∧
        Repository.answer (.insert sectionId representativeId role) (db.after calls) =
          (.error (.slotOccupied sectionId role a.representativeId), db.after calls) := by
  obtain ⟨l, hl⟩ := hReach.healthy
  obtain ⟨l', hl'⟩ := hl.after calls
  have hReadable := hl'.keeps.readable
  exact ⟨hl'.hasParents, hl'.nodup_slots, hReadable, (handedOut_ascends db calls).2,
    hReadable.refuses_iff, fun _ _ hTaken => hl'.answer_insert_of_taken hTaken⟩

/-- A run in the hamlet in which the first slot is filled, asked for again and freed, and somebody
is sent to a section that does not exist. -/
theorem calls_keep_integrity_hamlet :
    hamlet.handedOut [.insert 1 2 .primary, .insert 1 1 .primary, .insert 9 1 .primary, .delete 1,
        .delete 1, .insert 1 1 .primary] = [1, 2] ∧
      (hamlet.handedOut [.insert 1 2 .primary, .insert 1 1 .primary, .insert 9 1 .primary,
        .delete 1, .delete 1, .insert 1 1 .primary]).Pairwise (· < ·) ∧
      ∃ a, (hamlet.after [.insert 1 2 .primary]).findSlot 1 .primary = .ok (some a) ∧
        Repository.answer (.insert 1 1 .primary) (hamlet.after [.insert 1 2 .primary]) =
          (.error (.slotOccupied 1 .primary a.representativeId),
            hamlet.after [.insert 1 2 .primary]) := by
  obtain ⟨-, -, -, hAscends, -, -⟩ := calls_keep_integrity reachable_hamlet
    [.insert 1 2 .primary, .insert 1 1 .primary, .insert 9 1 .primary, .delete 1, .delete 1,
      .insert 1 1 .primary]
  obtain ⟨-, -, -, -, -, hOccupant⟩ :=
    calls_keep_integrity reachable_hamlet [.insert 1 2 .primary]
  exact ⟨by rfl, hAscends, hOccupant 1 .primary ⟨⟨1, 1, 2, "RDL"⟩, by decide, by decide⟩ 1⟩

end Database

end PollRoster
