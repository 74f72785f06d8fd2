import PollRoster.Proofs.Failure
import PollRoster.Proofs.Order
import PollRoster.Proofs.Store
import PollRoster.Proofs.Territory
import PollRoster.Database.Repository

/-!
# The ledger that a database keeps

The tables of a database may encode a ledger: `Keeps` says that its rows decode to the records of
the ledger. Every call that is grounded is then answered as the ledger answers it.

Main result:

* `stores_withLedger` — a database that keeps a ledger also stores every other one with the same
  reference data, once its assignments are exchanged.
-/

namespace PollRoster

/-! ## Rows of assignments -/

/-- The row of an assignment. -/
def AssignmentRow.ofAssignment (a : Assignment) : AssignmentRow :=
  ⟨a.id, a.sectionId, a.representativeId, a.role.code⟩

theorem Role.ofText_code (role : Role) : ofText role.code = .ok role := by
  cases role <;> rfl

theorem Role.code_inj {role role' : Role} : role.code = role'.code ↔ role = role' := by
  cases role <;> cases role' <;> decide

namespace AssignmentRow

@[simp] theorem toAssignment_ofAssignment (a : Assignment) :
    (ofAssignment a).toAssignment = .ok a := by
  rw [toAssignment, ofAssignment, Role.ofText_code]

/-- Compared by its code or by itself, the role is the same. -/
@[simp] theorem takes_ofAssignment (a : Assignment) (sectionId : Int) (role : Role) :
    (ofAssignment a).takes sectionId role =
      (decide (a.sectionId = sectionId) && decide (a.role = role)) := by
  have hRole : decide (a.role.code = role.code) = decide (a.role = role) :=
    decide_eq_decide.mpr Role.code_inj
  rw [takes, ofAssignment, hRole]

theorem mapM_ofAssignment (as : List Assignment) :
    (as.map ofAssignment).mapM toAssignment = .ok as := by
  rw [mapM_eq_ok, List.forall₂_map_left_iff, List.forall₂_same]
  exact fun a _ => toAssignment_ofAssignment a

end AssignmentRow

/-- Rows of sections keep the identifiers. -/
theorem PollingSectionRow.map_id_of_mapM {rows : List PollingSectionRow}
    {sections : List PollingSection} (h : rows.mapM toSection = .ok sections) :
    rows.map PollingSectionRow.id = sections.map PollingSection.id := by
  have hIds : List.Forall₂ (fun (row : PollingSectionRow) (s : PollingSection) => row.id = s.id)
      rows sections := by
    refine (mapM_eq_ok.mp h).imp fun row s hRow => ?_
    obtain ⟨number, -, hRow⟩ := bind_eq_ok.mp hRow
    obtain ⟨district, -, hRow⟩ := bind_eq_ok.mp hRow
    obtain ⟨electors, -, hRow⟩ := bind_eq_ok.mp hRow
    rw [← Except.ok.inj hRow]
  exact List.forall₂_eq_eq_eq ▸
    (List.forall₂_map_left_iff.mpr (List.forall₂_map_right_iff.mpr hIds))

namespace Database

/-! ## Keeping a ledger -/

/-- Whether the rows of a database decode to the records of a ledger. -/
structure Keeps (db : Database) (l : Ledger) : Prop where
  territory : db.territoryData.map Territory.ofData = .ok l.territory
  representatives : db.representatives = .ok l.representatives
  assignmentRows : db.assignmentRows = l.assignments.map AssignmentRow.ofAssignment
  nextId : db.nextId = l.nextId

/-- The database with the assignments of a ledger in place of its own. -/
def withLedger (db : Database) (l : Ledger) : Database :=
  { db with
    assignmentRows := l.assignments.map AssignmentRow.ofAssignment
    nextId := l.nextId }

variable {db : Database} {l : Ledger}

theorem Keeps.withLedger_self (h : db.Keeps l) : db.withLedger l = db := by
  rw [withLedger, ← h.assignmentRows, ← h.nextId]

theorem Keeps.withLedger (h : db.Keeps l) {l' : Ledger} (hLike : l.IsLike l') :
    (db.withLedger l').Keeps l' := by
  refine ⟨?_, ?_, rfl, rfl⟩
  · rw [hLike.1]
    exact h.territory
  · rw [hLike.2]
    exact h.representatives

/-- A database keeps one ledger at most. -/
theorem Keeps.unique (h : db.Keeps l) {l' : Ledger} (h' : db.Keeps l') : l = l' := by
  have hTerritory := Except.ok.inj (h.territory.symm.trans h'.territory)
  have hRepresentatives := Except.ok.inj (h.representatives.symm.trans h'.representatives)
  have hRows := (AssignmentRow.mapM_ofAssignment l.assignments).symm.trans
    (by rw [← h.assignmentRows, h'.assignmentRows, AssignmentRow.mapM_ofAssignment])
  have hNextId := h.nextId.symm.trans h'.nextId
  calc l
      = ⟨l.territory, l.representatives, l.assignments, l.nextId⟩ := rfl
    _ = l' := by rw [hTerritory, hRepresentatives, Except.ok.inj hRows, hNextId]

/-! ## Calls that read -/

/-- The row of a section is stored exactly if the section is. -/
theorem Keeps.sectionExists (h : db.Keeps l) (id : Int) :
    db.sectionExists id = (l.territory.section? id).isSome := by
  obtain ⟨data, hData, hTerritory⟩ := map_eq_ok.mp h.territory
  obtain ⟨districts, -, hRest⟩ := bind_eq_ok.mp hData
  obtain ⟨sections, hSections, hEq⟩ := bind_eq_ok.mp hRest
  have hMap := PollingSectionRow.map_id_of_mapM hSections
  rw [Bool.eq_iff_iff, Territory.section?_isSome, ← hTerritory, ← Except.ok.inj hEq]
  constructor
  · intro hAny
    obtain ⟨row, hRow, hId⟩ := List.any_eq_true.mp hAny
    have hMem : row.id ∈ sections.map PollingSection.id := hMap ▸ List.mem_map_of_mem hRow
    obtain ⟨s, hs, hSame⟩ := List.mem_map.mp hMem
    exact ⟨s, mem_sortBy.mpr hs, hSame.trans (of_decide_eq_true hId)⟩
  · rintro ⟨s, hs, hId⟩
    have hMem : s.id ∈ db.sectionRows.map PollingSectionRow.id :=
      hMap ▸ List.mem_map_of_mem (mem_sortBy.mp hs)
    obtain ⟨row, hRow, hSame⟩ := List.mem_map.mp hMem
    exact List.any_eq_true.mpr ⟨row, hRow, decide_eq_true (hSame.trans hId)⟩

/-- Looking a row up and decoding it is looking the record up. -/
theorem decodeFound_find? {decode : ρ → Except StorageError α} {p : ρ → Bool} {q : α → Bool}
    (hSame : ∀ row a, decode row = .ok a → p row = q a) {rows : List ρ} {as : List α}
    (h : List.Forall₂ (fun row a => decode row = .ok a) rows as) :
    decodeFound decode (rows.find? p) = .ok (as.find? q) := by
  induction h with
  | nil => rfl
  | @cons row a rows as hDecode hRest ih =>
    rw [List.find?_cons, List.find?_cons, ← hSame row a hDecode]
    cases p row with
    | true =>
      rw [decodeFound, hDecode]
      rfl
    | false => exact ih

theorem Keeps.representative? (h : db.Keeps l) (id : Int) :
    db.representative? id = .ok (l.representative? id) := by
  refine decodeFound_find? (fun row r hRow => ?_) (mapM_eq_ok.mp h.representatives)
  obtain ⟨district, -, hRow⟩ := bind_eq_ok.mp hRow
  rw [← Except.ok.inj hRow]

/-- The row of a representative is stored exactly if the representative is. -/
theorem Keeps.representativeExists (h : db.Keeps l) (id : Int) :
    db.representativeRows.any (·.id = id) = (l.representative? id).isSome := by
  have hFound := h.representative? id
  rw [Database.representative?] at hFound
  rw [Bool.eq_iff_iff, List.any_eq_true, ← List.find?_isSome]
  cases hRow : db.representativeRows.find? (·.id = id) with
  | none =>
    rw [hRow] at hFound
    rw [← Except.ok.inj hFound]
    exact Iff.rfl
  | some row =>
    rw [hRow] at hFound
    obtain ⟨r, -, hr⟩ := map_eq_ok.mp hFound
    rw [← hr]
    exact Iff.rfl

theorem Keeps.assignments (h : db.Keeps l) : db.assignments = .ok l.assignments := by
  rw [Database.assignments, h.assignmentRows, AssignmentRow.mapM_ofAssignment]

/-- Looking a row of an assignment up is looking the assignment up. -/
theorem Keeps.find?_assignmentRows (h : db.Keeps l) {p : AssignmentRow → Bool}
    {q : Assignment → Bool} (hSame : ∀ a, p (.ofAssignment a) = q a) :
    db.assignmentRows.find? p = (l.assignments.find? q).map .ofAssignment := by
  rw [h.assignmentRows, List.find?_map]
  congr 2
  exact funext hSame

theorem decodeFound_ofAssignment (found : Option Assignment) :
    decodeFound AssignmentRow.toAssignment (found.map .ofAssignment) = .ok found := by
  cases found with
  | none => rfl
  | some a =>
    rw [Option.map_some, decodeFound, AssignmentRow.toAssignment_ofAssignment]
    rfl

theorem Keeps.assignment? (h : db.Keeps l) (id : Int) :
    db.assignment? id = .ok (l.assignment? id) := by
  rw [Database.assignment?, h.find?_assignmentRows (fun _ => rfl), decodeFound_ofAssignment]
  rfl

theorem Keeps.findSlot (h : db.Keeps l) (sectionId : Int) (role : Role) :
    db.findSlot sectionId role = .ok (l.findSlot sectionId role) := by
  rw [Database.findSlot,
    h.find?_assignmentRows (fun a => AssignmentRow.takes_ofAssignment a sectionId role),
    decodeFound_ofAssignment, Ledger.findSlot]

/-- A slot is taken by a row exactly if it is held. -/
theorem Keeps.slotTaken (h : db.Keeps l) (sectionId : Int) (role : Role) :
    db.assignmentRows.any (·.takes sectionId role) = (l.findSlot sectionId role).isSome := by
  rw [Bool.eq_iff_iff, List.any_eq_true, ← List.find?_isSome,
    h.find?_assignmentRows (fun a => AssignmentRow.takes_ofAssignment a sectionId role),
    Option.isSome_map]
  exact Iff.rfl

/-! ## Calls that write -/

/-- A grounded insertion is answered as by the ledger. -/
theorem Keeps.insert (h : db.Keeps l) {sectionId representativeId : Int} {role : Role}
    (hCall : (RepositoryCall.insert sectionId representativeId role).IsGrounded l) :
    Repository.answer (.insert sectionId representativeId role) db =
      ((l.insert sectionId representativeId role).1,
        db.withLedger (l.insert sectionId representativeId role).2) := by
  change answer _ db = _
  rw [answer, Database.insert, h.slotTaken]
  rcases l.insert_cases sectionId representativeId role with ⟨hFree, hInsert⟩ | ⟨a, hHeld, hInsert⟩
  · rw [hFree, hInsert, h.sectionExists, h.representativeExists, hCall.1, hCall.2, h.nextId]
    refine Prod.ext rfl ?_
    simp only [Option.isSome_none, Bool.false_eq_true, ite_false, Bool.and_self, ite_true,
      Database.withLedger, Ledger.add, List.map_append, h.assignmentRows]
    rfl
  · rw [hHeld, hInsert, h.withLedger_self]
    refine Prod.ext ?_ rfl
    simp only [Option.isSome_some, ite_true, insertionError, h.findSlot, hHeld]

/-- A deletion is answered as by the ledger. -/
theorem Keeps.delete (h : db.Keeps l) (id : Int) :
    Repository.answer (.delete id) db = ((l.delete id).1, db.withLedger (l.delete id).2) := by
  change answer _ db = _
  rw [answer]
  simp only [Action.mapError, Database.delete, h.assignment?]
  rcases l.delete_cases id with ⟨hMissing, hDelete⟩ | ⟨a, hFound, hDelete⟩
  · rw [hMissing, hDelete, h.withLedger_self]
    rfl
  · rw [hFound, hDelete]
    refine Prod.ext rfl ?_
    simp only [Database.withLedger, Ledger.without, h.assignmentRows, List.filter_map, h.nextId]
    rfl

/-- Every grounded call is answered as by the ledger. -/
theorem Keeps.answer (h : db.Keeps l) {c : RepositoryCall} (hCall : c.IsGrounded l) :
    Repository.answer c db = ((l.answer c).1, db.withLedger (l.answer c).2) := by
  cases c with
  | insert sectionId representativeId role => exact h.insert hCall
  | delete id => exact h.delete id
  | territory =>
    refine Prod.ext ?_ h.withLedger_self.symm
    exact congrArg (Except.mapError repositoryError) h.territory
  | _ =>
    change Database.answer _ db = (_, db.withLedger l)
    simp only [Database.answer, reading, Ledger.answer, h.withLedger_self,
      h.sectionExists, h.representatives, h.representative?, h.assignments, h.assignment?,
      h.findSlot, Except.mapError]

/-- **Stored ledgers.** A database that keeps a ledger stores those like it. -/
theorem stores_withLedger {base : Ledger} (h : db.Keeps base) : Stores db.withLedger base where
  answer := by
    intro c l hLike hCall
    have hGrounded : c.IsGrounded l := by
      cases c with
      | insert sectionId representativeId role =>
        rw [RepositoryCall.IsGrounded, hLike.1, Ledger.representative?, hLike.2]
        exact hCall
      | _ => trivial
    exact (h.withLedger hLike).answer hGrounded

theorem Keeps.isKeptBy (h : db.Keeps l) : l.IsKeptBy db :=
  ⟨db.withLedger, stores_withLedger h, h.withLedger_self.symm⟩

end Database

end PollRoster
