import PollRoster.Proofs.Database.Admission
import PollRoster.Proofs.Database.Integrity

/-!
# Data that comes back

Reference data goes into the tables as a whole or not at all, and what went in comes out again. On
the way in numbers are narrowed and rows are put in order; on the way out numbers are widened again,
and each row is decoded by itself. That the two invert each other is proved of the rows in
`Proofs.Database.Loading`; here it is said of every way in which a database can be read.

Main results:

* `seed_eq_ok_iff` — a blank database takes the data that is valid and storable.
* `seed_restores` — a load that fails changes nothing; one that succeeds loses nothing.
-/

namespace PollRoster

/-- Whether the same records are given, perhaps in another order. -/
abbrev TerritoryData.SameRecords (a b : TerritoryData) : Prop := Territory.SameRecords ⟨a⟩ ⟨b⟩

namespace Database

/-! ## Reading everything -/

/-- Whether every read answers. Then no stored row stands for no record. -/
structure Readable (db : Database) : Prop where
  territoryData : ∃ data, db.territoryData = .ok data
  representatives : ∃ rs, db.representatives = .ok rs
  representative? : ∀ id, ∃ r, db.representative? id = .ok r
  assignments : ∃ as, db.assignments = .ok as
  assignmentsOf : ∀ representativeId, ∃ as, db.assignmentsOf representativeId = .ok as
  assignment? : ∀ id, ∃ a, db.assignment? id = .ok a
  findSlot : ∀ sectionId role, ∃ a, db.findSlot sectionId role = .ok a

/-- A selection of the rows of a ledger decodes to the same selection of its assignments. -/
theorem Keeps.assignmentsOf {db : Database} {l : Ledger} (h : db.Keeps l) (representativeId : Int) :
    db.assignmentsOf representativeId =
      .ok (l.assignments.filter (·.representativeId = representativeId)) := by
  rw [Database.assignmentsOf, h.assignmentRows, List.filter_map]
  exact AssignmentRow.mapM_ofAssignment _

/-- A database that keeps a ledger can be read in every way. -/
theorem Keeps.readable {db : Database} {l : Ledger} (h : db.Keeps l) : db.Readable where
  territoryData := by
    obtain ⟨data, hData, -⟩ := map_eq_ok.mp h.territory
    exact ⟨data, hData⟩
  representatives := ⟨_, h.representatives⟩
  representative? := fun id => ⟨_, h.representative? id⟩
  assignments := ⟨_, h.assignments⟩
  assignmentsOf := fun representativeId => ⟨_, h.assignmentsOf representativeId⟩
  assignment? := fun id => ⟨_, h.assignment? id⟩
  findSlot := fun sectionId role => ⟨_, h.findSlot sectionId role⟩

/-! ## Reading what was loaded -/

/-- Whether a database gives reference data back: the territory and the representatives as wholes,
the representatives in ascending order, and single records in accord with them. -/
structure Restores (db : Database) (d : ReferenceData) : Prop where
  territory : ∃ data, db.territoryData = .ok data ∧ data.SameRecords d.territory ∧
    ∀ id, db.sectionExists id = data.sections.any (·.id = id)
  representatives : ∃ rs, db.representatives = .ok rs ∧ rs.Perm d.representatives ∧
    (rs.Pairwise fun a b => a.id < b.id) ∧
    ∀ id, db.representative? id = .ok (rs.find? (·.id = id))
  readable : db.Readable

/-- Rows and records with the same identifiers have a member for the same ones. -/
theorem any_id_eq {key : α → Int} {key' : β → Int} {rows : List α} {xs : List β}
    (h : rows.map key = xs.map key') (id : Int) :
    (rows.any fun row => decide (key row = id)) = xs.any fun x => decide (key' x = id) := by
  have hRows : (rows.any fun row => decide (key row = id)) =
      (rows.map key).any fun k => decide (k = id) := by
    rw [List.any_map]
    rfl
  rw [hRows, h, List.any_map]
  rfl

theorem Holds.restores {db : Database} {d : ReferenceData} (h : db.Holds d) : db.Restores d where
  territory := by
    obtain ⟨sections, hSections, hPerm⟩ := h.sections
    have hData : db.territoryData = .ok ⟨db.regions, db.provinces, db.municipalities,
        d.territory.districts, sections⟩ :=
      bind_eq_ok.mpr ⟨_, h.districts, bind_eq_ok.mpr ⟨_, hSections, rfl⟩⟩
    refine ⟨_, hData, ⟨h.regions, h.provinces, h.municipalities, .refl _, hPerm⟩, fun id => ?_⟩
    exact any_id_eq (PollingSectionRow.map_id_of_mapM hSections) id
  representatives := by
    -- the list is read in the order of the rows, a single record by the identifier of its row
    obtain ⟨rs, hRs, hPerm⟩ := h.representatives
    have hIds := RepresentativeRow.map_id_of_mapM hRs
    refine ⟨rs, hRs, hPerm, ?_, fun id => ?_⟩
    · -- the rows ascend, and decoding keeps their identifiers
      have hAscending : (rs.map Representative.id).Pairwise (· < ·) := by
        rw [← hIds]
        exact List.pairwise_map.mpr h.ascending.representativeRows
      exact List.pairwise_map.mp hAscending
    · refine decodeFound_find? (fun row r hRow => ?_) (mapM_eq_ok.mp hRs)
      obtain ⟨district, -, hRow⟩ := bind_eq_ok.mp hRow
      rw [← Except.ok.inj hRow]
  readable := by
    obtain ⟨_, _, -, -, -, hKeeps⟩ := h.keeps
    exact hKeeps.readable

/-- What is read does not depend on the counter of identifiers. -/
theorem Restores.withNextId {db : Database} {d : ReferenceData} (h : db.Restores d) (n : Int) :
    (db.withNextId n).Restores d :=
  ⟨h.territory, h.representatives, h.readable.territoryData, h.readable.representatives,
    h.readable.representative?, h.readable.assignments, h.readable.assignmentsOf,
    h.readable.assignment?, h.readable.findSlot⟩

/-! ## Loading -/

theorem seed_of_error {d : ReferenceData} {db : Database} {e : StorageError}
    (h : db.seeded d = .error e) : seed d db = (.error e, db) := by
  rw [seed, Action.transaction, h]

theorem seed_of_ok {d : ReferenceData} {db db' : Database} (h : db.seeded d = .ok db') :
    seed d db = (.ok (), db') := by
  rw [seed, Action.transaction, h]

/-- Data that is not valid is refused wherever it is loaded. -/
theorem seed_of_invalid {d : ReferenceData} {reason : String} (h : d.validate = .error reason)
    (db : Database) : seed d db = (.error (.invalidReferenceData reason), db) := by
  refine seed_of_error ?_
  rw [seeded, h]
  rfl

/-- Where reference data was loaded before, no other is. -/
theorem seed_of_seeded {d : ReferenceData} {db : Database} (hValid : d.validate = .ok ())
    (hSeeded : db.isSeeded = true) : seed d db = (.error .alreadySeeded, db) := by
  refine seed_of_error ?_
  rw [seeded, hValid, hSeeded]
  rfl

/-- **Loading into a blank database.** Valid data is taken as a whole, or it is refused with the
first record that a table does not take. -/
theorem IsBlank.seed_outcome {d : ReferenceData} {db : Database} (h : db.IsBlank)
    (hValid : d.validate = .ok ()) :
    (d.Storable ∧ ∃ loaded, empty.insertAll d = .ok loaded ∧
      seed d db = (.ok (), loaded.withNextId db.nextId)) ∨
    (d.BreaksRule ∧ ∃ reason, seed d db = (.error (.database reason), db)) ∨
    (d.Overflows ∧ ∃ reason, seed d db = (.error (.invalidReferenceData reason), db)) := by
  have hUnseeded : db.isSeeded = false := by
    rw [h]
    rfl
  have hSeeded : db.seeded d = (empty.insertAll d).map (Database.withNextId db.nextId) := by
    rw [seeded, hValid, hUnseeded, ← h.insertAll]
    rfl
  rcases insertAll_outcome (ReferenceData.validate_consistent hValid) with
    ⟨hStorable, loaded, hAll⟩ | ⟨hBreaks, reason, hAll⟩ | ⟨hOverflows, reason, hAll⟩
  -- the counter passes through unseen, so what the empty database does decides
  · rw [hAll] at hSeeded
    exact .inl ⟨hStorable, loaded, hAll, seed_of_ok hSeeded⟩
  · rw [hAll] at hSeeded
    exact .inr (.inl ⟨hBreaks, reason, seed_of_error hSeeded⟩)
  · rw [hAll] at hSeeded
    exact .inr (.inr ⟨hOverflows, reason, seed_of_error hSeeded⟩)

/-- A blank database takes data that is valid and storable, and no other. -/
theorem IsBlank.seed_eq_ok_iff {d : ReferenceData} {db : Database} (h : db.IsBlank) :
    (seed d db).1 = .ok () ↔ d.validate = .ok () ∧ d.Storable := by
  cases hValid : d.validate with
  | error reason =>
    rw [seed_of_invalid hValid]
    constructor
    · intro hOk
      cases hOk
    · rintro ⟨hOk, -⟩
      cases hOk
  | ok u =>
    rcases h.seed_outcome hValid with
      ⟨hStorable, _, -, hSeed⟩ | ⟨hBreaks, _, hSeed⟩ | ⟨hOverflows, _, hSeed⟩
    · rw [hSeed]
      exact ⟨fun _ => ⟨rfl, hStorable⟩, fun _ => rfl⟩
    · rw [hSeed]
      constructor
      · intro hOk
        cases hOk
      · exact fun hBoth => absurd hBoth.2 hBreaks.not_storable
    · rw [hSeed]
      constructor
      · intro hOk
        cases hOk
      · exact fun hBoth => absurd hBoth.2 hOverflows.not_storable

/-- A load that a blank database takes is of storable data, and can be read back. -/
theorem IsBlank.restores_of_seed {d : ReferenceData} {db : Database} (h : db.IsBlank)
    (hLoaded : (seed d db).1 = .ok ()) : d.Storable ∧ (seed d db).2.Restores d := by
  obtain ⟨hValid, hStorable⟩ := h.seed_eq_ok_iff.mp hLoaded
  refine ⟨hStorable, ?_⟩
  rcases h.seed_outcome hValid with ⟨-, loaded, hAll, hSeed⟩ | ⟨-, _, hSeed⟩ | ⟨-, _, hSeed⟩
  · rw [hSeed]
    exact (insertAll_holds hAll).restores.withNextId db.nextId
  · rw [hSeed] at hLoaded
    cases hLoaded
  · rw [hSeed] at hLoaded
    cases hLoaded

/-- **All or nothing, and nothing lost.** A load that fails leaves every table as it was. One that
succeeds on a database without rows, as it does with data that is valid and storable, leaves one
that gives the data back. -/
theorem seed_restores (d : ReferenceData) (db : Database) :
    (∀ e, (seed d db).1 = .error e → (seed d db).2 = db) ∧
    (db.IsBlank → ((seed d db).1 = .ok () ↔ d.validate = .ok () ∧ d.Storable)) ∧
    (db.IsBlank → (seed d db).1 = .ok () → (seed d db).2.Restores d) := by
  refine ⟨fun e hFailed => ?_, fun hBlank => hBlank.seed_eq_ok_iff,
    fun hBlank hLoaded => (hBlank.restores_of_seed hLoaded).2⟩
  cases hSeeded : db.seeded d with
  | error e' => rw [seed_of_error hSeeded]
  | ok db' =>
    rw [seed_of_ok hSeeded] at hFailed
    cases hFailed

end Database

/-! ## A town out of order -/

/-- A town in two districts, whose records are not listed in the order of their identifiers. -/
def ReferenceData.town : ReferenceData where
  territory :=
    { regions := [⟨1, "Lazio"⟩]
      provinces := [⟨1, 1, "Roma", "RM"⟩]
      municipalities := [⟨2, 1, "Velletri", true⟩, ⟨1, 1, "Nemi", false⟩]
      districts := [⟨2, 2, "Colle"⟩, ⟨2, 1, "Centro"⟩]
      sections :=
        [⟨3, 3, "Municipio", "Piazza Cairoli 1", 2, some 2, false, 0⟩,
          ⟨1, 1, "Scuola", "Via Roma 1", 1, none, true, 500⟩] }
  representatives :=
    [⟨2, "Bruno", "bruno@example.org", some "+39 06 5550101", 2, some 1, "sezione 3", none⟩,
      ⟨1, "Anna", "anna@example.org", none, 1, none, "", some "solo mattina"⟩]

/-- The town comes back from a database whose identifiers were used before, and a second load of it
is refused. -/
theorem Database.seed_restores_town :
    (seed .town (empty.withNextId 7)).2.Restores .town ∧
      (seed .town (seed .town empty).2).2 = (seed .town empty).2 :=
  ⟨(seed_restores .town (empty.withNextId 7)).2.2 rfl rfl,
    (seed_restores .town (seed .town empty).2).1 .alreadySeeded rfl⟩

end PollRoster
