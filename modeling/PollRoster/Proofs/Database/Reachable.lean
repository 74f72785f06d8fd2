import PollRoster.Proofs.Database.Loading
import PollRoster.Proofs.Validation

/-!
# Reachable databases

Whatever is loaded into an empty database and called of it, its tables encode a sound ledger: the
reference data is that of one validated load, and every assignment stands between a stored section
and a stored representative.

Main results:

* `healthy_of_seed` — the database that keeps ascending data after a load.
* `Reachable.healthy` — a reachable database keeps a sound ledger.
-/

namespace PollRoster

/-! ## Sound ledgers -/

/-- A ledger in order, over well-formed reference data, whose assignments name stored sections and
representatives. -/
structure Ledger.Sound (l : Ledger) : Prop where
  orderly : l.Orderly
  territory : l.territory.WellFormed
  representatives : l.territory.Houses l.representatives
  grounded : ∀ a ∈ l.assignments,
    (l.territory.section? a.sectionId).isSome ∧ (l.representative? a.representativeId).isSome

theorem Ledger.sound_start {territory : Territory} {representatives : List Representative}
    (hTerritory : territory.WellFormed) (hHouses : territory.Houses representatives) :
    (Ledger.start territory representatives).Sound :=
  ⟨orderly_start _ _, hTerritory, hHouses, fun _ ha => (List.not_mem_nil ha).elim⟩

/-- A grounded call keeps a ledger sound. -/
theorem Ledger.Sound.answer {l : Ledger} (h : l.Sound) {c : RepositoryCall}
    (hCall : c.IsGrounded l) : (l.answer c).2.Sound := by
  have hOrderly := h.orderly.answer c
  cases c with
  | insert sectionId representativeId role =>
    rcases l.insert_cases sectionId representativeId role with ⟨-, hInsert⟩ | ⟨a, -, hInsert⟩
    · rw [Ledger.answer, hInsert] at hOrderly ⊢
      refine ⟨hOrderly, h.territory, h.representatives, fun a ha => ?_⟩
      rcases List.mem_append.mp ha with ha | ha
      · exact h.grounded a ha
      · rw [List.mem_singleton.mp ha]
        exact hCall
    · rw [Ledger.answer, hInsert]
      exact h
  | delete id =>
    rcases l.delete_cases id with ⟨-, hDelete⟩ | ⟨a, -, hDelete⟩
    · rw [Ledger.answer, hDelete]
      exact h
    · rw [Ledger.answer, hDelete] at hOrderly ⊢
      exact ⟨hOrderly, h.territory, h.representatives,
        fun a ha => h.grounded a (List.mem_filter.mp ha).1⟩
  | _ => exact h

namespace Database

/-! ## Loaded databases -/

/-- A database that holds sound data keeps a sound ledger without assignments. -/
theorem Holds.keeps_sound {db : Database} {d : ReferenceData} (h : db.Holds d)
    (hTerritory : (Territory.ofData d.territory).WellFormed)
    (hHouses : (Territory.ofData d.territory).Houses d.representatives) :
    ∃ l, db.Keeps l ∧ l.Sound := by
  obtain ⟨sections, representatives, hSections, hPerm, -, hKeeps⟩ := h.keeps
  have hSame : Territory.SameRecords (.ofData d.territory)
      (.ofData ⟨db.regions, db.provinces, db.municipalities, d.territory.districts, sections⟩) :=
    Territory.sameRecords_ofData h.regions.symm h.provinces.symm h.municipalities.symm (.refl _)
      hSections.symm
  refine ⟨_, hKeeps, ?_⟩
  exact Ledger.sound_start (hTerritory.of_sameRecords hSame)
    (hHouses.of_sameRecords hSame hPerm.symm)

/-! ## The unseeded database -/

/-- Where every member has its parent and there are no parents, there are no members. -/
theorem eq_nil_of_parents {rows : List α} {parents : List β} {P : α → β → Prop}
    (h : ∀ x ∈ rows, ∃ y ∈ parents, P x y) (hNone : parents = []) : rows = [] := by
  refine List.eq_nil_iff_forall_not_mem.mpr fun x hx => ?_
  obtain ⟨y, hy, -⟩ := h x hx
  rw [hNone] at hy
  exact List.not_mem_nil hy

/-- Sound data without regions is no data at all, so a database that holds it is the empty one. -/
theorem Holds.eq_empty {db : Database} {d : ReferenceData} (h : db.Holds d)
    (hTerritory : (Territory.ofData d.territory).WellFormed)
    (hHouses : (Territory.ofData d.territory).Houses d.representatives)
    (hUnseeded : db.isSeeded = false) : db = empty := by
  have hSame := Territory.sameRecords_given d.territory
  have hWell := hTerritory.of_sameRecords hSame
  have hRegions : db.regions = [] := by simpa [isSeeded] using hUnseeded
  have hNoRegion : d.territory.regions = [] := by simpa [hRegions] using h.regions
  have hNoProvince : d.territory.provinces = [] := eq_nil_of_parents hWell.region_of hNoRegion
  have hNoMunicipality : d.territory.municipalities = [] :=
    eq_nil_of_parents hWell.province_of hNoProvince
  have hProvinces : db.provinces = [] := by simpa [hNoProvince] using h.provinces
  have hMunicipalities : db.municipalities = [] := by
    simpa [hNoMunicipality] using h.municipalities
  have hDistricts : db.districtRows = [] := Decodes.eq_nil ⟨_, h.districts, .refl _⟩ <|
    eq_nil_of_parents hWell.districts hNoMunicipality
  have hSections : db.sectionRows = [] :=
    h.sections.eq_nil (eq_nil_of_parents hWell.sections hNoMunicipality)
  have hRepresentatives : db.representativeRows = [] := h.representatives.eq_nil <|
    eq_nil_of_parents (hHouses.of_sameRecords hSame (.refl _)).places hNoMunicipality
  calc db
      = ⟨db.regions, db.provinces, db.municipalities, db.districtRows, db.sectionRows,
          db.representativeRows, db.assignmentRows, db.nextId⟩ := rfl
    _ = empty := by
      rw [hRegions, hProvinces, hMunicipalities, hDistricts, hSections, hRepresentatives,
        h.assignmentRows, h.nextId, empty]

/-! ## Reachable databases -/

/-- What can become of the empty database by loads and calls, refused ones included. -/
inductive Reachable : Database → Prop
  | empty : Reachable empty
  | seed (d : ReferenceData) : Reachable db → Reachable (seed d db).2
  | call (c : RepositoryCall) : Reachable db → Reachable (Repository.answer c db).2

/-- What is known of a reachable database: it keeps a sound ledger, and has nothing in it before
reference data is loaded. -/
structure Healthy (db : Database) (l : Ledger) : Prop where
  keeps : db.Keeps l
  sound : l.Sound
  unseeded : db.isSeeded = false → db = empty

theorem keeps_empty : empty.Keeps (.start (.ofData ⟨[], [], [], [], []⟩) []) :=
  ⟨rfl, rfl, rfl, rfl⟩

theorem healthy_empty : empty.Healthy (.start (.ofData ⟨[], [], [], [], []⟩) []) where
  keeps := keeps_empty
  sound := by
    obtain ⟨hTerritory, hHouses⟩ :=
      ReferenceData.validate_sound (d := ⟨⟨[], [], [], [], []⟩, []⟩) (u := ()) rfl
    exact Ledger.sound_start hTerritory hHouses
  unseeded := fun _ => rfl

/-- A load that is accepted stores sound data where nothing was loaded before. -/
theorem seeded_eq_ok {db db' : Database} {d : ReferenceData} (h : db.seeded d = .ok db') :
    d.validate = .ok () ∧ db.isSeeded = false ∧ db.insertAll d = .ok db' := by
  rw [seeded] at h
  split at h
  · exact nomatch h
  next hValid =>
    obtain ⟨_, hFresh, hAll⟩ := bind_eq_ok.mp h
    rw [require_eq_ok, Bool.not_eq_true'] at hFresh
    exact ⟨hValid, hFresh, hAll⟩

/-- A load leaves a healthy database, whether it is refused or not. -/
theorem Healthy.seed {db : Database} {l : Ledger} (h : db.Healthy l) (d : ReferenceData) :
    (∃ l', (seed d db).2.Healthy l') ∧
      ((Database.seed d db).1 ≠ .ok () → (Database.seed d db).2 = db) := by
  rw [Database.seed]
  simp only [Action.transaction]
  cases hSeeded : db.seeded d with
  | error e => exact ⟨⟨l, h⟩, fun _ => rfl⟩
  | ok db' =>
    refine ⟨?_, fun hNot => absurd rfl hNot⟩
    obtain ⟨hValid, hFresh, hAll⟩ := seeded_eq_ok hSeeded
    -- a load goes on only where nothing was loaded before, and there nothing else is stored
    rw [h.unseeded hFresh] at hAll
    have hHolds := insertAll_holds hAll
    obtain ⟨hTerritory, hHouses⟩ := ReferenceData.validate_sound hValid
    obtain ⟨l', hKeeps, hSound⟩ := hHolds.keeps_sound hTerritory hHouses
    exact ⟨l', hKeeps, hSound, hHolds.eq_empty hTerritory hHouses⟩

/-- **Loading ascending data.** Into the empty database it leaves a healthy one of the same
territory, with the representatives in an order of its own. -/
theorem healthy_of_seed {db : Database} {d : ReferenceData} (hSeed : seed d empty = (.ok (), db))
    (hAscending : d.territory.IsAscending) :
    ∃ representatives, representatives.Perm d.representatives ∧
      db.Healthy (.start (.ofData d.territory) representatives) := by
  have hSeeded : empty.seeded d = .ok db := by
    rw [seed, Action.transaction] at hSeed
    split at hSeed
    next db' hDone => rw [hDone, (Prod.mk.inj hSeed).2]
    · exact nomatch (Prod.mk.inj hSeed).1
  obtain ⟨hValid, -, hAll⟩ := seeded_eq_ok hSeeded
  obtain ⟨hTerritory, hHouses⟩ := ReferenceData.validate_sound hValid
  have hHolds := insertAll_holds hAll
  obtain ⟨representatives, hPerm, hKeeps⟩ := hHolds.keeps_of_ascending hAscending
  have hSame : Territory.SameRecords (.ofData d.territory) (.ofData d.territory) :=
    Territory.sameRecords_ofData (.refl _) (.refl _) (.refl _) (.refl _) (.refl _)
  have hSound := Ledger.sound_start hTerritory (hHouses.of_sameRecords hSame hPerm.symm)
  exact ⟨representatives, hPerm, hKeeps, hSound, hHolds.eq_empty hTerritory hHouses⟩

/-- A call that is not grounded changes nothing. -/
theorem Keeps.answer_of_not_grounded {db : Database} {l : Ledger} (h : db.Keeps l)
    {c : RepositoryCall} (hCall : ¬c.IsGrounded l) : (Repository.answer c db).2 = db := by
  cases c with
  | insert sectionId representativeId role =>
    change (Database.answer _ db).2 = db
    rw [Database.answer, Database.insert, h.slotTaken, h.sectionExists, h.representativeExists]
    cases (l.findSlot sectionId role).isSome with
    | true => rfl
    | false =>
      rw [if_neg Bool.false_ne_true, if_neg]
      rwa [Bool.and_eq_true]
  | _ => exact absurd trivial hCall

/-- In the empty database there is nothing to assign and nothing to take away. -/
theorem Keeps.answer_unseeded {db : Database} {l : Ledger} (h : db.Keeps l) {c : RepositoryCall}
    (hCall : c.IsGrounded l) (hEmpty : db = empty) : (l.answer c).2 = l := by
  cases c with
  | insert sectionId representativeId role =>
    have hNone : db.sectionExists sectionId = false := by
      rw [hEmpty]
      rfl
    rw [h.sectionExists, hCall.1] at hNone
    cases hNone
  | delete id =>
    rcases l.delete_cases id with ⟨-, hDelete⟩ | ⟨a, hFound, -⟩
    · rw [Ledger.answer, hDelete]
    · have hNone : db.assignment? id = .ok none := by
        rw [hEmpty]
        rfl
      rw [h.assignment?, hFound] at hNone
      cases hNone
  | _ => rfl

/-- Every call keeps a database healthy, and its tables but that of the assignments. -/
theorem Healthy.answer {db : Database} {l : Ledger} (h : db.Healthy l) (c : RepositoryCall) :
    ∃ l', l.IsLike l' ∧ (Repository.answer c db).2.Healthy l' := by
  by_cases hCall : c.IsGrounded l
  · have hLike : l.IsLike (l.answer c).2 := (Ledger.IsLike.refl l).answer c
    refine ⟨(l.answer c).2, hLike, ?_⟩
    rw [h.keeps.answer hCall]
    refine ⟨h.keeps.withLedger hLike, h.sound.answer hCall, fun hUnseeded => ?_⟩
    rw [h.keeps.answer_unseeded hCall (h.unseeded hUnseeded), h.keeps.withLedger_self]
    exact h.unseeded hUnseeded
  · rw [h.keeps.answer_of_not_grounded hCall]
    exact ⟨l, .refl l, h⟩

/-- A careful program runs over a healthy database as over the ledger, and leaves it healthy. -/
theorem Healthy.run {db : Database} {l : Ledger} (h : db.Healthy l) {p : Program α}
    {post : α → Prop} (hCareful : p.IsCareful l post) (stop : Cancellation) (now : Moment) :
    p.run stop now db = (p.run stop now l).mapRepository db.withLedger ∧
      (db.withLedger (p.run stop now l).repository).Healthy (p.run stop now l).repository := by
  have hRun : p.run stop now db = (p.run stop now l).mapRepository db.withLedger := by
    have hStored := p.run_store (stores_withLedger h.keeps) hCareful stop now (.refl l)
    rwa [h.keeps.withLedger_self] at hStored
  refine ⟨hRun, ?_⟩
  have hSome : ∃ l', (p.run stop now db).repository.Healthy l' :=
    Program.run_keeps (P := fun db : Database => ∃ l, db.Healthy l)
      (fun c _ ⟨_, hl⟩ => (hl.answer c).imp fun _ h => h.2) p ⟨l, h⟩
  rw [hRun] at hSome
  obtain ⟨l', hl'⟩ := hSome
  -- a database keeps one ledger only, so the healthy one is that of the run
  have hKeeps := h.keeps.withLedger (Program.run_isLike p stop now (.refl l))
  obtain rfl := hl'.keeps.unique hKeeps
  exact hl'

/-- **Reachable databases are healthy.** -/
theorem Reachable.healthy {db : Database} (h : Reachable db) : ∃ l, db.Healthy l := by
  induction h with
  | empty => exact ⟨_, healthy_empty⟩
  | seed d _ ih =>
    obtain ⟨l, hl⟩ := ih
    exact (hl.seed d).1
  | call c _ ih =>
    obtain ⟨l, hl⟩ := ih
    obtain ⟨l', -, hl'⟩ := hl.answer c
    exact ⟨l', hl'⟩

/-- The ledger that a reachable database keeps is itself what can become of a ledger by calls: a
load starts one, and what the database refuses is no call of it. -/
theorem Reachable.keeps_reachable {db : Database} (h : Reachable db) :
    ∃ l : Ledger, db.Healthy l ∧ l.Reachable := by
  induction h with
  | empty => exact ⟨_, healthy_empty, .start _ _⟩
  | @seed db d _ ih =>
    obtain ⟨l, hl, hReachable⟩ := ih
    obtain ⟨⟨l', hl'⟩, hRefused⟩ := hl.seed d
    by_cases hAnswer : (Database.seed d db).1 = .ok ()
    · have hSeeded : db.seeded d = .ok (Database.seed d db).2 := by
        rw [Database.seed, Action.transaction] at hAnswer ⊢
        cases hDone : db.seeded d with
        | ok db' => rfl
        | error e =>
          rw [hDone] at hAnswer
          exact nomatch hAnswer
      obtain ⟨-, hFresh, hAll⟩ := seeded_eq_ok hSeeded
      obtain rfl := hl.unseeded hFresh
      -- the data that is held starts a ledger, and a database keeps one ledger only
      obtain ⟨_, _, -, -, -, hKeeps⟩ := (insertAll_holds hAll).keeps
      obtain rfl := hl'.keeps.unique hKeeps
      exact ⟨_, hl', .start _ _⟩
    · rw [hRefused hAnswer]
      exact ⟨l, hl, hReachable⟩
  | @call db c _ ih =>
    obtain ⟨l, hl, hReachable⟩ := ih
    obtain ⟨l', -, hl'⟩ := hl.answer c
    by_cases hCall : c.IsGrounded l
    · have hKeeps : (Repository.answer c db).2.Keeps (l.answer c).2 := by
        rw [hl.keeps.answer hCall]
        exact hl.keeps.withLedger ((Ledger.IsLike.refl l).answer c)
      obtain rfl := hl'.keeps.unique hKeeps
      exact ⟨_, hl', .call c hReachable⟩
    · rw [hl.keeps.answer_of_not_grounded hCall]
      exact ⟨l, hl, hReachable⟩

theorem exists_healthy_of_seed {db : Database} {d : ReferenceData}
    (hSeed : seed d empty = (.ok (), db)) : ∃ l, db.Healthy l := by
  have hReach := Reachable.seed d .empty
  rw [hSeed] at hReach
  exact hReach.healthy

end Database

/-! ## A hamlet -/

/-- The least reference data with which somebody can be in somebody's way: one section and two
representatives. -/
def ReferenceData.hamlet : ReferenceData where
  territory :=
    { regions := [⟨1, "Lazio"⟩]
      provinces := [⟨1, 1, "Roma", "RM"⟩]
      municipalities := [⟨1, 1, "Nemi", false⟩]
      districts := []
      sections := [⟨1, 1, "Scuola", "Via Roma 1", 1, none, true, 500⟩] }
  representatives :=
    [⟨1, "Anna", "anna@example.org", none, 1, none, "", none⟩,
      ⟨2, "Bruno", "bruno@example.org", none, 1, none, "", none⟩]

/-- A hamlet with five sections. -/
def ReferenceData.village : ReferenceData :=
  let schoolRoom (number : Nat) : PollingSection :=
    ⟨number, number, "Scuola", "Via Roma 1", 1, none, true, 500⟩
  { hamlet with
    territory := { hamlet.territory with sections := [1, 2, 3, 4, 5].map schoolRoom } }

/-- The ledger of the hamlet, without assignments. -/
def Ledger.hamlet : Ledger :=
  .start (.ofData ReferenceData.hamlet.territory) ReferenceData.hamlet.representatives

/-- The database of the hamlet, without assignments. -/
def Database.hamlet : Database := (Database.seed .hamlet .empty).2

theorem Database.reachable_hamlet : Reachable hamlet := .seed .hamlet .empty

end PollRoster
