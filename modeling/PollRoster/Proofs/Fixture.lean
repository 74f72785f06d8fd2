import PollRoster.Proofs.Database.Restoring
import PollRoster.Service

/-!
# Whose fault a refused load is

Reference data is sent as a text and loaded by the service. A text that is no reference data, data
that is not valid and data that comes too late are told as faults of the caller. Validation is meant
to find whatever the tables would refuse, and of most rules it does; but it looks neither at the
numbers of districts and sections nor for districts that are listed twice. Data with such a fault
reaches the tables, and their refusal is told as a failure of the service itself.

Main results:

* `ReferenceData.Fits.breaksRule_iff` — the rules of the tables that validation does not know.
* `loadFixture_outcome` — what a load answers, and why.
-/

namespace PollRoster

/-! ## Rules of the tables that validation does not know -/

namespace ReferenceData

/-- Whether all numbers fit into their columns. -/
structure Fits (d : ReferenceData) : Prop where
  districts : ∀ x ∈ d.territory.districts, x.Fits
  sections : ∀ s ∈ d.territory.sections, s.Fits
  representatives : ∀ r ∈ d.representatives, r.Fits

theorem Fits.not_overflows {d : ReferenceData} (h : d.Fits) : ¬d.Overflows := by
  rintro (⟨x, hx, hLarge⟩ | ⟨-, s, hs, hLarge⟩)
  · exact hLarge (h.districts x hx.mem)
  · exact hLarge (h.sections s hs.mem)

/-- The rules of the tables that validation does not know. -/
structure ObeysTables (d : ReferenceData) : Prop where
  districtNumbers : ∀ x ∈ d.territory.districts, 0 < x.number
  districtKeys : (d.territory.districts.map District.key).Nodup
  sectionNumbers : ∀ s ∈ d.territory.sections, 0 < s.number

theorem Fits.storable_iff {d : ReferenceData} (h : d.Fits) : d.Storable ↔ d.ObeysTables := by
  constructor
  · rintro ⟨hDistricts, hSections⟩
    exact ⟨hDistricts.positive, hDistricts.keys, hSections.positive⟩
  · rintro ⟨hNumbers, hKeys, hSections⟩
    exact ⟨⟨h.districts, hNumbers, hKeys⟩, ⟨h.sections, hSections⟩⟩

/-- Consistent data is storable, or the first record refused tells why it is not. -/
theorem Consistent.cases {d : ReferenceData} (h : d.Consistent) :
    d.Storable ∨ d.BreaksRule ∨ d.Overflows := by
  rcases Database.insertAll_outcome h with ⟨hStorable, -⟩ | ⟨hBreaks, -⟩ | ⟨hOverflows, -⟩
  · exact .inl hStorable
  · exact .inr (.inl hBreaks)
  · exact .inr (.inr hOverflows)

/-- **What validation misses.** Valid data that fits is stopped by the tables if and only if it
breaks a rule that they alone know. -/
theorem Fits.breaksRule_iff {d : ReferenceData} (h : d.Fits) (hValid : d.validate = .ok ()) :
    d.BreaksRule ↔ ¬d.ObeysTables := by
  rw [← h.storable_iff]
  constructor
  · exact fun hBreaks => hBreaks.not_storable
  · intro hNot
    rcases (validate_consistent hValid).cases with hStorable | hBreaks | hOverflows
    · exact absurd hStorable hNot
    · exact hBreaks
    · exact absurd hOverflows h.not_overflows

end ReferenceData

namespace Service

/-! ## What a load answers -/

/-- Whether a load is refused as a fault of the caller: the data is bad, or there is some
already. -/
def IsFixtureFault (e : ServiceError) : Prop :=
  (∃ reason, e = .invalidInput "fixture" reason) ∨
    ∃ reason, e = .ruleViolation "reference_data_loaded_once" reason

theorem not_isFixtureFault_internal {reason : String} : ¬IsFixtureFault (.internal reason) := by
  rintro (⟨_, h⟩ | ⟨_, h⟩) <;> cases h

variable {text : String} {d : ReferenceData} {e : Engine Database}

theorem loadFixture_of_none (h : ReferenceData.ofText? text = none) (e : Engine Database) :
    loadFixture text e = (.error (.invalidInput "fixture" "the text is no reference data"), e) := by
  rw [loadFixture, h]

/-- Once the text is read, the answer of the database decides. -/
theorem loadFixture_of_refused (h : ReferenceData.ofText? text = some d) {reason : StorageError}
    (hSeed : Database.seed d e.repository = (.error reason, e.repository)) :
    loadFixture text e = (.error (.ofStorage reason), e) := by
  rw [loadFixture, h]
  dsimp only
  rw [hSeed]

theorem loadFixture_of_taken (h : ReferenceData.ofText? text = some d) {db : Database}
    (hSeed : Database.seed d e.repository = (.ok (), db)) :
    loadFixture text e = (.ok d, { e with repository := db, cache := .empty }) := by
  rw [loadFixture, h]
  dsimp only
  rw [hSeed]

/-- Whether a text stands for valid data that gets as far as the tables. -/
def ReachesTables (text : String) (db : Database) (d : ReferenceData) : Prop :=
  ReferenceData.ofText? text = some d ∧ d.validate = .ok () ∧ db.isSeeded = false

theorem ReachesTables.unique {db : Database} {d' : ReferenceData} (h : ReachesTables text db d)
    (h' : ReachesTables text db d') : d = d' :=
  Option.some.inj (h.1.symm.trans h'.1)

/-- A load ends in one of three ways: before the tables or with a number too large for them, with a
broken rule of a table, or with all of the data stored. -/
theorem loadFixture_cases (text : String) (hRows : e.repository.HasParents) :
    ((∀ d, ReachesTables text e.repository d → d.Overflows) ∧
      ∃ error, loadFixture text e = (.error error, e) ∧ IsFixtureFault error) ∨
    (∃ d, ReachesTables text e.repository d ∧ d.BreaksRule ∧
      ∃ reason, loadFixture text e = (.error (.internal reason), e)) ∨
    ∃ d, ReachesTables text e.repository d ∧ d.Storable ∧ ∃ db,
      loadFixture text e = (.ok d, { e with repository := db, cache := .empty }) := by
  cases hText : ReferenceData.ofText? text with
  | none =>
    refine .inl ⟨fun d hReaches => ?_, _, loadFixture_of_none hText e, .inl ⟨_, rfl⟩⟩
    have hSome := hReaches.1
    rw [hText] at hSome
    cases hSome
  | some d =>
    cases hValid : d.validate with
    | error reason =>
      have hSeed := Database.seed_of_invalid hValid e.repository
      refine .inl ⟨fun d' hReaches => ?_, _, loadFixture_of_refused hText hSeed, .inl ⟨_, rfl⟩⟩
      have hValid' := hReaches.2.1
      rw [← Option.some.inj (hText.symm.trans hReaches.1), hValid] at hValid'
      cases hValid'
    | ok u =>
      cases hSeeded : e.repository.isSeeded with
      | true =>
        have hSeed := Database.seed_of_seeded hValid hSeeded
        refine .inl ⟨fun d' hReaches => ?_, _, loadFixture_of_refused hText hSeed, .inr ⟨_, rfl⟩⟩
        have hUnseeded := hReaches.2.2
        rw [hSeeded] at hUnseeded
        cases hUnseeded
      | false =>
        have hReaches : ReachesTables text e.repository d := ⟨hText, hValid, hSeeded⟩
        -- without regions there are no rows at all, so the load meets no key that is taken
        rcases (hRows.isBlank hSeeded).seed_outcome hValid with
          ⟨hStorable, _, -, hSeed⟩ | ⟨hBreaks, _, hSeed⟩ | ⟨hOverflows, _, hSeed⟩
        · exact .inr (.inr ⟨d, hReaches, hStorable, _, loadFixture_of_taken hText hSeed⟩)
        · exact .inr (.inl ⟨d, hReaches, hBreaks, _, loadFixture_of_refused hText hSeed⟩)
        · refine .inl ⟨fun d' hReaches' => ?_, _, loadFixture_of_refused hText hSeed,
            .inl ⟨_, rfl⟩⟩
          rwa [← hReaches.unique hReaches']

/-- **Whose fault a refused load is.** Where every row has its parents, a load that is refused
leaves everything as it was. It is refused as a fault of the caller, unless the text stands for
valid data, none was loaded before, and the first record that the tables refuse fits into its
columns: then, and only then, it is told as a failure of the service. Of valid data whose numbers
fit, that is data which breaks a rule that the tables alone know; all other such data is stored. -/
theorem loadFixture_outcome (text : String) (hRows : e.repository.HasParents) :
    (∀ error, (loadFixture text e).1 = .error error → (loadFixture text e).2 = e ∧
      (IsFixtureFault error ∨ ∃ reason, error = .internal reason)) ∧
    ((∃ reason, (loadFixture text e).1 = .error (.internal reason)) ↔
      ∃ d, ReachesTables text e.repository d ∧ d.BreaksRule) ∧
    (∀ d, (loadFixture text e).1 = .ok d ↔ ReachesTables text e.repository d ∧ d.Storable) ∧
    (∀ d, ReachesTables text e.repository d → d.Fits →
      (d.Storable ↔ d.ObeysTables) ∧ (d.BreaksRule ↔ ¬d.ObeysTables)) := by
  refine ⟨?_, ?_, ?_, fun d hReaches hFits =>
    ⟨hFits.storable_iff, hFits.breaksRule_iff hReaches.2.1⟩⟩
  -- a text stands for one data at most, so an answer belongs to one of the three endings
  · intro error hError
    rcases loadFixture_cases text hRows with
      ⟨-, error', hLoad, hFault⟩ | ⟨d, -, -, reason, hLoad⟩ | ⟨d, -, -, db, hLoad⟩
    · rw [hLoad] at hError ⊢
      rw [← Except.error.inj hError]
      exact ⟨rfl, .inl hFault⟩
    · rw [hLoad] at hError ⊢
      exact ⟨rfl, .inr ⟨reason, (Except.error.inj hError).symm⟩⟩
    · rw [hLoad] at hError
      cases hError
  · constructor
    · rintro ⟨reason, hError⟩
      rcases loadFixture_cases text hRows with
        ⟨-, error', hLoad, hFault⟩ | ⟨d, hReaches, hBreaks, -⟩ | ⟨d, -, -, db, hLoad⟩
      · rw [hLoad] at hError
        obtain rfl := Except.error.inj hError
        exact absurd hFault not_isFixtureFault_internal
      · exact ⟨d, hReaches, hBreaks⟩
      · rw [hLoad] at hError
        cases hError
    · rintro ⟨d, hReaches, hBreaks⟩
      rcases loadFixture_cases text hRows with
        ⟨hOverflows, -⟩ | ⟨_, -, -, reason, hLoad⟩ | ⟨d', hReaches', hStorable, -⟩
      · exact absurd (hOverflows d hReaches) hBreaks.not_overflows
      · exact ⟨reason, by rw [hLoad]⟩
      · rw [← hReaches.unique hReaches'] at hStorable
        exact absurd hStorable hBreaks.not_storable
  · intro d
    constructor
    · intro hAnswer
      rcases loadFixture_cases text hRows with
        ⟨-, _, hLoad, -⟩ | ⟨_, -, -, _, hLoad⟩ | ⟨d', hReaches, hStorable, _, hLoad⟩
      · rw [hLoad] at hAnswer
        cases hAnswer
      · rw [hLoad] at hAnswer
        cases hAnswer
      · rw [hLoad] at hAnswer
        rw [← Except.ok.inj hAnswer]
        exact ⟨hReaches, hStorable⟩
    · rintro ⟨hReaches, hStorable⟩
      rcases loadFixture_cases text hRows with
        ⟨hOverflows, -⟩ | ⟨d', hReaches', hBreaks, -⟩ | ⟨d', hReaches', -, _, hLoad⟩
      · exact absurd hStorable (hOverflows d hReaches).not_storable
      · rw [← hReaches.unique hReaches'] at hBreaks
        exact absurd hStorable hBreaks.not_storable
      · rw [hLoad, hReaches.unique hReaches']

/-! ## A district that is listed twice -/

/-- The text of a town that lists one district under two names. -/
def twiceListed : String :=
  "\x7b\"regions\":[\x7b\"id\":1,\"name\":\"Lazio\"\x7d]," ++
  "\"provinces\":[\x7b\"id\":1,\"region_id\":1,\"name\":\"Roma\",\"code\":\"RM\"\x7d]," ++
  "\"municipalities\":[\x7b\"id\":1,\"province_id\":1,\"name\":\"Velletri\"," ++
  "\"is_districted\":true\x7d]," ++
  "\"districts\":[\x7b\"municipality_id\":1,\"number\":1,\"name\":\"Centro\"\x7d," ++
  "\x7b\"municipality_id\":1,\"number\":1,\"name\":\"Colle\"\x7d]\x7d"

/-- The data of that text. -/
def twiceListedData : ReferenceData where
  territory :=
    { regions := [⟨1, "Lazio"⟩]
      provinces := [⟨1, 1, "Roma", "RM"⟩]
      municipalities := [⟨1, 1, "Velletri", true⟩]
      districts := [⟨1, 1, "Centro"⟩, ⟨1, 1, "Colle"⟩]
      sections := [] }
  representatives := []

theorem reachesTables_twiceListed : ReachesTables twiceListed .empty twiceListedData :=
  ⟨by decide +kernel, rfl, rfl⟩

theorem fits_twiceListedData : twiceListedData.Fits where
  districts := by
    intro x hx
    simp only [twiceListedData, List.mem_cons, List.not_mem_nil, or_false] at hx
    rcases hx with rfl | rfl <;> decide
  sections := fun s hs => (List.not_mem_nil hs).elim
  representatives := fun r hr => (List.not_mem_nil hr).elim

theorem not_obeysTables_twiceListedData : ¬twiceListedData.ObeysTables := fun h =>
  absurd h.districtKeys (by decide)

/-- The table of districts has one row for each key. -/
theorem seed_twiceListedData :
    Database.seed twiceListedData .empty =
      (.error (.database ("UNIQUE constraint failed: districts.municipality_id, " ++
        "districts.number")), .empty) := by
  rfl

theorem loadFixture_twiceListed :
    (loadFixture twiceListed (Engine.start .empty)).1 =
      .error (.internal ("Database error: UNIQUE constraint failed: " ++
        "districts.municipality_id, districts.number")) := by
  have hText := reachesTables_twiceListed.1
  rw [loadFixture_of_refused hText seed_twiceListedData]
  rfl

/-- Its caller is not told that his data is at fault, though it is. -/
theorem twiceListed_is_internal :
    twiceListedData.validate = .ok () ∧ twiceListedData.Fits ∧ ¬twiceListedData.ObeysTables ∧
      (loadFixture twiceListed (Engine.start .empty)).1 =
        .error (.internal ("Database error: UNIQUE constraint failed: " ++
          "districts.municipality_id, districts.number")) :=
  ⟨rfl, fits_twiceListedData, not_obeysTables_twiceListedData,
    loadFixture_twiceListed⟩

/-- The table of districts is the one that stops the load. -/
theorem loadFixture_outcome_twiceListed :
    Database.empty.HasParents ∧ twiceListedData.BreaksRule ∧
      (loadFixture twiceListed (Engine.start .empty)).2 = Engine.start .empty := by
  have hRows : (Engine.start Database.empty).repository.HasParents :=
    Database.Reachable.empty.hasParents
  obtain ⟨hRefused, -, -, hRules⟩ := loadFixture_outcome twiceListed hRows
  obtain ⟨-, hBreaks⟩ := hRules twiceListedData reachesTables_twiceListed fits_twiceListedData
  exact ⟨hRows, hBreaks.mpr not_obeysTables_twiceListedData,
    (hRefused _ loadFixture_twiceListed).1⟩

end Service

end PollRoster
