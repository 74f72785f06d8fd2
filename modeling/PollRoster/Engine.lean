import PollRoster.Action
import PollRoster.Assigning
import PollRoster.Availability
import PollRoster.Hierarchy
import PollRoster.Selection

/-!
# The engine

A repository of any kind with the counter cache beside it. Programs are run over the repository, and
the cache takes notice of what they announce. Reading goes through a snapshot.

* `Engine.perform` runs a program.
* `Engine.view` answers the view of a scope.
* `Engine.search` lists representatives, `Engine.analyze` reads a preference.
* `Engine.commit` assigns a selection and shows its scope with fresh counters.
-/

namespace PollRoster

structure Engine (ρ : Type) where
  repository : ρ
  cache : CounterCache
  /-- What was announced so far, in order. -/
  log : List Event

/-- A slot that a representative holds. -/
structure HeldSlot where
  assignmentId : Int
  sectionId : Int
  sectionNumber : Nat
  buildingName : String
  role : Role
  deriving DecidableEq, Repr

structure RepresentativeSummary where
  representative : Representative
  /-- The number of slots, those of unknown sections included. -/
  sectionsHeld : Nat
  /-- The slots of known sections. -/
  held : List HeldSlot
  deriving DecidableEq, Repr

namespace Snapshot

/-- Whether a representative is listed in a scope. Who declared no district is listed in every
district of the municipality. -/
def declaredWithin (s : Snapshot) (scope : Scope) (r : Representative) : Bool :=
  let scope := if r.district.isNone then { scope with district := none } else scope
  s.territory.placeInScope r.municipalityId r.district scope

def summary (s : Snapshot) (slots : SlotTable) (r : Representative) : RepresentativeSummary :=
  let held := slots.heldBy r.id
  { representative := r
    sectionsHeld := held.length
    held := held.filterMap fun a =>
      (s.territory.section? a.sectionId).map fun x =>
        ⟨a.id, x.id, x.number, x.buildingName, a.role⟩ }

/-- Representatives are listed by name in lower case, then by identifier. -/
def compareSummaries : RepresentativeSummary → RepresentativeSummary → Ordering :=
  compareLex (compareOn fun s => Text.toLower s.representative.fullName)
    (compareOn fun s => s.representative.id)

/-- The needle of a search: none when it is blank. -/
def needle? (filter : Option String) : Option String :=
  (filter.map Text.trim).filter (!·.isEmpty)

/-- The representatives listed in a scope whose name or email contains the needle. -/
def search (s : Snapshot) (scope : Scope) (filter : Option String) :
    Except OperationError (List RepresentativeSummary) :=
  match s.territory.resolve scope with
  | .error e => .error (.ofScope e)
  | .ok resolved =>
    let slots := s.slots
    -- a missing needle is contained in everything
    let found := s.representatives.filter fun r =>
      s.declaredWithin resolved r && (needle? filter).all r.matchesText
    .ok (sortBy compareSummaries (found.map (s.summary slots)))

/-- The place that a representative declared. -/
def placeOf (r : Representative) : Scope := .ofPlace r.municipalityId r.district

/-- A preference text matched with the active sections of the declared place; without a text, the
recorded preference. -/
def analyze (s : Snapshot) (representativeId : Int) (text : Option String) :
    Except OperationError PreferenceMatch :=
  match s.representative? representativeId with
  | none => .error (.notFound "Representative" representativeId)
  | some r =>
    .ok ((Preference.read (text.getD r.preference)).matchSections (s.activeSections (placeOf r))
      s.slots representativeId)

end Snapshot

namespace Engine

variable {ρ : Type}

def start (repository : ρ) : Engine ρ := ⟨repository, .empty, []⟩

/-- The counters of the cache after the announcements of a program. -/
def afterEvents (e : Engine ρ) (repository : ρ) (events : List Event) : Engine ρ :=
  ⟨repository, events.foldl CounterCache.notice e.cache, e.log ++ events⟩

/-- What an engine does: it answers or fails, and stays as it is left. -/
abbrev Step (ρ α : Type) := Action (Engine ρ) OperationError α

variable [Repository ρ]

/-- Runs a program; it sees the operator's cancellation as `stop` says. -/
def perform (p : Program α) (stop : Cancellation) : Step ρ α := fun e =>
  let trace := p.run stop 0 e.repository
  (trace.result, e.afterEvents trace.repository trace.events)

def run (p : Program α) : Step ρ α := perform p none

/-- Announces that counters of scopes related to this one are out of date. -/
def invalidate (scope : Scope) : Step ρ Unit := run (Program.tell (.invalidated scope))

def view (scope : Scope) : Step ρ View := do
  let snapshot ← run Snapshot.load
  fun e =>
    let (answer, cache) := snapshot.view scope e.cache
    (answer, { e with cache := cache })

/-- The counters of a scope as it is given, from the cache when it has them. -/
def counters (scope : Scope) : Step ρ Counters := do
  let snapshot ← run Snapshot.load
  fun e =>
    let (counters, cache) := e.cache.fetch scope snapshot.count
    (.ok counters, { e with cache := cache })

def search (scope : Scope) (filter : Option String) : Step ρ (List RepresentativeSummary) := do
  let snapshot ← run Snapshot.load
  Action.ofExcept (snapshot.search scope filter)

/-- Matches a preference with the sections where the representative may serve. -/
def analyze (representativeId : Int) (text : Option String) : Step ρ PreferenceMatch := do
  let snapshot ← run Snapshot.load
  Action.ofExcept (snapshot.analyze representativeId text)

def resolve (scope : Scope) : Step ρ Scope := do
  let territory ← run (Program.ask .territory)
  match territory.resolve scope with
  | .ok resolved => return resolved
  | .error e => Action.fail (.ofScope e)

def scopeOfSection (sectionId : Int) : Step ρ Scope := do
  let territory ← run (Program.ask .territory)
  match territory.section? sectionId with
  | none => Action.fail (.notFound "Section" sectionId)
  | some s =>
    match territory.resolve (.ofPlace s.municipalityId s.district) with
    | .ok resolved => return resolved
    | .error e => Action.fail (.ofScope e)

/-- The place that a representative declared. -/
def scopeOfRepresentative (representativeId : Int) : Step ρ Scope := do
  match ← run (Program.ask (.representative representativeId)) with
  | none => Action.fail (.notFound "Representative" representativeId)
  | some r => resolve (Snapshot.placeOf r)

/-! ## Committing a selection -/

/-- A bulk report with the view of the selection's scope afterwards. -/
structure Commit where
  report : BulkReport
  view : View

/-- Assigns a representative to the selected sections. Once the batch has run the selection is
cleared and its scope shown with fresh counters; a batch that fails leaves the selection. -/
def commit (representativeId : Int) (role : Role) (stop : Cancellation) :
    Action (Selection × Engine ρ) OperationError Commit := fun (selection, e) =>
  if selection.isEmpty then (.error Assigning.emptySelection, (selection, e))
  else
    match perform (Assigning.bulkAssign representativeId selection.sectionIds role) stop e with
    | (.error error, e) => (.error error, (selection, e))
    | (.ok report, e) =>
      -- the slots are filled, whatever becomes of the view
      let reload : Step ρ View := do
        invalidate selection.scope
        view selection.scope
      match reload e with
      | (.error error, e) => (.error error, (selection.clear, e))
      | (.ok view, e) => (.ok ⟨report, view⟩, (selection.clear, e))

end Engine

end PollRoster
