import PollRoster.Database.Repository
import PollRoster.Database.Seeding
import PollRoster.Engine
import PollRoster.Navigator
import PollRoster.Service.Error

/-!
# The service

The requests that an operator's client makes. Identifiers and roles come unchecked and are checked
before anything is done. A change drops the counters of every scope that it touches: the place of
each section, and the place that the representative declared.

* `Service.Request` and `Service.Reply`: what can be asked and what is answered.
* `Service.handle` answers a request over an engine whose repository is the database.
-/

namespace PollRoster.Service

/-- An answer or failure of the service, and what it leaves behind. -/
abbrev Step (ρ α : Type) := Action (Engine ρ) ServiceError α

variable {ρ : Type} [Repository ρ]

/-- A step of the engine, with its failure in the words of the service. -/
def run (x : Engine.Step ρ α) : Step ρ α := x.mapError ServiceError.ofOperation

/-! ## Checking what was sent -/

def checkId (field : String) (value : Int) : Except ServiceError Unit :=
  match checkIdentifier field value with
  | .ok _ => .ok ()
  | .error e => .error (.ofRule e)

/-- Accepts a missing identifier and the positive ones. -/
def checkId? (field : String) : Option Int → Except ServiceError Unit
  | none => .ok ()
  | some value => checkId field value

/-- Accepts the scopes of positive numbers, and answers the scope itself. -/
def checkScope (s : Scope) : Except ServiceError Scope := do
  require (s.district != some 0) (.invalidInput "district" "District numbers start at 1")
  checkId? "region" s.region
  checkId? "province" s.province
  checkId? "municipality" s.municipality
  return s

def readRole (text : String) : Except ServiceError Role :=
  (Role.ofText text).mapError ServiceError.ofRule

/-! ## Dropping counters -/

def placesOf : List Int → Step ρ (List Scope)
  | [] => return []
  | sectionId :: rest => do
    let place ← run (Engine.scopeOfSection sectionId)
    let places ← placesOf rest
    return place :: places

def invalidateAll : List Scope → Step ρ Unit
  | [] => return ()
  | scope :: rest => do
    run (Engine.invalidate scope)
    invalidateAll rest

/-- Drops the counters that a change to these sections and this representative may have put out of
date. Nothing is dropped unless every place is found. -/
def invalidateTouched (sectionIds : List Int) (representativeId : Int) : Step ρ Unit := do
  let places ← placesOf sectionIds
  let declared ← run (Engine.scopeOfRepresentative representativeId)
  invalidateAll (distinct (places ++ [declared]))

/-! ## Reading -/

def hierarchy (scope : Scope) : Step ρ View := do
  let scope ← Action.ofExcept (checkScope scope)
  run (Engine.view scope)

def representatives (scope : Scope) (filter : Option String) :
    Step ρ (List RepresentativeSummary) := do
  let scope ← Action.ofExcept (checkScope scope)
  run (Engine.search scope filter)

/-- Matches a preference with the sections where the representative may serve. -/
def analyze (representativeId : Int) (text : Option String) : Step ρ PreferenceMatch := do
  Action.ofExcept (checkId "representative" representativeId)
  run (Engine.analyze representativeId text)

/-- Moves from a path and answers the navigator there. -/
def navigate (path : Scope) (action : NavigationAction) (maxAutoSkip : Nat) : Step ρ Navigator := do
  let path ← Action.ofExcept (checkScope path)
  run ((Navigator.startAt path maxAutoSkip).apply Engine.view action)

/-- Drops the counters of scopes related to this one, and answers the scope. -/
def invalidate (scope : Scope) : Step ρ Scope := do
  let scope ← Action.ofExcept (checkScope scope)
  run (Engine.invalidate scope)
  return scope

/-! ## Changing assignments -/

/-- Puts a representative into one slot of one section. -/
def create (sectionId representativeId : Int) (role : String) (stop : Cancellation) :
    Step ρ AssignOutcome := do
  Action.ofExcept (checkId "section" sectionId)
  Action.ofExcept (checkId "representative" representativeId)
  let role ← Action.ofExcept (readRole role)
  let outcome ← run (Engine.perform (Assigning.assign sectionId representativeId role) stop)
  -- whoever held the slot before is counted already
  if outcome.isCreated then
    invalidateTouched [sectionId] representativeId
  return outcome

/-- Takes an assignment away and answers it. -/
def delete (assignmentId : Int) (stop : Cancellation) : Step ρ Assignment := do
  Action.ofExcept (checkId "assignment" assignmentId)
  let removed ← run (Engine.perform (Assigning.remove assignmentId) stop)
  invalidateTouched [removed.sectionId] removed.representativeId
  return removed

/-- Commits a selection that is of no further use. -/
def commit (selection : Selection) (representativeId : Int) (role : Role) (stop : Cancellation) :
    Engine.Step ρ Engine.Commit := fun e =>
  let (answer, _, e) := Engine.commit representativeId role stop (selection, e)
  (answer, e)

/-- Commits a selection; when that fails after some of it may have been written, all counters are
dropped. -/
def commitOrReset (selection : Selection) (representativeId : Int) (role : Role)
    (stop : Cancellation) : Step ρ Engine.Commit := do
  match ← Action.attempt (commit selection representativeId role stop) with
  | .ok committed => return committed
  | .error e => do
    run (Engine.invalidate .root)
    Action.fail (.ofOperation e)

/-- Puts a representative into the same slot of many sections and shows the scope afterwards. -/
def bulkAssign (representativeId : Int) (sectionIds : List Int) (role : String)
    (scope : Option Scope) (stop : Cancellation) : Step ρ BulkAnswer := do
  Action.ofExcept (checkId "representative" representativeId)
  let role ← Action.ofExcept (readRole role)
  let scope ← Action.ofExcept (checkScope (scope.getD .root))
  Action.ofExcept (sectionIds.forM (checkId "section"))
  let scope ← run (Engine.resolve scope)
  let selection := (Selection.start scope).select sectionIds
  let committed ← commitOrReset selection representativeId role stop
  -- the engine has dropped what is related to the scope only, and sections may lie outside of it
  let created := committed.report.items.filter (·.status.isCreated)
  if !created.isEmpty then
    invalidateTouched (created.map (·.sectionId)) representativeId
  let answer : BulkAnswer := ⟨committed.report, some committed.view⟩
  if committed.report.isPartialFailure then Action.fail (.partialFailure answer)
  else return answer

/-! ## Loading reference data -/

/-- Loads reference data from its JSON text into an empty database and forgets all counters. -/
def loadFixture (text : String) : Step Database ReferenceData := fun e =>
  match ReferenceData.ofText? text with
  | none => (.error (.invalidInput "fixture" "the text is no reference data"), e)
  | some data =>
    match Database.seed data e.repository with
    | (.ok (), db) => (.ok data, { e with repository := db, cache := .empty })
    | (.error reason, db) => (.error (.ofStorage reason), { e with repository := db })

/-! ## Requests -/

/-- A request as it was sent, with nothing checked but its form. -/
inductive Request where
  | hierarchy (scope : Scope)
  | representatives (scope : Scope) (filter : Option String)
  | create (sectionId representativeId : Int) (role : String)
  | delete (assignmentId : Int)
  /-- The view of `scope`, or of the root when there is none, is answered with the report. -/
  | bulkAssign (representativeId : Int) (sectionIds : List Int) (role : String)
      (scope : Option Scope)
  | invalidate (scope : Scope)
  /-- Without a text, the recorded preference is read. -/
  | analyze (representativeId : Int) (text : Option String)
  | navigate (path : Scope) (action : NavigationAction)
  | loadFixture (text : String)
  deriving DecidableEq, Repr

/-- What is answered to a request. -/
inductive Reply where
  | view (view : View)
  | representatives (found : List RepresentativeSummary)
  | assigned (outcome : AssignOutcome)
  | removed (assignment : Assignment)
  | bulk (answer : BulkAnswer)
  | invalidated (scope : Scope)
  | analysis (representativeId : Int) (found : PreferenceMatch)
  | moved (navigator : Navigator)
  | loaded (data : ReferenceData)
  deriving DecidableEq, Repr

/-- Answers a request. At most `maxAutoSkip` scopes with a single child are passed at once, and
`stop` says when a change is cancelled. -/
def handle (maxAutoSkip : Nat) (stop : Cancellation) : Request → Step Database Reply
  | .hierarchy scope => return .view (← hierarchy scope)
  | .representatives scope filter => return .representatives (← representatives scope filter)
  | .create sectionId representativeId role =>
    return .assigned (← create sectionId representativeId role stop)
  | .delete assignmentId => return .removed (← delete assignmentId stop)
  | .bulkAssign representativeId sectionIds role scope =>
    return .bulk (← bulkAssign representativeId sectionIds role scope stop)
  | .invalidate scope => return .invalidated (← invalidate scope)
  | .analyze representativeId text =>
    return .analysis representativeId (← analyze representativeId text)
  | .navigate path action => return .moved (← navigate path action maxAutoSkip)
  | .loadFixture text => return .loaded (← loadFixture text)

end PollRoster.Service
