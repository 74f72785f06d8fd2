import PollRoster.Proofs.Actions
import PollRoster.Proofs.Engine
import PollRoster.Proofs.Relisting

/-!
# Back ends

An engine may rest on the ledger in memory or on the database. Loaded with the same reference data,
listed in ascending order, the two cannot be told apart: whatever an engine is asked, and whenever
the operator cancels, both answer the same and announce the same.

`Mirrors` is what the two engines have in common all along. The database keeps the ledger in memory
but for the order of the representatives, and the caches are one.

Main results:

* `alike_operate` — every operation goes alike over both back ends.
* `transcript_of_mirrors` — so does every sequence of operations.
* `transcript_seeded` — engines that start from the same ascending data stay alike.
-/

namespace PollRoster

namespace Engine

/-! ## Operations -/

/-- What an engine can be asked for. -/
inductive Operation where
  /-- The operator may cancel a command while it is executed. -/
  | command (c : Command) (stop : Cancellation)
  | view (scope : Scope)
  | search (scope : Scope) (filter : Option String)
  | analyze (representativeId : Int) (text : Option String)
  | scopeOfSection (sectionId : Int)
  | scopeOfRepresentative (representativeId : Int)
  | resolve (scope : Scope)

/-- What an operation answers. -/
inductive Outcome where
  | executed (outcome : CommandOutcome)
  | shown (view : View)
  | listed (summaries : List RepresentativeSummary)
  | matched (found : PreferenceMatch)
  | placed (scope : Scope)

/-- What an engine answered to an operation, and what it has announced until then. -/
structure Entry where
  result : Except OperationError Outcome
  log : List Event

section Operations

variable {ρ : Type} [Repository ρ]

def operate : Operation → Step ρ Outcome
  | .command c stop => return .executed (← perform c.execute stop)
  | .view scope => return .shown (← view scope)
  | .search scope filter => return .listed (← search scope filter)
  | .analyze representativeId text => return .matched (← analyze representativeId text)
  | .scopeOfSection sectionId => return .placed (← scopeOfSection sectionId)
  | .scopeOfRepresentative representativeId =>
    return .placed (← scopeOfRepresentative representativeId)
  | .resolve scope => return .placed (← resolve scope)

/-- What an engine answers and announces when it is asked for one operation after another, those
that fail included. -/
def transcript : List Operation → Engine ρ → List Entry
  | [], _ => []
  | operation :: rest, e =>
    let (result, e) := operate operation e
    ⟨result, e.log⟩ :: transcript rest e

end Operations

/-! ## Two engines -/

/-- Whether an engine over a database stands for one over a ledger: the database keeps the ledger,
though perhaps with the representatives in another order. -/
structure Mirrors (e : Engine Ledger) (e' : Engine Database) : Prop where
  repository : ∃ rs, SameRoll rs e.repository.representatives ∧
    e'.repository.Healthy (e.repository.relisted rs)
  cache : e'.cache = e.cache
  log : e'.log = e.log

/-- Whether a step gives the same answer over both back ends, and leaves engines that mirror each
other if it finds such. -/
def Alike (x : Step Ledger α) (x' : Step Database α) : Prop :=
  ∀ e e', Mirrors e e' → (x e).1 = (x' e').1 ∧ Mirrors (x e).2 (x' e').2

theorem alike_pure (a : α) : Alike (pure a) (pure a) := tracks_pure a

theorem alike_fail (error : OperationError) :
    Alike (Action.fail error : Step Ledger α) (Action.fail error) :=
  tracks_fail error

theorem alike_ofExcept (x : Except OperationError α) :
    Alike (Action.ofExcept x) (Action.ofExcept x) :=
  tracks_ofExcept x

theorem Alike.bind {x : Step Ledger α} {x' : Step Database α} {f : α → Step Ledger β}
    {f' : α → Step Database β} (hFirst : Alike x x') (hThen : ∀ a, Alike (f a) (f' a)) :
    Alike (x >>= f) (x' >>= f') :=
  Tracks.bind hFirst hThen

/-! ## Programs -/

/-- A careful program that does not read the list of the representatives. -/
theorem alike_perform {p : Program α} {post : α → Prop} (hAsks : p.Asks (· ≠ .representatives))
    (hCareful : ∀ base, p.IsCareful base post) (stop : Cancellation) :
    Alike (perform p stop) (perform p stop) := by
  rintro e e' ⟨⟨rs, hRoll, hHealthy⟩, hCache, hLog⟩
  obtain ⟨hDatabase, hAfter⟩ := hHealthy.run (hCareful _) stop 0
  -- over the database as over the ledger that it keeps, and over that as over the one in memory
  have hLike : e.repository.IsLike (p.run stop 0 e.repository).repository :=
    p.run_isLike stop 0 (.refl _)
  rw [hAsks.run_relisted hRoll stop 0 (.refl _)] at hDatabase hAfter
  rw [← hLike.2] at hRoll
  rw [perform, perform, hDatabase]
  refine ⟨rfl, ⟨rs, hRoll, hAfter⟩, ?_, ?_⟩
  · exact congrArg (List.foldl CounterCache.notice · _) hCache
  · exact congrArg (· ++ _) hLog

theorem alike_ask {c : RepositoryCall} (hCall : ∀ base, c.IsGrounded base)
    (hOther : c ≠ .representatives) :
    Alike (run (Program.ask c)) (run (Program.ask c)) :=
  alike_perform (Program.asks_ask hOther) (fun base => Program.ask_careful (hCall base)) none

/-- What reads a snapshot goes alike, if it does so over snapshots that differ in the order of the
representatives only. -/
theorem alike_read {f : Snapshot → Step Ledger α} {f' : Snapshot → Step Database α}
    (hThen : ∀ s rs, SameRoll rs s.representatives → Alike (f s) (f' (s.relisted rs))) :
    Alike (run Snapshot.load >>= f) (run Snapshot.load >>= f') := by
  intro e e' h
  obtain ⟨rs, hRoll, hHealthy⟩ := h.repository
  have hMemory : run Snapshot.load e = (.ok e.repository.snapshot, e) := by
    have hLog : e.log ++ [] = e.log := List.append_nil _
    exact Prod.ext rfl (congrArg (Engine.mk e.repository e.cache) hLog)
  have hDatabase : run Snapshot.load e' = (.ok (e.repository.snapshot.relisted rs), e') :=
    run_load hHealthy
  rw [Action.bind_of_ok hMemory, Action.bind_of_ok hDatabase]
  exact hThen _ rs hRoll e e' h

/-! ## Reading -/

theorem alike_view (scope : Scope) : Alike (view scope) (view scope) := by
  refine alike_read fun s rs hRoll e e' h => ?_
  rw [s.view_relisted hRoll, h.cache]
  exact ⟨rfl, h.repository, rfl, h.log⟩

theorem alike_search (scope : Scope) (filter : Option String) :
    Alike (search scope filter) (search scope filter) := by
  refine alike_read fun s rs hRoll => ?_
  rw [s.search_relisted hRoll]
  exact alike_ofExcept _

theorem alike_analyze (representativeId : Int) (text : Option String) :
    Alike (analyze representativeId text) (analyze representativeId text) := by
  refine alike_read fun s rs hRoll => ?_
  rw [s.analyze_relisted hRoll]
  exact alike_ofExcept _

theorem alike_resolve (scope : Scope) : Alike (resolve scope) (resolve scope) := by
  refine (alike_ask (c := .territory) (fun _ => trivial) nofun).bind fun territory => ?_
  cases territory.resolve scope with
  | ok path => exact alike_pure path
  | error e => exact alike_fail _

theorem alike_scopeOfSection (sectionId : Int) :
    Alike (scopeOfSection sectionId) (scopeOfSection sectionId) := by
  refine (alike_ask (c := .territory) (fun _ => trivial) nofun).bind fun territory => ?_
  cases territory.section? sectionId with
  | none => exact alike_fail _
  | some x =>
    dsimp only
    cases territory.resolve (.ofPlace x.municipalityId x.district) with
    | ok path => exact alike_pure path
    | error e => exact alike_fail _

theorem alike_scopeOfRepresentative (representativeId : Int) :
    Alike (scopeOfRepresentative representativeId) (scopeOfRepresentative representativeId) := by
  refine (alike_ask (c := .representative _) (fun _ => trivial) nofun).bind fun found => ?_
  cases found with
  | none => exact alike_fail _
  | some r => exact alike_resolve _

/-- **Operations.** Each goes alike over both back ends. -/
theorem alike_operate (operation : Operation) : Alike (operate operation) (operate operation) := by
  cases operation with
  | command c stop =>
    exact (alike_perform c.execute_asks (fun _ => c.execute_careful) stop).bind
      fun _ => alike_pure _
  | view scope => exact (alike_view scope).bind fun _ => alike_pure _
  | search scope filter => exact (alike_search scope filter).bind fun _ => alike_pure _
  | analyze representativeId text =>
    exact (alike_analyze representativeId text).bind fun _ => alike_pure _
  | scopeOfSection sectionId => exact (alike_scopeOfSection sectionId).bind fun _ => alike_pure _
  | scopeOfRepresentative representativeId =>
    exact (alike_scopeOfRepresentative representativeId).bind fun _ => alike_pure _
  | resolve scope => exact (alike_resolve scope).bind fun _ => alike_pure _

/-! ## Sequences of operations -/

theorem transcript_of_mirrors {e : Engine Ledger} {e' : Engine Database} (h : Mirrors e e')
    (operations : List Operation) : transcript operations e = transcript operations e' := by
  -- each operation leaves engines that mirror each other, so the rest may start from them
  induction operations generalizing e e' with
  | nil => rfl
  | cons operation rest ih =>
    obtain ⟨hResult, hMirrors⟩ := alike_operate operation e e' h
    have hEntry : Entry.mk (operate operation e).1 (operate operation e).2.log =
        ⟨(operate operation e').1, (operate operation e').2.log⟩ := by
      rw [hResult, hMirrors.log]
    rw [transcript, transcript]
    exact congrArg₂ List.cons hEntry (ih hMirrors)

theorem mirrors_start {db : Database} {d : ReferenceData}
    (hSeed : Database.seed d .empty = (.ok (), db)) (hAscending : d.territory.IsAscending) :
    Mirrors (start (.start (.ofData d.territory) d.representatives)) (start db) := by
  obtain ⟨rs, hPerm, hHealthy⟩ := Database.healthy_of_seed hSeed hAscending
  exact ⟨⟨rs, ⟨hPerm, hHealthy.sound.representatives.ids⟩, hHealthy⟩, rfl, rfl⟩

/-- **Back ends.** Where the database accepts reference data that is listed in ascending order, an
engine over it and one over the ledger of the same data answer and announce the same in every
sequence of operations, whatever is asked for and whenever the operator cancels. The identifiers of
the assignments that are made are part of both. -/
theorem transcript_seeded {db : Database} {d : ReferenceData}
    (hSeed : Database.seed d .empty = (.ok (), db)) (hAscending : d.territory.IsAscending)
    (operations : List Operation) :
    transcript operations (start (Ledger.start (.ofData d.territory) d.representatives)) =
      transcript operations (start db) :=
  transcript_of_mirrors (mirrors_start hSeed hAscending) operations

end Engine

/-! ## A village with its representatives out of order -/

/-- The village with its representatives listed the other way round. -/
def ReferenceData.turnedVillage : ReferenceData :=
  { village with representatives := hamlet.representatives.reverse }

def Ledger.turnedVillage : Ledger :=
  .start (.ofData ReferenceData.turnedVillage.territory) ReferenceData.turnedVillage.representatives

def Database.turnedVillage : Database := (Database.seed .turnedVillage .empty).2

namespace Engine

/-- A slot that is filled and vacated, a batch that is cancelled at its second assignment, and a
look at who is there. -/
def busyDay : List Operation :=
  [.command (.assign 1 2 .primary) none, .command (.remove 1) none,
    .command (.bulkAssign 1 [1, 2, 3] .primary) (some 2), .search .root none]

/-- The batch goes on counting where the vacated slot left off. -/
theorem transcript_turnedVillage :
    Database.seed .turnedVillage .empty = (.ok (), .turnedVillage) ∧
    ReferenceData.turnedVillage.territory.IsAscending ∧
    transcript busyDay (start Ledger.turnedVillage) =
      transcript busyDay (start Database.turnedVillage) ∧
    (transcript busyDay (start Database.turnedVillage))[2]?.map (·.result) =
      some (.ok (.executed (.bulk
        ⟨1, .primary, [⟨1, .assigned 2⟩, ⟨2, .assigned 3⟩, ⟨3, .cancelled⟩]⟩))) := by
  have hSeed : Database.seed .turnedVillage .empty = (.ok (), .turnedVillage) := by
    decide +kernel
  have hAscending : ReferenceData.turnedVillage.territory.IsAscending := by
    constructor <;> decide
  exact ⟨hSeed, hAscending, transcript_seeded hSeed hAscending busyDay, by rfl⟩

end Engine

end PollRoster
