import PollRoster.Proofs.Service

/-!
# Coherence of the cache

A batch shows its scope before the service has dropped what the batch touched. By then the engine
has dropped what is related to that scope, and a view asks for nothing else; so the view is right
all the same.

Main results:

* `leads_commit`, `leads_bulkAssign` — batches.
* `leads_handle` — every request leaves fresh counters, and shows no view but the one shown without
  a cache.
* `cache_coherent` — so does every run of requests over an empty database.
-/

namespace PollRoster.Service

open Engine (Knowledge Yields Leads yields_pure yields_fail yields_perform yields_perform_idle)

variable {k : Knowledge} {α β : Type}

/-! ## Batches -/

/-- What holds once a batch has run and its scope was shown: nothing but what is related to a
touched place is out of date. -/
structure AfterBatch (representativeId : Int) (committed : Engine.Commit) (k : Knowledge) :
    Prop where
  shows : k.Shows committed.view
  sections : ∀ id ∈ createdIds committed.report.items, (k.ledger.territory.section? id).isSome
  representative : (k.ledger.representative? representativeId).isSome
  fresh : ∀ q, (∀ p, k.ledger.Touches (createdIds committed.report.items) representativeId p →
    q.isRelated p = false) → k.fresh q

/-- Committing a selection, as the engine does it step by step. -/
theorem commit_eq (selection : Selection) (representativeId : Int) (role : Role)
    (stop : Cancellation) :
    (commit selection representativeId role stop : Engine.Step Database Engine.Commit) =
      if selection.isEmpty then .fail Assigning.emptySelection
      else do
        let report ← Engine.perform
          (Assigning.bulkAssign representativeId selection.sectionIds role) stop
        Engine.invalidate selection.scope
        let view ← Engine.view selection.scope
        return ⟨report, view⟩ := by
  funext e
  rw [commit, Engine.commit]
  cases selection.isEmpty with
  | true => rfl
  | false =>
    simp only [Bool.false_eq_true, ite_false, Action.bind_apply]
    rcases Engine.perform _ stop e with ⟨answer, e'⟩
    cases answer with
    | error err => rfl
    | ok report =>
      dsimp only
      rcases Engine.invalidate selection.scope e' with ⟨answer, e''⟩
      cases answer with
      | error err => rfl
      | ok u =>
        dsimp only
        rcases Engine.view selection.scope e'' with ⟨answer, e'''⟩
        cases answer <;> rfl

/-- Showing a path once what is related to it was dropped. -/
theorem yields_reload {path : Scope} (hPath : k.ledger.territory.IsPath path) :
    Yields (Engine.view path) (k.dropped [path]) (k.ledger.snapshot.view path .empty).1
      (k.dropped [path]) := by
  refine Engine.yields_view fun path' hResolve q hContains => .inr ⟨path, ?_, ?_⟩
  · exact List.mem_singleton_self path
  · obtain rfl : path = path' := Except.ok.inj (hPath.resolve_eq.symm.trans hResolve)
    rw [Scope.isRelated, hContains, Bool.or_true]

section Batch

variable (hRest : k.AtRest)
include hRest

/-- **Committing.** A batch that is refused changes nothing. One that is not shows the view that is
shown without a cache. -/
theorem leads_commit {selection : Selection}
    (hPath : k.ledger.territory.IsPath selection.scope) (representativeId : Int) (role : Role)
    (stop : Cancellation) :
    Leads (commit selection representativeId role stop) k fun answer k' =>
      (∀ committed, answer = .ok committed → AfterBatch representativeId committed k') ∧
      ∀ e, answer = .error e → k'.database = k.database := by
  rw [commit_eq]
  split
  · exact (yields_fail _ k).leads ⟨fun _ h => (nomatch h), fun _ _ => rfl⟩
  have hCareful : (Assigning.bulkAssign representativeId selection.sectionIds role).IsCareful
      k.ledger _ := Assigning.bulkAssign_careful representativeId selection.sectionIds role
  rcases Assigning.bulkAssign_cases representativeId selection.sectionIds role stop 0 k.ledger with
    ⟨e, hRun⟩ | ⟨hKnown, items, t, hFilled, hItems, hRun⟩
  · exact (yields_perform_idle hCareful stop hRun).bind_error.leads
      ⟨fun _ h => (nomatch h), fun _ _ => rfl⟩
  have hDiffers := hFilled.differs items hItems
  have hLike := hDiffers.like
  obtain ⟨k', hLedger, hFresh, hYields⟩ :=
    exists_yields_change hRest hCareful hRun hFilled.changes hDiffers
  refine hYields.leads_bind ?_
  refine (Engine.yields_invalidate selection.scope k').leads_bind ?_
  -- the view asks for paths below the dropped scope only, though others are out of date still
  have hPath' : k'.ledger.territory.IsPath selection.scope := by
    rw [hLedger, hLike.1]
    exact hPath
  have hView := yields_reload hPath'
  obtain ⟨v, hAnswer⟩ : ∃ v, (k'.ledger.snapshot.view selection.scope .empty).1 = .ok v :=
    Snapshot.exists_view hPath'.resolve_eq .empty
  rw [hAnswer] at hView
  refine hView.leads_bind ((yields_pure _ _).leads ⟨fun committed hCommitted => ?_, nofun⟩)
  rw [← Except.ok.inj hCommitted]
  refine ⟨(Snapshot.scope_of_view hAnswer).2, fun id hId => ?_, ?_, fun q hFar => ?_⟩
  · change (k'.ledger.territory.section? id).isSome
    rw [hLedger, hLike.1]
    exact hFilled.sections items hItems id hId
  · change (k'.ledger.representative? representativeId).isSome
    rw [Ledger.representative?, hLedger, hLike.2]
    exact hKnown
  · exact .inl (hFresh q hFar)

/-- A batch that is refused leaves fresh counters only, since it leaves none. -/
theorem leads_commitOrReset {selection : Selection}
    (hPath : k.ledger.territory.IsPath selection.scope) (representativeId : Int) (role : Role)
    (stop : Cancellation) :
    Leads (commitOrReset selection representativeId role stop) k fun answer k' =>
      (∀ committed, answer = .ok committed → AfterBatch representativeId committed k') ∧
      ∀ e, answer = .error e → k'.AtRest ∧ errorView? e = none ∧ k'.database = k.database := by
  obtain ⟨answer, k', hYields, hAfter, hRefused⟩ :=
    leads_commit hRest hPath representativeId role stop
  refine hYields.attempt.leads_bind ?_
  cases answer with
  | ok committed =>
    refine (yields_pure committed k').leads ⟨fun c hc => ?_, fun _ h => (nomatch h)⟩
    rw [← Except.ok.inj hc]
    exact hAfter committed rfl
  | error e =>
    refine (yields_run (Engine.yields_invalidate .root k')).leads_bind ?_
    refine (yields_fail _ _).leads ⟨fun _ h => (nomatch h), fun e' he => ?_⟩
    rw [← Except.error.inj he]
    refine ⟨fun q => .inr ⟨.root, List.mem_singleton_self _, q.isRelated_root⟩, ?_, ?_⟩
    · exact errorView?_ofOperation e
    · exact hRefused e rfl

/-- Once the touched places are dropped, a batch is answered with its view. -/
theorem leads_bulkAssign (representativeId : Int) (sectionIds : List Int) (role : String)
    (scope : Option Scope) (stop : Cancellation) :
    Leads (bulkAssign representativeId sectionIds role scope stop) k
      (Concluded BulkAnswer.view k) := by
  refine leads_plain (isInputCheck_checkId _ representativeId).isPlain hRest fun _ _ => ?_
  refine leads_plain (isInputCheck_readRole role).isPlain hRest fun role _ => ?_
  refine leads_plain (isInputCheck_checkScope _).isPlain hRest fun scope _ => ?_
  refine leads_plain (isInputCheck_checkIds _ sectionIds).isPlain hRest fun _ _ => ?_
  have hResolve := yields_run (Engine.yields_resolve scope k)
  cases hScope : k.ledger.territory.resolve scope with
  | error e =>
    rw [hScope] at hResolve
    exact hResolve.bind_error.leads (.of_error hRest (errorView?_ofOperation _) rfl)
  | ok path =>
    rw [hScope] at hResolve
    refine hResolve.leads_bind ?_
    have hPath : k.ledger.territory.IsPath ((Selection.start path).select sectionIds).scope :=
      Territory.resolve_isPath hScope
    refine (leads_commitOrReset hRest hPath representativeId role stop).bind ?_ ?_
    · intro committed k₁ hCommitted
      have hAfter := hCommitted.1 committed rfl
      -- the view was settled before the last announcements, which change nothing but the cache
      have hAnswer : ∀ k₂ : Knowledge, k₂.ledger = k₁.ledger → k₂.AtRest →
          Leads (if committed.report.isPartialFailure then
              Action.fail (.partialFailure ⟨committed.report, some committed.view⟩)
            else pure ⟨committed.report, some committed.view⟩) k₂
              (Concluded BulkAnswer.view k) := by
        intro k₂ hLedger hRest₂
        have hShows : ∀ v ∈ some committed.view, k₂.Shows v := by
          intro v hv
          rw [← Option.some.inj hv, Knowledge.Shows, hLedger]
          exact hAfter.shows
        split
        · refine (yields_fail _ k₂).leads ⟨⟨hRest₂, hShows⟩, fun e he hNotPartial => ?_⟩
          exact (hNotPartial _ (Except.error.inj he).symm).elim
        · exact (yields_pure _ k₂).leads (.of_ok hRest₂ hShows)
      dsimp only
      split
      · exact (yields_invalidateTouched hAfter.sections hAfter.representative
          hAfter.fresh).leads_bind (hAnswer _ rfl fun _ => trivial)
      next hNone =>
        -- a batch that has filled no slot has touched nothing
        refine hAnswer k₁ rfl fun q => hAfter.fresh q fun p hTouches => ?_
        have hEmpty : createdIds committed.report.items = [] := by
          simpa [createdIds] using hNone
        rw [hEmpty] at hTouches
        exact (Ledger.not_touches_nil p hTouches).elim
    · intro e k' hRefused
      obtain ⟨hRest', hPlain, hSame⟩ := hRefused.2 e rfl
      exact .of_error hRest' hPlain hSame

/-! ## Every request -/

/-- A load empties the cache, and one that is refused changes nothing. -/
theorem leads_loadFixture (text : String) :
    Leads (loadFixture text) k (Concluded (fun _ => none) k) := by
  cases hText : ReferenceData.ofText? text with
  | none =>
    have hRefused : (loadFixture text : Step Database ReferenceData) =
        .fail (.invalidInput "fixture" "the text is no reference data") := by
      funext e
      rw [loadFixture, hText]
      rfl
    rw [hRefused]
    exact (yields_fail _ k).leads (.of_error hRest rfl rfl)
  | some data =>
    obtain ⟨⟨l, hHealthy⟩, hRefused⟩ := k.healthy.seed data
    rcases hSeed : Database.seed data k.database with ⟨answer, db⟩
    rw [hSeed] at hHealthy hRefused
    cases answer with
    | error reason =>
      refine ⟨.error (.ofStorage reason), k, fun e he => ?_,
        .of_error hRest (errorView?_ofStorage reason) rfl⟩
      rw [loadFixture, hText]
      dsimp only
      rw [he.repository, hSeed]
      exact ⟨rfl, hRefused nofun, he.upToDate⟩
    | ok u =>
      refine ⟨.ok data, ⟨db, l, fun _ => True, hHealthy⟩, fun e he => ?_,
        .of_unseen fun _ => trivial⟩
      rw [loadFixture, hText]
      dsimp only
      rw [he.repository, hSeed]
      exact ⟨rfl, rfl, CounterCache.upToDate_empty _ _⟩

end Batch

/-- An answer that is wrapped in a reply. -/
theorem leads_reply {x : Step Database α} {view? : α → Option View} {reply : α → Reply}
    (h : Leads x k (Concluded view? k)) (hSame : ∀ a, (reply a).view? = view? a) :
    Leads (x >>= fun a => pure (reply a)) k (Concluded Reply.view? k) := by
  refine h.bind (fun a k' hAnswer => ?_) fun e k' hAnswer => hAnswer.error
  refine (yields_pure _ k').leads (.of_ok hAnswer.atRest fun v hv => hAnswer.shows v ?_)
  rwa [hSame] at hv

/-- **Every request.** An engine at rest answers it as its database alone would have it, shows no
view but the one shown without a cache, and is at rest again. -/
theorem leads_handle (hRest : k.AtRest) (maxAutoSkip : Nat) (stop : Cancellation)
    (request : Request) : Leads (handle maxAutoSkip stop request) k (Concluded Reply.view? k) := by
  cases request with
  | hierarchy scope => exact leads_reply (leads_hierarchy hRest scope) fun _ => rfl
  | representatives scope filter =>
    exact leads_reply (leads_representatives hRest scope filter) fun _ => rfl
  | create sectionId representativeId role =>
    exact leads_reply (leads_create hRest sectionId representativeId role stop) fun _ => rfl
  | delete assignmentId => exact leads_reply (leads_delete hRest assignmentId stop) fun _ => rfl
  | bulkAssign representativeId sectionIds role scope =>
    exact leads_reply (leads_bulkAssign hRest representativeId sectionIds role scope stop)
      fun _ => rfl
  | invalidate scope => exact leads_reply (leads_invalidate hRest scope) fun _ => rfl
  | analyze representativeId text =>
    exact leads_reply (leads_analyze hRest representativeId text) fun _ => rfl
  | navigate path action =>
    exact leads_reply (leads_navigate hRest path action maxAutoSkip) fun _ => rfl
  | loadFixture text => exact leads_reply (leads_loadFixture hRest text) fun _ => rfl

/-! ## Runs -/

/-- A request with what it depends on besides the database. -/
structure Call where
  maxAutoSkip : Nat
  stop : Cancellation
  request : Request

/-- What a call answers, and the engine that it leaves. -/
def Call.run (c : Call) : Step Database Reply := handle c.maxAutoSkip c.stop c.request

/-- The engine after calls, whatever they were answered. -/
def serve (calls : List Call) (e : Engine Database) : Engine Database :=
  calls.foldl (fun e c => (c.run e).2) e

/-- Whether every entry of the cache is what is counted over the database. -/
def IsCoherent (e : Engine Database) : Prop :=
  ∃ s, (Snapshot.load.run none 0 e.repository).result = .ok s ∧
    ∀ entry ∈ e.cache.entries, entry.2 = s.count entry.1

/-- What is known of an engine without a cache. -/
theorem fits_start (k : Knowledge) : k.Fits (Engine.start k.database) :=
  ⟨rfl, CounterCache.upToDate_empty _ _⟩

/-- All calls keep an engine at rest. -/
theorem serve_fits (calls : List Call) {e : Engine Database} (hRest : k.AtRest) (h : k.Fits e) :
    ∃ k' : Knowledge, k'.AtRest ∧ k'.Fits (serve calls e) := by
  induction calls generalizing k e with
  | nil => exact ⟨k, hRest, h⟩
  | cons c rest ih =>
    obtain ⟨answer, k', hYields, hSettled⟩ := leads_handle hRest c.maxAutoSkip c.stop c.request
    exact ih hSettled.atRest (hYields e h).2

theorem isCoherent_of_fits {e : Engine Database} (hRest : k.AtRest) (h : k.Fits e) :
    IsCoherent e := by
  have hCareful : Snapshot.load.IsCareful k.ledger fun _ => True := Snapshot.load_careful
  have hLoad := (k.healthy.run hCareful none 0).1
  refine ⟨k.ledger.snapshot, ?_, fun entry hMem => (h.upToDate entry hMem).2 (hRest _)⟩
  rw [h.repository, hLoad]
  rfl

/-- **Coherence.** After any calls over an empty database, every entry of the cache is what is
counted over the database. The next call is answered and changes the database as over an engine
without a cache, and the view in its answer is the one shown without a cache over the database that
it leaves. -/
theorem cache_coherent (calls : List Call) (next : Call) :
    let e := serve calls (Engine.start Database.empty)
    IsCoherent e ∧
      (next.run e).1 = (next.run (Engine.start e.repository)).1 ∧
      (next.run e).2.repository = (next.run (Engine.start e.repository)).2.repository ∧
      ∀ v ∈ shown? Reply.view? (next.run e).1,
        (Engine.view v.scope (Engine.start (next.run e).2.repository)).1 = .ok v := by
  intro e
  obtain ⟨k, hRest, hFits⟩ := serve_fits calls
    (k := ⟨Database.empty, _, fun _ => True, Database.healthy_empty⟩) (fun _ => trivial)
    (fits_start _)
  obtain ⟨answer, k', hYields, hSettled⟩ :=
    leads_handle hRest next.maxAutoSkip next.stop next.request
  have hStart : k.Fits (Engine.start e.repository) := by
    rw [hFits.repository]
    exact fits_start k
  obtain ⟨hAnswer, hAfter⟩ := hYields e hFits
  refine ⟨isCoherent_of_fits hRest hFits, ?_, ?_, fun v hv => ?_⟩
  · exact hAnswer.trans (hYields _ hStart).1.symm
  · exact hAfter.repository.trans (hYields _ hStart).2.repository.symm
  · have hView : Yields (Engine.view v.scope) k' _ k' :=
      Engine.yields_view fun _ _ q _ => hSettled.atRest q
    rw [show (next.run e).2.repository = k'.database from hAfter.repository,
      (hView _ (fits_start k')).1]
    refine hSettled.shows v ?_
    rw [← hAnswer]
    exact hv

end PollRoster.Service
