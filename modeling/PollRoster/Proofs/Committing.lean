import PollRoster.Proofs.Freshness

/-!
# Committing a selection

A commit runs one batch over the sections that an operator has ticked, and then shows their scope.
The cache beside it may hold anything. All of it that the view could ask for lies within the scope
as the operator gave it, whether or not that spells its path out, and is dropped before the view is
asked for.

Main results:

* `Selection.IsMade.isAscending` — whatever an operator does, the ticked sections are listed once
  each, in ascending order.
* `Engine.commit_of_empty`, `commit_of_refused`, `commit_of_reported` — the three ways of a commit.
* `Engine.commit_shows_fresh` — what a commit shows and what it leaves, over whatever repository,
  cache and cancellation.
-/

namespace PollRoster

/-! ## Ticked sections -/

namespace Selection

/-- Whether the ticked sections are listed as a set: once each, in ascending order. -/
def IsAscending (s : Selection) : Prop := s.sectionIds.Pairwise (· < ·)

/-- The selections that an operator can come to. -/
inductive IsMade : Selection → Prop
  | start (scope : Scope) : IsMade (start scope)
  | select {s : Selection} (h : IsMade s) (sectionIds : List Int) : IsMade (s.select sectionIds)
  | toggle {s : Selection} (h : IsMade s) (sectionId : Int) : IsMade (s.toggle sectionId)
  | selectBuilding {s : Selection} (h : IsMade s) (b : BuildingView) : IsMade (s.selectBuilding b)
  | selectAll {s : Selection} (h : IsMade s) (v : View) : IsMade (s.selectAll v)
  | selectPreferences {s : Selection} (h : IsMade s) (m : PreferenceMatch) :
      IsMade (s.selectPreferences m)
  | clear {s : Selection} (h : IsMade s) : IsMade s.clear
  | moveTo {s : Selection} (h : IsMade s) (scope : Scope) : IsMade (s.moveTo scope)
  | setFilter {s : Selection} (h : IsMade s) (filter : String) : IsMade (s.setFilter filter)

variable {s : Selection}

theorem IsAscending.select (h : s.IsAscending) (sectionIds : List Int) :
    (s.select sectionIds).IsAscending := by
  refine List.foldlRecOn (motive := fun ids : List Int => ids.Pairwise (· < ·)) sectionIds _ h ?_
  intro ids hIds id _
  exact insertAscending_pairwise hIds

theorem IsAscending.toggle (h : s.IsAscending) (sectionId : Int) :
    (s.toggle sectionId).IsAscending := by
  rw [Selection.toggle]
  split
  · exact List.Pairwise.filter _ h
  · exact h.select [sectionId]

theorem IsAscending.selectAll (h : s.IsAscending) (v : View) : (s.selectAll v).IsAscending := by
  rw [Selection.selectAll]
  split
  · exact h
  · refine List.foldlRecOn (motive := IsAscending) _ _ h ?_
    intro s hs building _
    exact hs.select _

/-- Nothing that an operator does puts the ticked sections out of order. -/
theorem IsMade.isAscending (h : s.IsMade) : s.IsAscending := by
  induction h with
  | start scope => exact .nil
  | select h sectionIds ih => exact ih.select sectionIds
  | toggle h sectionId ih => exact ih.toggle sectionId
  | selectBuilding h b ih => exact ih.select _
  | selectAll h v ih => exact ih.selectAll v
  | selectPreferences h m ih => exact ih.select _
  | clear h ih => exact .nil
  | moveTo h scope ih =>
    rw [Selection.moveTo]
    split
    · exact ih
    · exact .nil
  | setFilter h filter ih =>
    rw [Selection.setFilter]
    split
    · exact ih
    · exact .nil

end Selection

namespace Engine

variable {ρ : Type} [Repository ρ] {e : Engine ρ} {selection : Selection} {representativeId : Int}
  {role : Role} {stop : Cancellation}

/-! ## The batch of a commit -/

/-- The batch that a commit runs: the ticked sections in order, over the engine's repository. -/
def batchOf (selection : Selection) (representativeId : Int) (role : Role) (stop : Cancellation)
    (e : Engine ρ) : Trace ρ BulkReport :=
  (Assigning.bulkAssign representativeId selection.sectionIds role).run stop 0 e.repository

/-- The engine once the batch has run. The cache takes no notice of it. -/
def afterBatch (selection : Selection) (representativeId : Int) (role : Role) (stop : Cancellation)
    (e : Engine ρ) : Engine ρ where
  repository := (e.batchOf selection representativeId role stop).repository
  cache := e.cache
  log := e.log ++ (e.batchOf selection representativeId role stop).events

theorem isChange_of_mem_batchOf {event : Event}
    (h : event ∈ (e.batchOf selection representativeId role stop).events) : event.IsChange :=
  (Assigning.bulkAssign_announces representativeId selection.sectionIds role).run stop 0
    e.repository event h

theorem perform_bulkAssign (selection : Selection) (representativeId : Int) (role : Role)
    (stop : Cancellation) (e : Engine ρ) :
    perform (Assigning.bulkAssign representativeId selection.sectionIds role) stop e =
      ((e.batchOf selection representativeId role stop).result,
        e.afterBatch selection representativeId role stop) := by
  have hUnnoticed : (e.batchOf selection representativeId role stop).events.foldl
      CounterCache.notice e.cache = e.cache :=
    notice_of_changes (fun _ hMem => isChange_of_mem_batchOf hMem) e.cache
  rw [afterBatch, ← hUnnoticed]
  rfl

/-- Over a repository that keeps a ledger, what is read after the batch is what the batch makes of
the ledger. -/
theorem load_afterBatch {l : Ledger} (hKept : l.IsKeptBy e.repository) :
    (Snapshot.load.run none 0
        (e.afterBatch selection representativeId role stop).repository).result =
      .ok ((Assigning.bulkAssign representativeId selection.sectionIds role).run stop 0
        l).repository.snapshot := by
  have hAfter := Program.run_isKeptBy
    (Assigning.bulkAssign_careful representativeId selection.sectionIds role) hKept stop 0
  rw [afterBatch, batchOf, Snapshot.run_load_of_isKeptBy hAfter]

/-! ## The three ways of a commit -/

theorem commit_of_empty (hNone : selection.isEmpty) :
    commit representativeId role stop (selection, e) =
      (.error Assigning.emptySelection, (selection, e)) := by
  rw [commit, hNone]
  rfl

/-- A batch that fails keeps the selection. -/
theorem commit_of_refused {error : OperationError} (hSome : selection.isEmpty = false)
    (hBatch : (e.batchOf selection representativeId role stop).result = .error error) :
    commit representativeId role stop (selection, e) =
      (.error error, (selection, e.afterBatch selection representativeId role stop)) := by
  rw [commit, perform_bulkAssign, hBatch, hSome]
  rfl

/-- The engine that a commit shows its scope from: the batch has run, and whatever is related to the
scope was dropped. -/
def refreshed (selection : Selection) (representativeId : Int) (role : Role) (stop : Cancellation)
    (e : Engine ρ) : Engine ρ :=
  (invalidate selection.scope (e.afterBatch selection representativeId role stop)).2

/-- Once the batch has run, the selection is cleared and the scope shown. -/
theorem commit_of_reported {report : BulkReport} (hSome : selection.isEmpty = false)
    (hBatch : (e.batchOf selection representativeId role stop).result = .ok report) :
    let shown := view selection.scope (e.refreshed selection representativeId role stop)
    commit representativeId role stop (selection, e) =
      (shown.1.map fun v => ⟨report, v⟩, (selection.clear, shown.2)) := by
  intro shown
  have hReload : (do invalidate selection.scope; view selection.scope)
      (e.afterBatch selection representativeId role stop) = shown := rfl
  rw [commit, perform_bulkAssign, hBatch, hSome, if_neg Bool.false_ne_true]
  dsimp only
  rw [hReload]
  rcases shown with ⟨answer, e'⟩
  cases answer <;> rfl

/-! ## What a commit shows -/

/-- What a commit has to show: the report of its batch, which goes through the ticked sections in
order, and the view of their scope over what is read afterwards, as it is without a cache. -/
structure Commit.Shows (done : Commit) (selection : Selection) (batch : Trace ρ BulkReport) :
    Prop where
  report : batch.result = .ok done.report
  sections : done.report.items.map (·.sectionId) = selection.sectionIds
  view : ∃ s, (Snapshot.load.run none 0 batch.repository).result = .ok s ∧
    (s.view selection.scope .empty).1 = .ok done.view ∧ done.view.ShowsCounted s

/-- A view of the scope of a commit is the one shown without a cache. -/
theorem view_of_refreshed {s : Snapshot} {v : View}
    (hView : (s.view selection.scope
      (e.refreshed selection representativeId role stop).cache).1 = .ok v) :
    (s.view selection.scope .empty).1 = .ok v ∧ v.ShowsCounted s := by
  have hPlain : (s.view selection.scope .empty).1 = .ok v := by
    rw [← hView]
    refine (Snapshot.view_of_fresh fun k hResolve => ?_).symm
    -- the path may name more than the scope does, but it lies within the scope
    have hWithin : selection.scope.contains k := Territory.contains_of_resolve hResolve
    refine (CounterCache.isFreshOn_invalidate e.cache selection.scope s).mono fun q hq => ?_
    exact Scope.contains_trans hWithin hq
  exact ⟨hPlain, Snapshot.showsCounted_of_view hPlain⟩

/-- A commit that is answered clears the selection, and shows what it has to show. -/
theorem shows_of_commit (hSet : selection.IsAscending) {done : Commit}
    (hDone : (commit representativeId role stop (selection, e)).1 = .ok done) :
    (commit representativeId role stop (selection, e)).2.1 = { selection with sectionIds := [] } ∧
      done.Shows selection (e.batchOf selection representativeId role stop) := by
  cases hSome : selection.isEmpty with
  | true =>
    rw [commit_of_empty hSome] at hDone
    cases hDone
  | false =>
    cases hBatch : (e.batchOf selection representativeId role stop).result with
    | error error =>
      rw [commit_of_refused hSome hBatch] at hDone
      cases hDone
    | ok report =>
      rw [commit_of_reported hSome hBatch] at hDone ⊢
      obtain ⟨v, hView, rfl⟩ := map_eq_ok.mp hDone
      obtain ⟨s, hRead, hShown⟩ := view_eq_ok.mp hView
      -- the batch takes each distinct section once, and a set has no others
      have hDistinct : distinct selection.sectionIds = selection.sectionIds :=
        distinct_of_nodup (hSet.imp Int.ne_of_lt)
      refine ⟨rfl, hBatch, ?_, s, hRead, view_of_refreshed hShown⟩
      rw [Assigning.sections_of_bulkAssign hBatch, hDistinct]

/-- A commit of nothing, and one whose batch fails, leave the selection and what is kept in the
cache, and announce no scope. -/
theorem refused_of_commit (hRefused : selection.isEmpty ∨
      ∃ error, (e.batchOf selection representativeId role stop).result = .error error) :
    ∃ error e', commit representativeId role stop (selection, e) = (.error error, (selection, e')) ∧
      e'.cache = e.cache ∧
      ∃ told, e'.log = e.log ++ told ∧ ∀ scope, .invalidated scope ∉ told := by
  cases hSome : selection.isEmpty with
  | true =>
    refine ⟨_, e, commit_of_empty hSome, rfl, [], (List.append_nil _).symm, ?_⟩
    intro scope
    exact List.not_mem_nil
  | false =>
    rw [hSome] at hRefused
    obtain ⟨error, hBatch⟩ := hRefused.resolve_left Bool.false_ne_true
    refine ⟨error, _, commit_of_refused hSome hBatch, rfl, _, rfl, ?_⟩
    intro scope hTold
    exact isChange_of_mem_batchOf hTold

/-- Once its batch has run, a commit clears the selection and announces the scope, and it is
answered exactly if the scope can be shown. -/
theorem reported_of_commit (hSome : selection.isEmpty = false) {report : BulkReport}
    (hBatch : (e.batchOf selection representativeId role stop).result = .ok report) :
    let batch := e.batchOf selection representativeId role stop
    let outcome := commit representativeId role stop (selection, e)
    outcome.2.1 = { selection with sectionIds := [] } ∧
      outcome.2.2.log = e.log ++ batch.events ++ [.invalidated selection.scope] ∧
      ((∃ done, outcome.1 = .ok done) ↔ ∃ s k,
        (Snapshot.load.run none 0 batch.repository).result = .ok s ∧
          s.territory.resolve selection.scope = .ok k) := by
  intro batch outcome
  have hOutcome : outcome = _ := commit_of_reported hSome hBatch
  rw [hOutcome]
  refine ⟨rfl, log_view _ _, ?_⟩
  constructor
  · rintro ⟨done, hDone⟩
    obtain ⟨v, hView, -⟩ := map_eq_ok.mp hDone
    obtain ⟨s, hRead, hShown⟩ := view_eq_ok.mp hView
    exact ⟨s, v.scope, hRead, (Snapshot.scope_of_view hShown).1⟩
  · rintro ⟨s, k, hRead, hResolve⟩
    obtain ⟨v, hShown⟩ := Snapshot.exists_view hResolve
      (e.refreshed selection representativeId role stop).cache
    exact ⟨_, map_eq_ok.mpr ⟨v, view_eq_ok.mpr ⟨s, hRead, hShown⟩, rfl⟩⟩

/-- **Commits show fresh counters.** Over whatever repository, from whatever cache, and cancelled at
whatever moment, a commit that is answered has cleared the selection, reports what the batch reports
on the ticked sections in ascending order, and shows the scope with every counter as it is counted
over what is read after the batch. One whose batch fails, and one of nothing, leave the selection
and announce no scope. One whose batch has run announces the scope, and fails only if the scope
cannot be shown. Over a repository that keeps a ledger, what is read is what the batch makes of the
ledger. -/
theorem commit_shows_fresh (e : Engine ρ) {selection : Selection} (hSet : selection.IsAscending)
    (representativeId : Int) (role : Role) (stop : Cancellation) :
    let batch := e.batchOf selection representativeId role stop
    let outcome := commit representativeId role stop (selection, e)
    (∀ done, outcome.1 = .ok done →
      outcome.2.1 = { selection with sectionIds := [] } ∧ done.Shows selection batch) ∧
    (selection.isEmpty ∨ (∃ error, batch.result = .error error) →
      ∃ error e', outcome = (.error error, (selection, e')) ∧ e'.cache = e.cache ∧
        ∃ told, e'.log = e.log ++ told ∧ ∀ scope, .invalidated scope ∉ told) ∧
    (selection.isEmpty = false → ∀ report, batch.result = .ok report →
      outcome.2.1 = { selection with sectionIds := [] } ∧
      outcome.2.2.log = e.log ++ batch.events ++ [.invalidated selection.scope] ∧
      ((∃ done, outcome.1 = .ok done) ↔ ∃ s k,
        (Snapshot.load.run none 0 batch.repository).result = .ok s ∧
          s.territory.resolve selection.scope = .ok k)) ∧
    ∀ l : Ledger, l.IsKeptBy e.repository →
      (Snapshot.load.run none 0 batch.repository).result =
        .ok ((Assigning.bulkAssign representativeId selection.sectionIds role).run stop 0
          l).repository.snapshot := by
  intro batch outcome
  refine ⟨?_, refused_of_commit, ?_, ?_⟩
  · intro done hDone
    exact shows_of_commit hSet hDone
  · intro hSome report hBatch
    exact reported_of_commit hSome hBatch
  · intro l hKept
    exact load_afterBatch hKept

/-! ## A commit beside a cache that is wrong -/

/-- The sections of the town that have no primary, ticked by the municipality alone. -/
def townSelection : Selection := (Selection.start (.ofMunicipality 1)).select [3, 2]

/-- Bruno is assigned to both of them, and the second district is shown with the right counters. -/
theorem commit_shows_fresh_town :
    townSelection.sectionIds = [2, 3] ∧ townSelection.IsAscending ∧
    ∃ done e', commit 2 .primary none (townSelection, ⟨Ledger.town, wrongCounters, []⟩) =
        (.ok done, ({ townSelection with sectionIds := [] }, e')) ∧
      done.Shows townSelection
        (batchOf townSelection 2 .primary none ⟨Ledger.town, wrongCounters, []⟩) ∧
      done.report.items = [⟨2, .assigned 3⟩, ⟨3, .assigned 4⟩] ∧
      done.view.summary = ⟨3, 3, 0, 0⟩ ∧
      done.view.content.nodeList.map Node.counters = [⟨1, 1, 0, 0⟩, ⟨1, 1, 0, 0⟩] := by
  have hSet : townSelection.IsAscending := ((Selection.IsMade.start _).select _).isAscending
  obtain ⟨done, e', hCommit, hItems, hSummary, hNodes⟩ : ∃ done e',
      commit 2 .primary none (townSelection, ⟨Ledger.town, wrongCounters, []⟩) =
        (.ok done, ({ townSelection with sectionIds := [] }, e')) ∧
      done.report.items = [⟨2, .assigned 3⟩, ⟨3, .assigned 4⟩] ∧
      done.view.summary = ⟨3, 3, 0, 0⟩ ∧
      done.view.content.nodeList.map Node.counters = [⟨1, 1, 0, 0⟩, ⟨1, 1, 0, 0⟩] :=
    ⟨_, _, rfl, by rfl, by rfl, by rfl⟩
  obtain ⟨hAnswered, -⟩ := commit_shows_fresh ⟨Ledger.town, wrongCounters, []⟩ hSet 2 .primary none
  have hDone : (commit 2 .primary none
      (townSelection, ⟨Ledger.town, wrongCounters, []⟩)).1 = .ok done := by
    rw [hCommit]
  obtain ⟨-, hShows⟩ := hAnswered done hDone
  exact ⟨by rfl, hSet, done, e', hCommit, hShows, hItems, hSummary, hNodes⟩

end Engine

end PollRoster
