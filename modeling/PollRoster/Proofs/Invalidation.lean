import PollRoster.Proofs.Coherence

/-!
# Explicit invalidation

An operator whose database was changed by somebody else asks the service to forget the counters of a
scope. The scope is taken as it was sent: what it leaves out is not filled in before the cache is
searched for related entries. The cache keeps entries under paths, so an entry above the path of the
scope is found only if it also lies above the scope as it was sent.

Main results:

* `isSome_get?_invalidate` — which entries stay.
* `summary_of_dropped` — a scope without an entry is shown with a summary counted over the current
  database.
* `invalidate_reaches` — what an invalidation reaches: everything at and below the path of the
  scope, and the paths above the scope as it was sent.
* `region_outlives_invalidation` — a path above the path of the scope that it does not reach.
-/

namespace PollRoster

/-- Which paths are related to a scope, in terms of what the scope resolves to. -/
theorem Territory.IsPath.isRelated_iff {t : Territory} {s p q : Scope} (hp : t.IsPath p)
    (h : t.resolve s = .ok q) : p.isRelated s ↔ p.contains s ∨ q.contains p := by
  rw [Scope.isRelated, ← hp.contains_resolved h, Bool.or_eq_true]

namespace Engine

/-- An engine whose database others have changed. -/
def afterWrites (e : Engine Database) (writes : List RepositoryCall) : Engine Database :=
  { e with repository := writes.foldl (fun db c => (Repository.answer c db).2) e.repository }

/-- What others do to the database of an engine leaves the cache with paths, if with nothing that
can be trusted. -/
theorem Knowledge.Fits.afterWrites {k : Knowledge} {e : Engine Database} (h : k.Fits e)
    (writes : List RepositoryCall) : ∃ k' : Knowledge, k'.Fits (e.afterWrites writes) := by
  have hAll : ∀ (db : Database) (l : Ledger), db.Healthy l → k.ledger.IsLike l →
      ∃ l', k.ledger.IsLike l' ∧
        (writes.foldl (fun db c => (Repository.answer c db).2) db).Healthy l' := by
    induction writes with
    | nil => exact fun db l hHealthy hLike => ⟨l, hLike, hHealthy⟩
    | cons c rest ih =>
      intro db l hHealthy hLike
      obtain ⟨l', hStep, hHealthy'⟩ := hHealthy.answer c
      exact ih _ l' hHealthy' ⟨hStep.1.trans hLike.1, hStep.2.trans hLike.2⟩
  obtain ⟨l, hLike, hHealthy⟩ := hAll k.database k.ledger k.healthy (.refl _)
  have hSame : (e.afterWrites writes).repository =
      writes.foldl (fun db c => (Repository.answer c db).2) k.database := by
    rw [Engine.afterWrites, h.repository]
  exact ⟨⟨_, l, fun _ => False, hHealthy⟩, hSame, h.upToDate.of_isLike hLike⟩

/-- A view is shown from the cache as it is. -/
theorem view_apply {k : Knowledge} {e : Engine Database} (h : k.Fits e) (scope : Scope) :
    (view scope e).1 = (k.ledger.snapshot.view scope e.cache).1 := by
  have hHealthy : e.repository.Healthy k.ledger := by
    rw [h.repository]
    exact k.healthy
  exact congrArg Prod.fst (Action.bind_of_ok (run_load hHealthy) _)

/-- What an engine resolves is what the territory that it knows resolves. -/
theorem resolve_eq_ok {k : Knowledge} {e : Engine Database} (h : k.Fits e) {scope path : Scope}
    (hResolve : (resolve scope e).1 = .ok path) :
    k.ledger.territory.resolve scope = .ok path := by
  rw [(yields_resolve scope k e h).1] at hResolve
  cases hAnswer : k.ledger.territory.resolve scope with
  | ok path' =>
    rw [hAnswer] at hResolve
    exact congrArg Except.ok (Except.ok.inj hResolve)
  | error err =>
    rw [hAnswer] at hResolve
    cases hResolve

end Engine

namespace Service

open Engine (Knowledge)

theorem checkScope_eq_ok {s s' : Scope} (h : checkScope s = .ok s') : s' = s := by
  obtain ⟨_, -, h⟩ := bind_eq_ok.mp h
  obtain ⟨_, -, h⟩ := bind_eq_ok.mp h
  obtain ⟨_, -, h⟩ := bind_eq_ok.mp h
  obtain ⟨_, -, h⟩ := bind_eq_ok.mp h
  exact (Except.ok.inj h).symm

/-- What an invalidation of an accepted scope does. -/
theorem invalidate_apply {s : Scope} (hAccepted : checkScope s = .ok s) (e : Engine Database) :
    invalidate s e =
      (.ok s, { e with cache := e.cache.invalidate s, log := e.log ++ [.invalidated s] }) := by
  rw [invalidate, hAccepted]
  rfl

/-- A request for a view is answered if its scope is accepted and shown. -/
theorem hierarchy_eq_ok {scope : Scope} {e : Engine Database} {v : View} :
    (hierarchy scope e).1 = .ok v ↔
      checkScope scope = .ok scope ∧ (Engine.view scope e).1 = .ok v := by
  cases hCheck : checkScope scope with
  | error err =>
    have hRefused : hierarchy scope e = (.error err, e) := by
      rw [hierarchy, hCheck]
      rfl
    rw [hRefused]
    exact ⟨nofun, fun h => (nomatch h.1)⟩
  | ok s =>
    obtain rfl := checkScope_eq_ok hCheck
    have hShown : hierarchy s e = run (Engine.view s) e := by
      rw [hierarchy, hCheck]
      rfl
    rw [hShown, run, Action.mapError]
    rcases Engine.view s e with ⟨answer, e'⟩
    cases answer <;> simp

/-! ## What is shown afterwards -/

/-- A scope without an entry in the cache is shown with the summary that is counted over the
database. -/
theorem summary_of_dropped {k : Knowledge} {e : Engine Database} (h : k.Fits e) {scope : Scope}
    {fresh : View} (hFresh : (hierarchy scope (Engine.start e.repository)).1 = .ok fresh)
    (hDropped : e.cache.get? fresh.scope = none) :
    ∃ v, (hierarchy scope e).1 = .ok v ∧ v.scope = fresh.scope ∧ v.summary = fresh.summary := by
  obtain ⟨hAccepted, hFresh⟩ := hierarchy_eq_ok.mp hFresh
  have hStart : k.Fits (Engine.start e.repository) := by
    rw [h.repository]
    exact fits_start k
  have hWell := k.healthy.sound.territory
  rw [Engine.view_apply hStart] at hFresh
  obtain ⟨hResolve, -⟩ := Snapshot.scope_of_view hFresh
  -- both caches hold nothing for the scope, so nothing they hold for it is wrong
  have hUpToDate : e.cache.UpToDate k.ledger.snapshot (· = fresh.scope) := by
    intro entry hMem
    refine ⟨(h.upToDate entry hMem).1, fun hSame => ?_⟩
    have hOther : fresh.scope ≠ entry.1 :=
      bne_iff_ne.mp (List.lookup_eq_none_iff.mp hDropped entry hMem)
    exact (hOther hSame.symm).elim
  obtain ⟨v, hv, hScope, hSummary⟩ := Snapshot.summary_of_fresh hWell hUpToDate hResolve rfl
  obtain ⟨v', hv', hScope', hSummary'⟩ := Snapshot.summary_of_fresh hWell
    (CounterCache.upToDate_empty k.ledger.snapshot (· = fresh.scope)) hResolve rfl
  obtain rfl : v' = fresh := Except.ok.inj (hv'.symm.trans hFresh)
  refine ⟨v, hierarchy_eq_ok.mpr ⟨hAccepted, ?_⟩, hScope, hSummary.trans hSummary'.symm⟩
  rw [Engine.view_apply h]
  exact hv

/-- What is shown where all counters are fresh is what is shown without a cache. -/
theorem view_of_fresh {k : Knowledge} {e : Engine Database} (h : k.Fits e) {scope : Scope}
    {fresh : View} (hFresh : (hierarchy scope (Engine.start e.repository)).1 = .ok fresh)
    (hBelow : ∀ p, fresh.scope.contains p → k.fresh p) : (hierarchy scope e).1 = .ok fresh := by
  obtain ⟨hAccepted, hFresh⟩ := hierarchy_eq_ok.mp hFresh
  have hStart : k.Fits (Engine.start e.repository) := by
    rw [h.repository]
    exact fits_start k
  rw [Engine.view_apply hStart] at hFresh
  obtain ⟨hResolve, -⟩ := Snapshot.scope_of_view hFresh
  refine hierarchy_eq_ok.mpr ⟨hAccepted, ?_⟩
  have hAll : ∀ path, k.ledger.territory.resolve scope = .ok path →
      ∀ p, path.contains p → k.fresh p := by
    intro path hPath p hContains
    obtain rfl : fresh.scope = path := Except.ok.inj (hResolve.symm.trans hPath)
    exact hBelow p hContains
  exact (Engine.yields_view hAll e h).1.trans hFresh

/-! ## What an invalidation reaches -/

/-- Of the entries related to the path of a scope those stay that lie above the path, but not above
the scope as it was sent. -/
theorem isSome_get?_invalidate {k : Knowledge} {e : Engine Database} (h : k.Fits e)
    {s path : Scope} (hPath : k.ledger.territory.resolve s = .ok path) {p : Scope}
    (hRelated : p.isRelated path) :
    ((e.cache.invalidate s).get? p).isSome ↔
      (e.cache.get? p).isSome ∧ p.contains path ∧ ¬path.contains p ∧ ¬p.contains s := by
  rw [CounterCache.get?_invalidate]
  cases hKept : e.cache.get? p with
  | none => simp
  | some kept =>
    -- what is kept is kept for a path, so it lies below `s` only if it lies below the path of `s`
    have hp : k.ledger.territory.IsPath p := (h.upToDate _ (CounterCache.mem_of_get? hKept)).1
    have hDropped := hp.isRelated_iff hPath
    rw [Scope.isRelated, Bool.or_eq_true] at hRelated
    split
    next hYes =>
      constructor
      · simp
      · rintro ⟨-, -, hNotBelow, hNotAbove⟩
        exact ((hDropped.mp hYes).elim hNotAbove hNotBelow).elim
    next hNo =>
      have hNotBelow : ¬path.contains p := fun h => hNo (hDropped.mpr (.inr h))
      have hNotAbove : ¬p.contains s := fun h => hNo (hDropped.mpr (.inl h))
      exact ⟨fun _ => ⟨rfl, hRelated.resolve_right hNotBelow, hNotBelow, hNotAbove⟩, fun _ => rfl⟩

/-- **The reach of an invalidation.** After calls of the service and whatever others have done to
the database, a scope that is accepted is sent. Of the entries related to its path those stay, and
no others, that are kept for a path above and do not contain the scope as it was sent; so none stays
if the scope spells its path out. Where no entry stays, the next view has a summary counted over the
current database, and at and below the path all its counters are. -/
theorem invalidate_reaches {d : ReferenceData} {db : Database}
    (hSeed : Database.seed d .empty = (.ok (), db)) (calls : List Call)
    (writes : List RepositoryCall) {e : Engine Database}
    (he : (serve calls (Engine.start db)).afterWrites writes = e) {s path : Scope}
    (hAccepted : checkScope s = .ok s) (hResolve : (Engine.resolve s e).1 = .ok path) :
    ∃ after, invalidate s e = (.ok s, after) ∧ after.repository = e.repository ∧
      (∀ p, p.isRelated path → ((after.cache.get? p).isSome ↔ (e.cache.get? p).isSome ∧
        p.contains path ∧ ¬path.contains p ∧ ¬p.contains s)) ∧
      ∀ scope fresh, (hierarchy scope (Engine.start e.repository)).1 = .ok fresh →
        (after.cache.get? fresh.scope = none →
          ∃ v, (hierarchy scope after).1 = .ok v ∧ v.scope = fresh.scope ∧
            v.summary = fresh.summary) ∧
        (path.contains fresh.scope → (hierarchy scope after).1 = .ok fresh) := by
  obtain ⟨l, hHealthy⟩ := Database.exists_healthy_of_seed hSeed
  obtain ⟨k₀, -, hServed⟩ := serve_fits calls (k := ⟨db, l, fun _ => True, hHealthy⟩)
    (fun _ => trivial) (fits_start _)
  obtain ⟨k, hFits⟩ := hServed.afterWrites writes
  rw [he] at hFits
  have hPath := Engine.resolve_eq_ok hFits hResolve
  have hAfter : (k.dropped [s]).Fits (Engine.invalidate s e).2 :=
    (Engine.yields_invalidate s k e hFits).2
  refine ⟨_, invalidate_apply hAccepted e, rfl, fun p hRelated => ?_,
    fun scope fresh hFresh => ⟨summary_of_dropped hAfter hFresh, fun hBelow => ?_⟩⟩
  · exact isSome_get?_invalidate hFits hPath hRelated
  · refine view_of_fresh hAfter hFresh fun p hIn => .inr ⟨s, List.mem_singleton_self s, ?_⟩
    have hBelowScope : s.contains p :=
      Scope.contains_trans (Territory.contains_of_resolve hPath) (Scope.contains_trans hBelow hIn)
    rw [Scope.isRelated, hBelowScope, Bool.or_true]

/-! ## A municipality by itself -/

/-- The hamlet after its region was looked at and somebody else has assigned Anna. -/
def watchedHamlet : Engine Database :=
  (serve [⟨5, none, .hierarchy (.ofRegion 1)⟩] (Engine.start .hamlet)).afterWrites
    [.insert 1 1 .primary]

/-- The path of the municipality of the hamlet. -/
def hamletPath : Scope := ⟨some 1, some 1, some 1, none⟩

/-- To forget a municipality that is sent by itself is to forget it, but not its region. -/
theorem invalidate_reaches_municipality :
    (Engine.resolve (.ofMunicipality 1) watchedHamlet).1 = .ok hamletPath ∧
    ∃ after, invalidate (.ofMunicipality 1) watchedHamlet = (.ok (.ofMunicipality 1), after) ∧
      (hierarchy (.ofMunicipality 1) after).1 =
        (hierarchy (.ofMunicipality 1) (Engine.start watchedHamlet.repository)).1 ∧
      (after.cache.get? (.ofRegion 1)).isSome := by
  have hSeed : Database.seed .hamlet .empty = (.ok (), .hamlet) := by rfl
  have hResolve : (Engine.resolve (.ofMunicipality 1) watchedHamlet).1 = .ok hamletPath := by rfl
  obtain ⟨after, hAfter, -, hEntries, hViews⟩ := invalidate_reaches hSeed
    [⟨5, none, .hierarchy (.ofRegion 1)⟩] [.insert 1 1 .primary] rfl
    (s := .ofMunicipality 1) rfl hResolve
  obtain ⟨fresh, hFresh, hScope⟩ : ∃ fresh : View, (hierarchy (.ofMunicipality 1)
      (Engine.start watchedHamlet.repository)).1 = .ok fresh ∧ fresh.scope = hamletPath :=
    ⟨_, rfl, rfl⟩
  refine ⟨hResolve, after, hAfter, ?_, (hEntries (.ofRegion 1) rfl).mpr ?_⟩
  · rw [hFresh]
    refine (hViews _ fresh hFresh).2 ?_
    rw [hScope]
    rfl
  · exact ⟨rfl, rfl, by decide, by decide⟩

/-- **The region is not reached.** It lies above the path of the municipality, its entry stays, and
the next view of it shows a section without a primary that has one. -/
theorem region_outlives_invalidation :
    Database.seed .hamlet .empty = (.ok (), .hamlet) ∧
    checkScope (.ofMunicipality 1) = .ok (.ofMunicipality 1) ∧
    (Engine.resolve (.ofMunicipality 1) watchedHamlet).1 = .ok hamletPath ∧
    (Scope.ofRegion 1).contains hamletPath ∧
    ∃ after, invalidate (.ofMunicipality 1) watchedHamlet = (.ok (.ofMunicipality 1), after) ∧
      (after.cache.get? (.ofRegion 1)).isSome ∧
      (hierarchy (.ofRegion 1) after).1.map (·.summary) = .ok ⟨1, 0, 1, 2⟩ ∧
      (hierarchy (.ofRegion 1) (Engine.start after.repository)).1.map (·.summary) =
        .ok ⟨1, 1, 0, 1⟩ :=
  ⟨rfl, rfl, rfl, rfl, _, rfl, rfl, rfl, rfl⟩

end Service

end PollRoster
