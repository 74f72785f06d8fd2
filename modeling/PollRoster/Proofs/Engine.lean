import PollRoster.Proofs.Batch
import PollRoster.Proofs.Counters

/-!
# Engines over a database

What an engine answers depends on its database alone, as long as it asks its cache for counters that
can be trusted. `Knowledge` is what has to be known for that: the database, the ledger that it
keeps, and the scopes whose counters are fresh.

Main results:

* `Yields` — at every engine that fits what is known, an action gives one answer, and what is known
  afterwards fits again. `Leads` leaves open which answer.
* `yields_ask`, `yields_perform` — running a program.
* `view_eq_ok` — which view is shown, over whatever repository.
* `yields_view` — showing a scope whose counters are fresh.
-/

namespace PollRoster

namespace Snapshot

theorem load_announces : load.Announces fun _ => False :=
  (Program.announces_ask .territory).bind fun _ =>
    (Program.announces_ask .representatives).bind fun _ =>
      (Program.announces_ask .assignments).bind fun _ => trivial

/-- What is read from a repository that keeps a ledger is the ledger. -/
theorem run_load_of_isKeptBy {ρ : Type} [Repository ρ] {r : ρ} {l : Ledger} (h : l.IsKeptBy r) :
    load.run none 0 r = ⟨.ok l.snapshot, [], r, 0⟩ := by
  obtain ⟨store, hStores, rfl⟩ := h
  exact Program.run_store hStores load_careful none 0 (.refl l)

end Snapshot

namespace Engine

/-! ## What is known of an engine -/

/-- A database, the ledger that it keeps, and the scopes whose counters are fresh. -/
structure Knowledge where
  database : Database
  ledger : Ledger
  fresh : Scope → Prop
  healthy : database.Healthy ledger

namespace Knowledge

/-- Whether what is known holds of an engine. -/
structure Fits (k : Knowledge) (e : Engine Database) : Prop where
  repository : e.repository = k.database
  upToDate : e.cache.UpToDate k.ledger.snapshot k.fresh

/-- What is known when other counters are fresh. -/
def withFresh (k : Knowledge) (fresh : Scope → Prop) : Knowledge := { k with fresh := fresh }

/-- What is known once what is related to these scopes was dropped. -/
def dropped (k : Knowledge) (ps : List Scope) : Knowledge :=
  k.withFresh fun q => k.fresh q ∨ ∃ p ∈ ps, q.isRelated p

/-- Whether all counters are fresh. -/
def AtRest (k : Knowledge) : Prop := ∀ p, k.fresh p

/-- Whether a view is the one shown without a cache. -/
def Shows (k : Knowledge) (v : View) : Prop := (k.ledger.snapshot.view v.scope .empty).1 = .ok v

end Knowledge

/-- Whether an action gives this answer at every engine that fits `k`, and leaves one that fits
`k'`. -/
def Yields (x : Action (Engine Database) ε α) (k : Knowledge) (answer : Except ε α)
    (k' : Knowledge) : Prop :=
  ∀ e, k.Fits e → (x e).1 = answer ∧ k'.Fits (x e).2

/-- Whether an action gives one and the same answer at all engines that fit `k`, and this and what
is known afterwards satisfy `post`. -/
def Leads (x : Action (Engine Database) ε α) (k : Knowledge)
    (post : Except ε α → Knowledge → Prop) : Prop :=
  ∃ answer k', Yields x k answer k' ∧ post answer k'

variable {ε ε' α β : Type} {k k' : Knowledge} {x : Action (Engine Database) ε α}
  {f : α → Action (Engine Database) ε β} {post : Except ε β → Knowledge → Prop}

/-! ## Putting actions together -/

theorem yields_pure (a : α) (k : Knowledge) : Yields (pure a : Action _ ε α) k (.ok a) k :=
  fun _ h => ⟨rfl, h⟩

theorem yields_fail (err : ε) (k : Knowledge) :
    Yields (.fail err : Action _ ε α) k (.error err) k :=
  fun _ h => ⟨rfl, h⟩

theorem yields_ofExcept (a : Except ε α) (k : Knowledge) : Yields (.ofExcept a) k a k :=
  fun _ h => ⟨rfl, h⟩

theorem Yields.forget {answer : Except ε α} (h : Yields x k answer k') {fresh : Scope → Prop}
    (hLess : ∀ p, fresh p → k'.fresh p) : Yields x k answer (k'.withFresh fresh) := by
  intro e he
  obtain ⟨hAnswer, hFits⟩ := h e he
  exact ⟨hAnswer, hFits.repository, hFits.upToDate.mono hLess⟩

/-- An action that answers, before the rest. -/
theorem Yields.bind {a : α} {answer : Except ε β} {k'' : Knowledge} (h : Yields x k (.ok a) k')
    (hThen : Yields (f a) k' answer k'') : Yields (x >>= f) k answer k'' := by
  intro e he
  obtain ⟨hAnswer, hFits⟩ := h e he
  have hFirst : x e = (.ok a, (x e).2) := Prod.ext hAnswer rfl
  rw [Action.bind_of_ok hFirst]
  exact hThen _ hFits

/-- An action that fails, before the rest. -/
theorem Yields.bind_error {err : ε} (h : Yields x k (.error err) k') :
    Yields (x >>= f) k (.error err) k' := by
  intro e he
  obtain ⟨hAnswer, hFits⟩ := h e he
  have hBind : (x >>= f) e = (.error err, (x e).2) := by
    rw [Action.bind_apply, ← Prod.eta (x e), hAnswer]
  rw [hBind]
  exact ⟨rfl, hFits⟩

theorem Yields.leads {answer : Except ε β} {y : Action (Engine Database) ε β}
    (h : Yields y k answer k') (hPost : post answer k') : Leads y k post :=
  ⟨answer, k', h, hPost⟩

theorem Yields.leads_bind {a : α} (h : Yields x k (.ok a) k') (hThen : Leads (f a) k' post) :
    Leads (x >>= f) k post := by
  obtain ⟨answer, k'', hRest, hPost⟩ := hThen
  exact ⟨answer, k'', h.bind hRest, hPost⟩

theorem Leads.bind {mid : Except ε α → Knowledge → Prop} (h : Leads x k mid)
    (hOk : ∀ a k', mid (.ok a) k' → Leads (f a) k' post)
    (hError : ∀ err k', mid (.error err) k' → post (.error err) k') : Leads (x >>= f) k post := by
  obtain ⟨answer, k', hYields, hMid⟩ := h
  cases answer with
  | ok a => exact hYields.leads_bind (hOk a k' hMid)
  | error err => exact hYields.bind_error.leads (hError err k' hMid)

/-- A check before the rest. -/
theorem leads_check {answer : Except ε α}
    (hError : ∀ err, answer = .error err → post (.error err) k)
    (hOk : ∀ a, answer = .ok a → Leads (f a) k post) :
    Leads (Action.ofExcept answer >>= f) k post := by
  cases answer with
  | ok a => exact (yields_ofExcept _ k).leads_bind (hOk a rfl)
  | error err => exact (yields_ofExcept _ k).bind_error.leads (hError err rfl)

theorem Yields.mapError {answer : Except ε α} (h : Yields x k answer k') (g : ε → ε') :
    Yields (x.mapError g) k (answer.mapError g) k' := by
  intro e he
  obtain ⟨rfl, hFits⟩ := h e he
  rw [Action.mapError]
  rcases hx : x e with ⟨answer, e'⟩
  rw [hx] at hFits
  cases answer <;> exact ⟨rfl, hFits⟩

theorem Yields.attempt {answer : Except ε α} (h : Yields x k answer k') :
    Yields (x.attempt : Action _ ε' _) k (.ok answer) k' := by
  intro e he
  obtain ⟨rfl, hFits⟩ := h e he
  exact ⟨rfl, hFits⟩

/-! ## Running programs -/

/-- Changes are none of the cache's business. -/
theorem notice_of_changes {events : List Event} (h : ∀ event ∈ events, event.IsChange)
    (c : CounterCache) : events.foldl CounterCache.notice c = c := by
  induction events with
  | nil => rfl
  | cons event rest ih =>
    have hFirst := h event List.mem_cons_self
    have hRest := ih fun other hOther => h other (List.mem_cons_of_mem _ hOther)
    cases event with
    | assigned a => exact hRest
    | removed a => exact hRest
    | invalidated p => exact hFirst.elim

section Perform

variable {p : Program α} {post : α → Prop}

/-- A program that announces changes only is answered as over the ledger. What is fresh afterwards
depends on where the ledger has changed. -/
theorem yields_perform (hCareful : p.IsCareful k.ledger post) (stop : Cancellation)
    {t : Trace Ledger α} (hRun : p.run stop 0 k.ledger = t)
    (hChanges : ∀ event ∈ t.events, event.IsChange) {fresh : Scope → Prop}
    (hFresh : ∀ c : CounterCache, c.UpToDate k.ledger.snapshot k.fresh →
      c.UpToDate t.repository.snapshot fresh) :
    ∃ k', k'.ledger = t.repository ∧ k'.fresh = fresh ∧
      Yields (perform p stop) k t.result k' := by
  obtain ⟨hDatabase, hHealthy⟩ := k.healthy.run hCareful stop 0
  rw [hRun] at hDatabase hHealthy
  refine ⟨⟨_, t.repository, fresh, hHealthy⟩, rfl, rfl, fun e he => ?_⟩
  -- over the database the run is that over the ledger; the cache has noticed nothing
  rw [perform, he.repository, hDatabase]
  refine ⟨rfl, rfl, ?_⟩
  rw [afterEvents, Trace.mapRepository]
  dsimp only
  rw [notice_of_changes hChanges]
  exact hFresh _ he.upToDate

/-- A program that changes nothing and announces nothing leaves everything known. -/
theorem yields_perform_idle (hCareful : p.IsCareful k.ledger post) (stop : Cancellation)
    {answer : Except OperationError α} {finish : Moment}
    (hRun : p.run stop 0 k.ledger = ⟨answer, [], k.ledger, finish⟩) :
    Yields (perform p stop) k answer k := by
  intro e he
  obtain ⟨hDatabase, -⟩ := k.healthy.run hCareful stop 0
  rw [hRun] at hDatabase
  rw [perform, he.repository, hDatabase, Trace.mapRepository]
  dsimp only
  rw [k.healthy.keeps.withLedger_self]
  exact ⟨rfl, rfl, he.upToDate⟩

end Perform

/-- Announcing a scope drops what is related to it. -/
theorem yields_invalidate (p : Scope) (k : Knowledge) :
    Yields (invalidate p) k (.ok ()) (k.dropped [p]) := by
  intro e he
  refine ⟨rfl, he.repository, (he.upToDate.invalidate p).mono fun q hq => ?_⟩
  refine hq.imp_right fun ⟨p', hMem, hRelated⟩ => ?_
  rwa [List.mem_singleton.mp hMem] at hRelated

/-! ## Reading -/

section AnyRepository

variable {ρ : Type} [Repository ρ] {e : Engine ρ} {scope : Scope}

/-- Reading a snapshot leaves the cache and the log as they are. -/
theorem run_load_apply (e : Engine ρ) :
    run Snapshot.load e = ((Snapshot.load.run none 0 e.repository).result,
      { e with repository := (Snapshot.load.run none 0 e.repository).repository }) := by
  have hSilent : (Snapshot.load.run none 0 e.repository).events = [] :=
    List.eq_nil_iff_forall_not_mem.mpr (Snapshot.load_announces.run none 0 e.repository)
  rw [run, perform, hSilent, afterEvents, List.append_nil]
  rfl

/-- A view is one of the snapshot that is read first, shown from the cache as it is. -/
theorem view_apply_of_read {s : Snapshot}
    (h : (Snapshot.load.run none 0 e.repository).result = .ok s) (scope : Scope) :
    view scope e = ((s.view scope e.cache).1,
      ⟨(Snapshot.load.run none 0 e.repository).repository, (s.view scope e.cache).2, e.log⟩) := by
  have hLoad := run_load_apply e
  rw [h] at hLoad
  exact Action.bind_of_ok hLoad _

theorem view_apply_of_unread {error : OperationError}
    (h : (Snapshot.load.run none 0 e.repository).result = .error error) (scope : Scope) :
    view scope e = (.error error,
      { e with repository := (Snapshot.load.run none 0 e.repository).repository }) := by
  have hLoad := run_load_apply e
  rw [h] at hLoad
  exact Action.bind_of_error hLoad _

theorem view_eq_ok {v : View} :
    (view scope e).1 = .ok v ↔ ∃ s, (Snapshot.load.run none 0 e.repository).result = .ok s ∧
      (s.view scope e.cache).1 = .ok v := by
  cases hRead : (Snapshot.load.run none 0 e.repository).result with
  | ok s => simp [view_apply_of_read hRead]
  | error error => simp [view_apply_of_unread hRead]

/-- To show a scope is to announce nothing. -/
theorem log_view (scope : Scope) (e : Engine ρ) : (view scope e).2.log = e.log := by
  cases hRead : (Snapshot.load.run none 0 e.repository).result with
  | ok s => rw [view_apply_of_read hRead]
  | error error => rw [view_apply_of_unread hRead]

end AnyRepository

theorem yields_ask {c : RepositoryCall} {answer : Except OperationError c.Answer}
    (hCall : c.IsGrounded k.ledger) (hAnswer : k.ledger.answer c = (answer, k.ledger)) :
    Yields (run (Program.ask c)) k answer k := by
  have hRun : (Program.ask c).run none 0 k.ledger = ⟨answer, [], k.ledger, 0⟩ := by
    rw [Program.run_ask]
    change Trace.mk (k.ledger.answer c).1 [] (k.ledger.answer c).2 0 = _
    rw [hAnswer]
  exact yields_perform_idle (Program.ask_careful hCall) none hRun

/-- Over a repository that keeps a ledger the snapshot is that of the ledger. -/
theorem run_load_of_kept {ρ : Type} [Repository ρ] {e : Engine ρ} {l : Ledger}
    (h : l.IsKeptBy e.repository) : run Snapshot.load e = (.ok l.snapshot, e) := by
  rw [run_load_apply, Snapshot.run_load_of_isKeptBy h]

theorem run_load {e : Engine Database} {l : Ledger} (h : e.repository.Healthy l) :
    run Snapshot.load e = (.ok l.snapshot, e) :=
  run_load_of_kept h.keeps.isKeptBy

/-- A view over a repository that keeps a ledger is one of the ledger, shown from the given
cache. -/
theorem view_of_kept {ρ : Type} [Repository ρ] {e : Engine ρ} {l : Ledger}
    (h : l.IsKeptBy e.repository) (scope : Scope) :
    view scope e = ((l.snapshot.view scope e.cache).1,
      { e with cache := (l.snapshot.view scope e.cache).2 }) :=
  Action.bind_of_ok (run_load_of_kept h) _

theorem yields_load (k : Knowledge) : Yields (run Snapshot.load) k (.ok k.ledger.snapshot) k := by
  intro e he
  have hHealthy : e.repository.Healthy k.ledger := by
    rw [he.repository]
    exact k.healthy
  rw [run_load hHealthy]
  exact ⟨rfl, he⟩

/-- **Views of an engine.** A view that asks for fresh counters only is the one shown without a
cache. -/
theorem yields_view {scope : Scope} (hFresh : ∀ path, k.ledger.territory.resolve scope = .ok path →
    ∀ q, path.contains q → k.fresh q) :
    Yields (view scope) k (k.ledger.snapshot.view scope .empty).1 k := by
  refine (yields_load k).bind fun e he => ?_
  obtain ⟨hAnswer, hCache⟩ :=
    Snapshot.view_of_upToDate k.healthy.sound.territory he.upToDate hFresh
  exact ⟨hAnswer, he.repository, hCache⟩

theorem yields_search (scope : Scope) (filter : Option String) (k : Knowledge) :
    Yields (search scope filter) k (k.ledger.snapshot.search scope filter) k :=
  (yields_load k).bind (yields_ofExcept _ k)

theorem yields_analyze (representativeId : Int) (text : Option String) (k : Knowledge) :
    Yields (analyze representativeId text) k (k.ledger.snapshot.analyze representativeId text) k :=
  (yields_load k).bind (yields_ofExcept _ k)

theorem yields_resolve (scope : Scope) (k : Knowledge) :
    Yields (resolve scope) k ((k.ledger.territory.resolve scope).mapError .ofScope) k := by
  refine (yields_ask (c := .territory) trivial rfl).bind ?_
  cases k.ledger.territory.resolve scope with
  | ok path => exact yields_pure path k
  | error e => exact yields_fail _ k

/-- The place of a known section is found. -/
theorem yields_scopeOfSection {sectionId : Int}
    (hKnown : (k.ledger.territory.section? sectionId).isSome) :
    ∃ p, Yields (scopeOfSection sectionId) k (.ok p) k ∧
      ∀ x ∈ k.ledger.territory.sections, x.id = sectionId →
        k.ledger.territory.resolve (.ofPlace x.municipalityId x.district) = .ok p := by
  obtain ⟨x, hx⟩ := Option.isSome_iff_exists.mp hKnown
  obtain ⟨hMem, hId⟩ := Territory.section?_eq_some hx
  have hWell := k.healthy.sound.territory
  obtain ⟨p, hResolve⟩ := (hWell.sections x hMem).exists_path hWell
  refine ⟨p, (yields_ask (c := .territory) trivial rfl).bind ?_, fun y hy hSame => ?_⟩
  · rw [hx]
    dsimp only
    rw [hResolve]
    exact yields_pure _ k
  -- identifiers are distinct, so any section of this identifier is the one found
  · have hFound := hWell.section? hy
    rw [hSame, hx] at hFound
    rw [← Option.some.inj hFound]
    exact hResolve

/-- The place that a known representative declared is found. -/
theorem yields_scopeOfRepresentative {representativeId : Int}
    (hKnown : (k.ledger.representative? representativeId).isSome) :
    ∃ p, Yields (scopeOfRepresentative representativeId) k (.ok p) k ∧
      ∀ r ∈ k.ledger.representatives, r.id = representativeId →
        k.ledger.territory.resolve (Snapshot.placeOf r) = .ok p := by
  obtain ⟨r, hr⟩ := Option.isSome_iff_exists.mp hKnown
  have hMem := List.mem_of_find?_eq_some hr
  have hId := List.find?_some hr
  have hHouses := k.healthy.sound.representatives
  obtain ⟨p, hResolve⟩ := (hHouses.places r hMem).exists_path k.healthy.sound.territory
  have hAnswer : k.ledger.answer (.representative representativeId) = (.ok (some r), k.ledger) :=
    congrArg (fun found => (Except.ok found, k.ledger)) hr
  refine ⟨p, (yields_ask (c := .representative _) trivial hAnswer).bind ?_, fun y hy hSame => ?_⟩
  · have hYields := yields_resolve (Snapshot.placeOf r) k
    rw [show k.ledger.territory.resolve (Snapshot.placeOf r) = _ from hResolve] at hYields
    exact hYields
  · have hEq : y = r :=
      List.inj_on_of_nodup_map hHouses.ids hy hMem (hSame.trans (of_decide_eq_true hId).symm)
    rw [hEq]
    exact hResolve

end Engine

end PollRoster
