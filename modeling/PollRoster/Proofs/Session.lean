import PollRoster.Engine
import PollRoster.Proofs.Charting
import PollRoster.Proofs.Ledger
import PollRoster.Proofs.Program

/-!
# Sessions

An operator navigates an engine while programs of any kind run over its repository. They may fill
slots, empty them and announce that counters are out of date, and some of them fail. The reference
data stays as it is throughout, so every view shows the territory.

Main results:

* `engine_charts` — an engine charts the territory of its repository.
* `ensures_run` — where each movement ends.
* `Session.advance_keeps`, `Session.after_keeps` — what a step and a whole session keep.
* `Session.shows_where_it_stands` — what holds whenever a view is shown.
-/

namespace PollRoster

namespace Navigator

/-! ## Movements -/

/-- What an operator does with a navigator. -/
inductive Move where
  | refresh
  | drillDown (scope : Scope)
  | back
  | apply (action : NavigationAction)

/-- The navigator after a movement; none after a step back from the root. -/
def Move.run (source : ViewSource σ) (n : Navigator) :
    Move → Action σ OperationError (Option Navigator)
  | .refresh => do return some (← n.refresh source)
  | .drillDown scope => do return some (← n.drillDown source scope)
  | .back => n.back? source
  | .apply action => do return some (← n.apply source action)

/-- The scope that a movement asks to be shown; a step back asks for none, unless from the root,
which is then shown anew. -/
def Move.asked? (n : Navigator) : Move → Option Scope
  | .refresh | .apply .refresh => some n.state.path
  | .drillDown scope | .apply (.drillDown scope) => some scope
  | .back => none
  | .apply .back => if n.state.path.ancestors = [] then some n.state.path else none

section Charts

variable {t : Territory} {I : σ → Prop} {source : ViewSource σ}

/-- **Movements** that answer a navigator. It stands where its view says, and where the scope asked
for leads to. -/
theorem ensures_apply (hWell : t.WellFormed) (hCharts : Charts t I source) (n : Navigator)
    (action : NavigationAction) :
    Ensures I (n.apply source action) fun n' => n'.Stands t ∧ n'.maxAutoSkip = n.maxAutoSkip ∧
      ∀ asked, (Move.apply action).asked? n = some asked → n'.Reached t asked := by
  have hRefresh : Ensures I (n.refresh source) fun n' => n'.Stands t ∧
      n'.maxAutoSkip = n.maxAutoSkip ∧ n'.Reached t n.state.path := hCharts.ensures_refresh hWell n
  cases action with
  | refresh =>
    refine hRefresh.mono fun n' hn' => ⟨hn'.1, hn'.2.1, fun asked hAsked => ?_⟩
    rw [← Option.some.inj hAsked]
    exact hn'.2.2
  | drillDown scope =>
    refine (hCharts.ensures_drillDown hWell scope n).mono
      fun n' hn' => ⟨hn'.1, hn'.2.1, fun asked hAsked => ?_⟩
    rw [← Option.some.inj hAsked]
    exact hn'.2.2
  | back =>
    refine (hCharts.ensures_back? n).bind fun found hFound => ?_
    cases found with
    | some n' =>
      obtain ⟨hStands, hLimit, hBelow⟩ := hFound n' rfl
      refine ensures_pure ⟨hStands, hLimit, fun asked hAsked => ?_⟩
      rw [Move.asked?, if_neg hBelow] at hAsked
      exact nomatch hAsked
    -- there is no way up, so the root is shown anew
    | none =>
      refine hRefresh.mono fun n' hn' => ⟨hn'.1, hn'.2.1, fun asked hAsked => ?_⟩
      rw [Move.asked?] at hAsked
      split at hAsked
      · rw [← Option.some.inj hAsked]
        exact hn'.2.2
      · exact nomatch hAsked

/-- **Movements** in general; one that finds no way answers no navigator. -/
theorem ensures_run (hWell : t.WellFormed) (hCharts : Charts t I source) (n : Navigator)
    (m : Move) :
    Ensures I (m.run source n) fun found => ∀ n', found = some n' →
      n'.Stands t ∧ n'.maxAutoSkip = n.maxAutoSkip ∧
        ∀ asked, m.asked? n = some asked → n'.Reached t asked := by
  have hShow : ∀ action, Ensures I (n.apply source action >>= fun n' => pure (some n'))
      fun found => ∀ n', found = some n' → n'.Stands t ∧ n'.maxAutoSkip = n.maxAutoSkip ∧
        ∀ asked, (Move.apply action).asked? n = some asked → n'.Reached t asked := by
    intro action
    refine (ensures_apply hWell hCharts n action).bind fun n' hn' => ?_
    refine ensures_pure fun n'' hSame => ?_
    rw [← Option.some.inj hSame]
    exact hn'
  cases m with
  | refresh => exact hShow .refresh
  | drillDown scope => exact hShow (.drillDown scope)
  | apply action => exact hShow action
  | back =>
    refine (hCharts.ensures_back? n).mono fun found hFound n' hn' => ?_
    obtain ⟨hStands, hLimit, -⟩ := hFound n' hn'
    exact ⟨hStands, hLimit, fun _ hAsked => (nomatch hAsked)⟩

end Charts

end Navigator

/-! ## An engine in memory -/

section Engine

variable {t : Territory}

/-- Whether an engine works on a territory. -/
def WorksOn (t : Territory) (e : Engine Ledger) : Prop := e.repository.territory = t

theorem ensures_load (t : Territory) :
    Ensures (WorksOn t) (Engine.run Snapshot.load) fun s => s.territory = t := by
  intro e hWorks
  refine ⟨hWorks, fun s hs => ?_⟩
  rw [← Except.ok.inj hs]
  exact hWorks

/-- **Engines chart their territory**, whatever is assigned and whatever counters are kept. -/
theorem engine_charts (t : Territory) : Navigator.Charts t (WorksOn t) Engine.view := by
  intro scope
  refine (ensures_load t).bind fun s hs => ?_
  subst hs
  intro e hWorks
  refine ⟨hWorks, fun v hv => ?_⟩
  exact ⟨(Snapshot.scope_of_view hv).1, Snapshot.isFaithful_of_view hv⟩

/-- No program changes the territory. -/
theorem perform_worksOn {e : Engine Ledger} (h : WorksOn t e) (p : Program α)
    (stop : Cancellation) : WorksOn t (Engine.perform p stop e).2 := by
  have hCall : ∀ (c : RepositoryCall) (l : Ledger), l.territory = t →
      (Repository.answer c l).2.territory = t :=
    fun c l hl => (l.answer_static c).1.trans hl
  exact p.run_keeps hCall h

end Engine

/-! ## Sessions -/

/-- A navigator and the engine that it shows. -/
structure Session where
  navigator : Navigator
  engine : Engine Ledger

namespace Session

/-- What happens in a session: the operator moves, or some client's program runs over the engine. -/
inductive Step where
  | move (m : Navigator.Move)
  | work (p : Program Unit) (stop : Cancellation)

/-- A movement that fails, or finds no way, leaves the navigator where it stands. -/
def advance (s : Session) : Step → Session
  | .move m =>
    let (answer, engine) := m.run Engine.view s.navigator s.engine
    match answer with
    | .ok (some n) => ⟨n, engine⟩
    | _ => { s with engine := engine }
  | .work p stop => { s with engine := (Engine.perform p stop s.engine).2 }

/-- A session whose navigator has shown nothing yet. -/
def start (path : Scope) (maxAutoSkip : Nat) (engine : Engine Ledger) : Session :=
  ⟨.startAt path maxAutoSkip, engine⟩

/-- A session after these steps. -/
def after (s : Session) (steps : List Step) : Session := steps.foldl advance s

/-- Whether a session works on a territory, and its navigator stands on it or is still the one it
started with. -/
structure IsCharted (t : Territory) (first : Navigator) (s : Session) : Prop where
  worksOn : WorksOn t s.engine
  maxAutoSkip : s.navigator.maxAutoSkip = first.maxAutoSkip
  navigator : s.navigator = first ∨ s.navigator.Stands t

variable {t : Territory} {first : Navigator} {s : Session}

/-- **Steps.** A step keeps a session charted. -/
theorem advance_keeps (hWell : t.WellFormed) (h : s.IsCharted t first) (step : Step) :
    (s.advance step).IsCharted t first := by
  cases step with
  | work p stop => exact ⟨perform_worksOn h.worksOn p stop, h.maxAutoSkip, h.navigator⟩
  | move m =>
    obtain ⟨hWorks, hShown⟩ :=
      Navigator.ensures_run hWell (engine_charts t) s.navigator m _ h.worksOn
    -- only a movement that answers a navigator replaces the one that is there
    rw [advance]
    rcases hRun : m.run Engine.view s.navigator s.engine with ⟨answer, engine⟩
    rw [hRun] at hWorks hShown
    match answer with
    | .ok (some n) =>
      obtain ⟨hStands, hLimit, -⟩ := hShown _ rfl n rfl
      exact ⟨hWorks, hLimit.trans h.maxAutoSkip, .inr hStands⟩
    | .ok none => exact ⟨hWorks, h.maxAutoSkip, h.navigator⟩
    | .error _ => exact ⟨hWorks, h.maxAutoSkip, h.navigator⟩

/-- A session stays charted however long it goes on. -/
theorem after_keeps (hWell : t.WellFormed) (h : s.IsCharted t first) (steps : List Step) :
    (s.after steps).IsCharted t first := by
  induction steps generalizing s with
  | nil => exact h
  | cons step rest ih => exact ih (advance_keeps hWell h step)

/-- **What is shown.** Whatever has happened in a session over a validated territory, a movement
that shows a view leaves the navigator where the view says, on a path. If it was asked for a scope,
the navigator has gone from the path of that scope through sole children, no more of them than
allowed; and if it was allowed four, it does not stand before a single child. -/
theorem shows_where_it_stands (hValid : t.validate = .ok ()) {e : Engine Ledger}
    (hTerritory : e.repository.territory = t) {path : Scope} {maxAutoSkip : Nat} {steps : List Step}
    (hSession : (Session.start path maxAutoSkip e).after steps = s) {m : Navigator.Move}
    {n : Navigator} {e' : Engine Ledger}
    (hShown : m.run Engine.view s.navigator s.engine = (.ok (some n), e')) :
    (∃ v, n.view = some v ∧ n.state.path = v.scope ∧ n.state.level = v.level) ∧
      t.resolve n.state.path = .ok n.state.path ∧ n.maxAutoSkip = maxAutoSkip ∧
      ∀ asked, m.asked? s.navigator = some asked → n.Reached t asked := by
  have hWell := Territory.validate_wellFormed hValid
  have hStart : (Session.start path maxAutoSkip e).IsCharted t (.startAt path maxAutoSkip) :=
    ⟨hTerritory, rfl, .inl rfl⟩
  -- whatever the navigator looks like by now, the engine still charts the territory
  have hCharted := after_keeps hWell hStart steps
  rw [hSession] at hCharted
  obtain ⟨-, hMove⟩ :=
    Navigator.ensures_run hWell (engine_charts t) s.navigator m _ hCharted.worksOn
  rw [hShown] at hMove
  obtain ⟨⟨v, hView, hState, hFaithful⟩, hLimit, hReached⟩ := hMove _ rfl n rfl
  refine ⟨⟨v, hView, by rw [hState], by rw [hState]⟩, ?_, hLimit.trans hCharted.maxAutoSkip,
    hReached⟩
  rw [hState]
  exact hFaithful.isPath.resolve_eq

/-! ## A session in the town -/

/-- An engine over the town in memory, without assignments. -/
def townEngine : Engine Ledger := .start (.start .town Snapshot.town.representatives)

/-- A section is filled, and the operator asks for a region that is not recorded. -/
def townSteps : List Step :=
  [.work (Assigning.assign 3 2 .primary >>= fun _ => pure ()) none,
    .move (.drillDown (.ofRegion 7))]

/-- The operator stays at the root then. Refreshed, it leads through region, province and
municipality to the districts. -/
theorem shows_where_it_stands_town :
    Territory.town.validate = .ok () ∧ townEngine.repository.territory = .town ∧
    ∃ s n e, (Session.start .root 8 townEngine).after townSteps = s ∧
      s.navigator.state.path = .root ∧ s.engine.repository.assignments = [⟨1, 3, 2, .primary⟩] ∧
      Navigator.Move.refresh.run Engine.view s.navigator s.engine = (.ok (some n), e) ∧
      n.state = ⟨⟨some 1, some 1, some 1, none⟩, .district⟩ ∧
      Territory.town.resolve n.state.path = .ok n.state.path ∧ n.Reached .town .root := by
  have hValid := Territory.validate_town
  have hTerritory : townEngine.repository.territory = .town := rfl
  obtain ⟨s, n, e, hSession, hRoot, hFilled, hShown, hState⟩ : ∃ s n e,
      (Session.start .root 8 townEngine).after townSteps = s ∧ s.navigator.state.path = .root ∧
      s.engine.repository.assignments = [⟨1, 3, 2, .primary⟩] ∧
      Navigator.Move.refresh.run Engine.view s.navigator s.engine = (.ok (some n), e) ∧
      n.state = ⟨⟨some 1, some 1, some 1, none⟩, .district⟩ :=
    ⟨_, _, _, rfl, by rfl, by rfl, by rfl, by rfl⟩
  obtain ⟨-, hResolve, -, hReached⟩ := shows_where_it_stands hValid hTerritory hSession hShown
  have hAsked : Navigator.Move.refresh.asked? s.navigator = some .root := congrArg some hRoot
  exact ⟨hValid, hTerritory, s, n, e, hSession, hRoot, hFilled, hShown, hState, hResolve,
    hReached .root hAsked⟩

end Session

end PollRoster
