import PollRoster.Proofs.Ascent
import PollRoster.Proofs.Session

/-!
# Down and up again

A step down may go on through sole children, and the step up after it has to leave all of them
behind at once. The two are decided by different signs: the way down by the only child that a view
lists, the way up by what a view says of itself. Over a source that charts a territory both signs
say the same, and so a step up from wherever a step down has led ends where the step down began, if
there was a choice to make. Nothing of this depends on who is assigned where.

Main results:

* `Charts.exists_refresh` — a path can always be shown.
* `SoleDescent.landing_ancestors` — sole children do not change where the way up lands, by induction
  on the way down.
* `Charts.back_returns` — down and up over any source that charts the territory.
* `back_undoes_drillDown` — down and up over an engine, whatever has been written in between.
-/

namespace PollRoster

/-! ## The way up from below sole children -/

namespace Territory

variable {t : Territory} {p q : Scope} {n : Nat}

/-- **Sole children** on the way down make no difference to where the way up lands. -/
theorem SoleDescent.landing_ancestors (hWell : t.WellFormed) (h : t.SoleDescent n p q)
    (hp : t.IsPath p) : t.landing q.ancestors = t.landing p.ancestors := by
  -- on the way down; its first step enters the only child of `p`
  induction h with
  | stay p => rfl
  | @enter p child q n hOnly _ ih =>
    obtain ⟨hChild, hParent⟩ := hp.only_child hWell hOnly
    have hSole : t.hasSoleChild p = true := by
      have hLength := congrArg List.length hOnly
      rw [List.length_map] at hLength
      rw [hasSoleChild, hLength]
      rfl
    calc t.landing q.ancestors
        = t.landing child.ancestors := ih hChild
      _ = t.landing (p :: p.ancestors) := by rw [Scope.ancestors_of_parent? hParent]
      _ = t.landing p.ancestors := by rw [landing_cons, if_pos hSole]

/-- From a child where there is a choice the way up lands on its parent. -/
theorem landing_ancestors_of_choice (hParent : q.parent? = some p)
    (hChoice : t.hasSoleChild p = false) : t.landing q.ancestors = p := by
  rw [Scope.ancestors_of_parent? hParent, landing_cons, hChoice]
  rfl

end Territory

/-- An engine after these commands, each with the moment at which the operator cancels it. -/
def Engine.executed {ρ : Type} [Repository ρ] (e : Engine ρ)
    (commands : List (Command × Cancellation)) : Engine ρ :=
  commands.foldl (fun e c => (perform c.1.execute c.2 e).2) e

namespace Navigator

variable {t : Territory} {I : σ → Prop} {source : ViewSource σ}

/-! ## Over a source that charts the territory -/

section Charts

variable (hWell : t.WellFormed) (hCharts : Charts t I source) (hAnswers : Answers t I source)
include hWell hCharts hAnswers

/-- The way through sole children is never refused. -/
theorem Charts.exists_skipAhead (steps : Nat) (visited : List Scope) {v : View}
    (hv : v.IsFaithful t) {c : σ} (hI : I c) :
    ∃ w c', skipAhead source steps visited v c = (.ok w, c') := by
  -- on the steps left, as the way itself goes
  induction steps generalizing visited v c with
  | zero => exact ⟨v, c, rfl⟩
  | succ steps ih =>
    rw [skipAhead]
    rcases hv.onlyChild?_cases with ⟨-, hNone⟩ | ⟨q, hSome, hOnly⟩
    · rw [hNone]
      exact ⟨v, c, rfl⟩
    · obtain ⟨hPath, -⟩ := hv.isPath.only_child hWell hOnly
      rw [hSome]
      dsimp only
      split
      · exact ⟨v, c, rfl⟩
      · obtain ⟨next, c₁, hNext, hKept, hFaithful, -⟩ := hCharts.shown hAnswers hPath.resolve_eq hI
        rw [Action.bind_of_ok hNext]
        exact ih _ hFaithful hKept

/-- **Refreshing** a navigator on a scope that leads to a path succeeds. -/
theorem Charts.exists_refresh {n : Navigator} {q : Scope}
    (hResolve : t.resolve n.state.path = .ok q) {c : σ} (hI : I c) :
    ∃ n' c', refresh source n c = (.ok n', c') ∧ n'.Reached t n.state.path := by
  obtain ⟨v, c₁, hView, hKept, hFaithful, -⟩ := hCharts.shown hAnswers hResolve hI
  obtain ⟨w, c₂, hSkip⟩ :=
    hCharts.exists_skipAhead hWell hAnswers n.maxAutoSkip [v.scope] hFaithful hKept
  have hRefresh : refresh source n c = (.ok (n.showing w), c₂) := by
    rw [refresh, Action.bind_of_ok hView, Action.bind_of_ok hSkip]
    rfl
  obtain ⟨-, hShown⟩ := hCharts.ensures_refresh hWell n c hI
  rw [hRefresh] at hShown
  exact ⟨_, c₂, hRefresh, (hShown _ rfl).2.2⟩

/-- **Down and up.** A navigator that shows several children enters each of them, and wherever that
leads, a step back shows the path of the navigator again. The source may have changed in between. -/
theorem Charts.back_returns {n : Navigator} {v : View} (hState : n.state = ⟨v.scope, v.level⟩)
    (hFaithful : v.IsFaithful t) (hSeveral : 2 ≤ v.content.nodeList.length) {child : Node}
    (hChild : child ∈ v.content.nodeList) {c : σ} (hI : I c) :
    ∃ n' c', drillDown source child.scope n c = (.ok n', c') ∧ I c' ∧
      ∀ c₁, I c₁ → ∃ n'' c₂, back? source n' c₁ = (.ok (some n''), c₂) ∧ n''.state = n.state := by
  obtain ⟨hPath, hParent⟩ := (hFaithful.isPath.mem_below_iff hWell).mp (hFaithful.mem_below hChild)
  have hDeeper : v.scope.depth < child.scope.depth := Scope.depth_of_parent? hParent
  have hAt : n.state.path = v.scope := by rw [hState]
  -- the child is below the path of the navigator, so the step down is a refresh of the child
  let moved : Navigator := { n with state := { n.state with path := child.scope } }
  have hDown : drillDown source child.scope n = refresh source moved := by
    rw [drillDown, hAt, Scope.contains_of_parent? hParent, decide_eq_false (Nat.not_le.mpr hDeeper)]
    rfl
  obtain ⟨n', c', hRefresh, hReached⟩ :=
    hCharts.exists_refresh hWell hAnswers (n := moved) hPath.resolve_eq hI
  obtain ⟨hKept, hShown⟩ := hCharts.ensures_refresh hWell moved c hI
  rw [hRefresh] at hKept hShown
  obtain ⟨⟨v', -, hState', hFaithful'⟩, -, -⟩ := hShown n' rfl
  refine ⟨n', c', by rw [hDown, hRefresh], hKept, fun c₁ hI₁ => ?_⟩
  -- wherever it has led, sole children lie between there and the child
  have hReachedPath : t.IsPath n'.state.path := by
    rw [hState']
    exact hFaithful'.isPath
  obtain ⟨q, steps, hResolve, -, hDescent⟩ := hReached.descent
  obtain rfl : child.scope = q := Except.ok.inj (hPath.resolve_eq.symm.trans hResolve)
  have hBelow : n'.state.path ≠ .root := by
    intro hRoot
    have hDepth := hDescent.depth_eq hWell hPath
    rw [hRoot] at hDepth
    change 0 = child.scope.depth + steps at hDepth
    omega
  have hChoice : t.hasSoleChild v.scope = false := by
    have hScopes := congrArg List.length hFaithful.scopes
    rw [List.length_map, List.length_map] at hScopes
    rw [Territory.hasSoleChild, decide_eq_false_iff_not]
    omega
  obtain ⟨w, c₂, hBack, hShows, hLands⟩ :=
    hCharts.back?_lands hAnswers hReachedPath.resolve_eq hBelow hI₁
  have hReturns : w.scope = v.scope := by
    rw [hLands, hReachedPath.filter_ancestors, hDescent.landing_ancestors hWell hPath,
      Territory.landing_ancestors_of_choice hParent hChoice]
  have hLevel : w.level = v.level := by rw [hShows.level, hReturns, ← hFaithful.level]
  refine ⟨n'.showing w, c₂, hBack, ?_⟩
  calc (n'.showing w).state = ⟨w.scope, w.level⟩ := rfl
    _ = n.state := by rw [hReturns, hLevel, ← hState]

end Charts

/-! ## Over an engine -/

section Engine

variable {ρ : Type} [Repository ρ] {t : Territory} {e : Engine ρ}

/-- Careful programs leave the territory as it is. -/
theorem RestsOn.perform (h : RestsOn t e) {p : Program α} {post : α → Prop}
    (hCareful : ∀ base, p.IsCareful base post) (stop : Cancellation) :
    RestsOn t (Engine.perform p stop e).2 := by
  obtain ⟨l, hKept, rfl⟩ := h
  have hLike : l.IsLike (p.run stop 0 l).repository := p.run_isLike stop 0 (.refl l)
  exact ⟨_, Program.run_isKeptBy (hCareful l) hKept stop 0, hLike.1⟩

theorem RestsOn.executed (h : RestsOn t e) (commands : List (Command × Cancellation)) :
    RestsOn t (e.executed commands) := by
  induction commands generalizing e with
  | nil => exact h
  | cons c rest ih => exact ih (h.perform (fun _ => c.1.execute_careful) c.2)

/-- **Back undoes drill-down.** A navigator whose last view, whichever movement has shown it, lists
several children enters each of them; and wherever that leads, a step back then stands at the path
and the level of that view again. The territory has to be the same throughout. Everything else about
the engine may be different each time: who is assigned, which counters are kept, what was announced.
-/
theorem back_undoes_drillDown (hValid : t.validate = .ok ()) {n₀ n : Navigator} {m : Move}
    {e₀ e₁ : Engine ρ} (hRests : RestsOn t e₀)
    (hShown : m.run Engine.view n₀ e₀ = (.ok (some n), e₁)) {v : View} (hView : n.view = some v)
    (hSeveral : 2 ≤ v.content.nodeList.length) {child : Node} (hChild : child ∈ v.content.nodeList)
    {e₂ : Engine ρ} (hNow : RestsOn t e₂) :
    ∃ (n' : Navigator) (e₃ : Engine ρ), n.drillDown Engine.view child.scope e₂ = (.ok n', e₃) ∧
      (∀ commands, RestsOn t (e₃.executed commands)) ∧
      ∀ e₄ : Engine ρ, RestsOn t e₄ →
        ∃ n'' e₅, n'.back? Engine.view e₄ = (.ok (some n''), e₅) ∧ n''.state = n.state := by
  have hWell := Territory.validate_wellFormed hValid
  have hCharts : Charts t (RestsOn t) (Engine.view : ViewSource (Engine ρ)) := engine_charts_kept t
  obtain ⟨-, hMoved⟩ := ensures_run hWell hCharts n₀ m e₀ hRests
  rw [hShown] at hMoved
  obtain ⟨⟨w, hSome, hState, hFaithful⟩, -, -⟩ := hMoved _ rfl n rfl
  obtain rfl : v = w := Option.some.inj (hView.symm.trans hSome)
  obtain ⟨n', e₃, hDown, hStill, hUp⟩ :=
    hCharts.back_returns hWell (engine_answers t) hState hFaithful hSeveral hChild hNow
  exact ⟨n', e₃, hDown, hStill.executed, hUp⟩

end Engine

/-! ## A detour on the coast -/

/-- An engine over the coast in memory, with somebody to be assigned. -/
def mannedCoast : Engine Ledger :=
  .start (.start .coast [⟨1, "Anna", "anna@example.org", none, 1, some 1, "", none⟩])

/-- The province offers two municipalities. Entering the first one leads through it to its only
district; a section is filled there, and the way back leads to the province. -/
theorem back_undoes_drillDown_coast :
    Territory.coast.validate = .ok () ∧ RestsOn .coast mannedCoast ∧
    ∃ n e₁ v child n' e₃ n'' e₅,
      Move.refresh.run Engine.view (startAt ⟨some 1, some 1, none, none⟩ 8) mannedCoast =
        (.ok (some n), e₁) ∧
      n.view = some v ∧ 2 ≤ v.content.nodeList.length ∧ child ∈ v.content.nodeList ∧
      n.drillDown Engine.view child.scope e₁ = (.ok n', e₃) ∧
      n'.state = ⟨coastDistrict, .sectionList⟩ ∧
      (e₃.executed [(.assign 1 1 .primary, none)]).repository.assignments =
        [⟨1, 1, 1, .primary⟩] ∧
      n'.back? Engine.view (e₃.executed [(.assign 1 1 .primary, none)]) = (.ok (some n''), e₅) ∧
      n''.state = n.state := by
  have hValid : Territory.coast.validate = .ok () := by rfl
  have hRests : RestsOn .coast mannedCoast := ⟨_, Ledger.isKeptBy_self _, rfl⟩
  obtain ⟨n, e₁, v, child, hShown, hView, hSeveral, hChild, hTerritory, hFirst⟩ : ∃ n e₁ v child,
      Move.refresh.run Engine.view (startAt ⟨some 1, some 1, none, none⟩ 8) mannedCoast =
        (.ok (some n), e₁) ∧
      n.view = some v ∧ 2 ≤ v.content.nodeList.length ∧ child ∈ v.content.nodeList ∧
      e₁.repository.territory = .coast ∧ ∃ n' e₃,
        n.drillDown Engine.view child.scope e₁ = (.ok n', e₃) ∧
        n'.state = ⟨coastDistrict, .sectionList⟩ ∧
        (e₃.executed [(.assign 1 1 .primary, none)]).repository.assignments =
          [⟨1, 1, 1, .primary⟩] :=
    ⟨_, _, _, _, rfl, rfl, by decide, List.mem_cons_self, by rfl, _, _, by rfl, by rfl, by rfl⟩
  have hNow : RestsOn .coast e₁ := ⟨_, Ledger.isKeptBy_self _, hTerritory⟩
  obtain ⟨n', e₃, hDown, hStill, hUp⟩ :=
    back_undoes_drillDown hValid hRests hShown hView hSeveral hChild hNow
  obtain ⟨n₁, e₂, hDown', hDistrict, hFilled⟩ := hFirst
  obtain ⟨hSame, rfl⟩ := Prod.ext_iff.mp (hDown'.symm.trans hDown)
  obtain rfl := Except.ok.inj hSame
  obtain ⟨n'', e₅, hBack, hReturns⟩ := hUp _ (hStill [(.assign 1 1 .primary, none)])
  exact ⟨hValid, hRests, n, e₁, v, child, n₁, _, n'', e₅, hShown, hView, hSeveral, hChild, hDown,
    hDistrict, hFilled, hBack, hReturns⟩

end Navigator

end PollRoster
