import PollRoster.Navigator
import PollRoster.Proofs.Actions
import PollRoster.Proofs.Links

/-!
# Navigating a territory

A source of views charts a territory if its answers show the territory as it is. What else they
show, and how the source changes meanwhile, is left open, so that other clients may be at work. Over
such a source the navigator stands where its view says. It goes on through sole children only, each
one level deeper, so neither a circle nor the depth of the territory stops it early.

Main results:

* `Charts.ensures_skipAhead` — how far a view is passed over, by induction on the steps left.
* `Charts.ensures_refresh`, `Charts.ensures_back?` — where the movements end.
-/

namespace PollRoster

/-! ## Ways through sole children -/

namespace Territory

variable {t : Territory} {p q : Scope} {n : Nat}

/-- Whether a way leads from one path down to another, through `n` children each of which is the
only one of its parent. -/
inductive SoleDescent (t : Territory) : Nat → Scope → Scope → Prop
  | stay (p : Scope) : SoleDescent t 0 p p
  | enter {p q r : Scope} {n : Nat} (hOnly : (t.below p).2.map Child.scope = [q])
      (hRest : SoleDescent t n q r) : SoleDescent t (n + 1) p r

/-- The only child of a path is a path one step deeper. -/
theorem IsPath.only_child (hWell : t.WellFormed) (hp : t.IsPath p)
    (hOnly : (t.below p).2.map Child.scope = [q]) : t.IsPath q ∧ q.parent? = some p := by
  rw [← hp.mem_below_iff hWell, hOnly]
  exact List.mem_cons_self

theorem SoleDescent.depth_eq (hWell : t.WellFormed) (h : t.SoleDescent n p q) (hp : t.IsPath p) :
    q.depth = p.depth + n := by
  induction h with
  | stay p => rfl
  | enter hOnly _ ih =>
    obtain ⟨hChild, hParent⟩ := hp.only_child hWell hOnly
    rw [ih hChild, hChild.gapless.depth_of_parent? hParent]
    omega

theorem SoleDescent.contains (hWell : t.WellFormed) (h : t.SoleDescent n p q) (hp : t.IsPath p) :
    p.contains q := by
  induction h with
  | stay p => exact p.contains_self
  | enter hOnly _ ih =>
    obtain ⟨hChild, hParent⟩ := hp.only_child hWell hOnly
    exact Scope.contains_trans (Scope.contains_of_parent? hParent) (ih hChild)

end Territory

namespace View.IsFaithful

variable {t : Territory} {v : View}

/-- A view is passed over into the only child of its path, if there is just one. -/
theorem onlyChild?_cases (h : v.IsFaithful t) :
    (v.autoSkip = false ∧ v.onlyChild? = none) ∨
    ∃ q, v.onlyChild? = some q ∧ (t.below v.scope).2.map Territory.Child.scope = [q] := by
  -- what the view says of itself is what its nodes say
  cases hSkip : v.autoSkip with
  | false =>
    refine .inl ⟨rfl, ?_⟩
    rw [View.onlyChild?, hSkip]
    rfl
  | true =>
    have hOne := h.autoSkip
    rw [hSkip, eq_comm, Bool.and_eq_true, decide_eq_true_eq, decide_eq_true_eq] at hOne
    obtain ⟨hNodes, hSize⟩ := hOne
    have hContent := h.content
    rw [if_neg hNodes] at hContent
    obtain ⟨ns, hns⟩ := hContent
    rw [hns] at hSize
    obtain ⟨only, rfl⟩ := List.length_eq_one_iff.mp hSize
    refine .inr ⟨only.scope, ?_, ?_⟩
    · rw [View.onlyChild?, hSkip, hns]
      rfl
    · rw [← h.scopes, hns]
      rfl

/-- A view that is not passed over lists sections, or no child, or several. -/
theorem size_of_autoSkip_eq_false (h : v.IsFaithful t) (hStop : v.autoSkip = false) :
    v.level = .sectionList ∨ v.content.nodeList.length ≠ 1 := by
  by_cases hLast : v.level = .sectionList
  · exact .inl hLast
  · refine .inr fun hOne => ?_
    have hContent := h.content
    rw [if_neg hLast] at hContent
    obtain ⟨ns, hns⟩ := hContent
    have hSize : v.content.size = 1 := by
      rw [hns] at hOne ⊢
      exact hOne
    have hSkip := h.autoSkip
    rw [hStop, hSize, decide_eq_true hLast] at hSkip
    exact Bool.noConfusion hSkip

/-- On the last level nothing is passed over. -/
theorem autoSkip_eq_false_of_depth (h : v.IsFaithful t) (hDeep : 4 ≤ v.scope.depth) :
    v.autoSkip = false := by
  have hLast : v.level = .sectionList := by
    have hRank := h.isPath.depth_le_rank
    rw [← h.level] at hRank
    cases hLevel : v.level with
    | sectionList => rfl
    | region | province | municipality | district =>
      rw [hLevel] at hRank
      simp only [Level.rank] at hRank
      omega
  rw [h.autoSkip, hLast]
  rfl

end View.IsFaithful

/-! ## Movements over a source that charts a territory -/

namespace Navigator

variable {t : Territory} {I : σ → Prop} {source : ViewSource σ}

/-- Whether a source of views shows a territory as it is, and keeps `I` so that it still does. -/
def Charts (t : Territory) (I : σ → Prop) (source : ViewSource σ) : Prop :=
  ∀ scope, Ensures I (source scope) fun v => t.resolve scope = .ok v.scope ∧ v.IsFaithful t

/-- Whether a navigator stands where its view says, on a path of the territory. -/
def Stands (t : Territory) (n : Navigator) : Prop :=
  ∃ v, n.view = some v ∧ n.state = ⟨v.scope, v.level⟩ ∧ v.IsFaithful t

/-- Whether a navigator stands where a scope leads to: the path of the scope, or what lies behind
sole children below it. -/
structure Reached (t : Territory) (asked : Scope) (n : Navigator) : Prop where
  descent : ∃ q k, t.resolve asked = .ok q ∧ k ≤ n.maxAutoSkip ∧ t.SoleDescent k q n.state.path
  inside : asked.contains n.state.path
  /-- With a limit as deep as the territory there is a choice to make, or nothing to choose from. -/
  settled : 4 ≤ n.maxAutoSkip → ∃ v, n.view = some v ∧ v.autoSkip = false ∧
    (v.level = .sectionList ∨ v.content.nodeList.length ≠ 1)

theorem stands_showing (n : Navigator) {v : View} (h : v.IsFaithful t) : (n.showing v).Stands t :=
  ⟨v, rfl, rfl, h⟩

section Charts

variable (hWell : t.WellFormed) (hCharts : Charts t I source)
include hWell hCharts

/-- **Passing over.** What is passed over are sole children, and only the limit stops before a
view that is not passed over. -/
theorem Charts.ensures_skipAhead (steps : Nat) (visited : List Scope) {v : View}
    (hv : v.IsFaithful t) (hVisited : ∀ k ∈ visited, k.depth ≤ v.scope.depth) :
    Ensures I (skipAhead source steps visited v) fun w => w.IsFaithful t ∧
      ∃ k, k ≤ steps ∧ t.SoleDescent k v.scope w.scope ∧ (w.autoSkip → k = steps) := by
  -- on the steps left; every child is deeper than whatever was visited
  induction steps generalizing visited v with
  | zero => exact ensures_pure ⟨hv, 0, Nat.le_refl 0, .stay _, fun _ => rfl⟩
  | succ steps ih =>
    rw [skipAhead]
    rcases hv.onlyChild?_cases with ⟨hStop, hNone⟩ | ⟨q, hSome, hOnly⟩
    · rw [hNone]
      refine ensures_pure ⟨hv, 0, Nat.zero_le _, .stay _, fun hSkip => ?_⟩
      rw [hStop] at hSkip
      exact Bool.noConfusion hSkip
    · obtain ⟨hPath, hParent⟩ := hv.isPath.only_child hWell hOnly
      have hDeeper : q.depth = v.scope.depth + 1 := hPath.gapless.depth_of_parent? hParent
      have hNew : ¬visited.contains q = true := by
        rw [List.contains_iff_mem]
        intro hMem
        have hOld := hVisited q hMem
        omega
      rw [hSome]
      dsimp only
      rw [if_neg hNew]
      refine (hCharts q).bind fun next hNext => ?_
      obtain ⟨hResolve, hFaithful⟩ := hNext
      -- a path is shown as itself
      rw [hPath.resolve_eq] at hResolve
      obtain rfl := Except.ok.inj hResolve
      have hStillAbove : ∀ k ∈ next.scope :: visited, k.depth ≤ next.scope.depth := by
        refine List.forall_mem_cons.mpr ⟨Nat.le_refl _, fun k hk => ?_⟩
        have hOld := hVisited k hk
        omega
      refine (ih (next.scope :: visited) hFaithful hStillAbove).mono fun w hw => ?_
      obtain ⟨hw, k, hSteps, hDescent, hLimit⟩ := hw
      exact ⟨hw, k + 1, Nat.succ_le_succ hSteps, .enter hOnly hDescent,
        fun hSkip => congrArg Nat.succ (hLimit hSkip)⟩

/-- **Refreshing** ends where the path of the navigator leads to. -/
theorem Charts.ensures_refresh (n : Navigator) :
    Ensures I (refresh source n) fun n' => n'.Stands t ∧ n'.maxAutoSkip = n.maxAutoSkip ∧
      n'.Reached t n.state.path := by
  refine (hCharts n.state.path).bind fun first hFirst => ?_
  obtain ⟨hResolve, hFaithful⟩ := hFirst
  have hVisited : ∀ k ∈ [first.scope], k.depth ≤ first.scope.depth := by
    intro k hk
    exact Nat.le_of_eq (congrArg Scope.depth (List.mem_singleton.mp hk))
  refine (hCharts.ensures_skipAhead hWell n.maxAutoSkip _ hFaithful hVisited).bind
    fun last hLast => ?_
  obtain ⟨hLast, k, hSteps, hDescent, hLimit⟩ := hLast
  have hDepth := hDescent.depth_eq hWell hFaithful.isPath
  refine ensures_pure ⟨stands_showing n hLast, rfl, ⟨_, k, hResolve, hSteps, hDescent⟩, ?_, ?_⟩
  · exact Scope.contains_trans (Territory.contains_of_resolve hResolve)
      (hDescent.contains hWell hFaithful.isPath)
  · intro hFour
    have hStop : last.autoSkip = false := by
      rw [← Bool.not_eq_true]
      intro hSkip
      -- the limit was reached, so the navigator is at the bottom of the territory
      have hBottom : k = n.maxAutoSkip := hLimit hSkip
      have hDeep : 4 ≤ last.scope.depth := by
        change 4 ≤ n.maxAutoSkip at hFour
        omega
      rw [hLast.autoSkip_eq_false_of_depth hDeep] at hSkip
      exact Bool.noConfusion hSkip
    exact ⟨last, rfl, hStop, hLast.size_of_autoSkip_eq_false hStop⟩

theorem Charts.ensures_drillDown (child : Scope) (n : Navigator) :
    Ensures I (drillDown source child n) fun n' => n'.Stands t ∧ n'.maxAutoSkip = n.maxAutoSkip ∧
      n'.Reached t child := by
  rw [drillDown]
  split
  · exact ensures_fail _
  · exact hCharts.ensures_refresh hWell _

omit hWell in
theorem Charts.ensures_climb (path : Scope) (ancestors : List Scope) :
    Ensures I (climb source path ancestors) fun v => v.IsFaithful t := by
  induction ancestors generalizing path with
  | nil => exact (hCharts path).mono fun v hv => hv.2
  | cons ancestor above ih =>
    refine (hCharts path).bind fun v hv => ?_
    split
    · exact ih ancestor
    · exact ensures_pure hv.2

omit hWell in
/-- **Going back** ends above the path, and from the root nowhere. -/
theorem Charts.ensures_back? (n : Navigator) :
    Ensures I (back? source n) fun found => ∀ n', found = some n' →
      n'.Stands t ∧ n'.maxAutoSkip = n.maxAutoSkip ∧ n.state.path.ancestors ≠ [] := by
  rw [back?]
  cases n.state.path.ancestors with
  | nil => exact ensures_pure fun _ h => (nomatch h)
  | cons parent above =>
    refine (hCharts.ensures_climb parent above).bind fun v hv => ?_
    refine ensures_pure fun n' hn' => ?_
    rw [← Option.some.inj hn']
    exact ⟨stands_showing n hv, rfl, List.cons_ne_nil _ _⟩

end Charts

end Navigator

end PollRoster
