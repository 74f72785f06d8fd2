import PollRoster.Navigator.InPlace
import PollRoster.Proofs.Actions
import PollRoster.Proofs.Paths

/-!
# Navigators over arbitrary sources

Nothing is asked of a source here. It may fail at any moment, show a scope other than the one asked
for, announce children that lie anywhere, and answer differently the next time. What holds of a
navigator all the same follows from how it is written alone: a movement that fails has put back what
it wrote, the way down is cut short by the limit and by what was visited, and the way up by the
depth of the path.

A movement in place does what the movement that answers a new navigator does: the new navigator
takes the place of the old one, unless there is none. To count what a source is asked, the source is
put beside a list that it writes every scope to; this changes none of its answers.

Main results:

* `skipAhead_queries`, `climb_queries` — what is asked on the way down and on the way up, by
  induction on the steps left and on the ancestors.
* `InPlace.apply_performs`, `InPlace.back_climbs` — what each movement in place comes to.
* `InPlace.movements_contained` — what a failure leaves, and how much is asked.
-/

namespace PollRoster

namespace Navigator

variable {σ τ : Type}

/-! ## Sources that answer alike -/

section Tracks

variable {R : τ → σ → Prop} {source' : ViewSource τ} {source : ViewSource σ}
variable (hSource : ∀ scope, Tracks R (source' scope) (source scope))
include hSource

theorem tracks_skipAhead (steps : Nat) (visited : List Scope) (v : View) :
    Tracks R (skipAhead source' steps visited v) (skipAhead source steps visited v) := by
  induction steps generalizing visited v with
  | zero => exact tracks_pure v
  | succ steps ih =>
    rw [skipAhead, skipAhead]
    cases v.onlyChild? with
    | none => exact tracks_pure v
    | some child =>
      dsimp only
      by_cases hSeen : visited.contains child = true
      · rw [if_pos hSeen, if_pos hSeen]
        exact tracks_pure v
      · rw [if_neg hSeen, if_neg hSeen]
        exact (hSource child).bind fun next => ih _ next

theorem tracks_climb (path : Scope) (above : List Scope) :
    Tracks R (climb source' path above) (climb source path above) := by
  induction above generalizing path with
  | nil => exact hSource path
  | cons ancestor above ih =>
    refine (hSource path).bind fun v => ?_
    cases v.autoSkip with
    | true => exact ih ancestor
    | false => exact tracks_pure v

theorem tracks_refresh (n : Navigator) : Tracks R (refresh source' n) (refresh source n) :=
  (hSource _).bind fun _ => (tracks_skipAhead hSource _ _ _).bind fun _ => tracks_pure _

theorem tracks_back? (n : Navigator) : Tracks R (back? source' n) (back? source n) := by
  rw [back?, back?]
  cases n.state.path.ancestors with
  | nil => exact tracks_pure none
  | cons parent above => exact (tracks_climb hSource parent above).bind fun _ => tracks_pure _

/-- Navigators over sources that answer alike answer alike. -/
theorem tracks_apply (action : NavigationAction) (n : Navigator) :
    Tracks R (apply source' action n) (apply source action n) := by
  cases action with
  | refresh => exact tracks_refresh hSource n
  | drillDown child =>
    rw [apply, apply, drillDown, drillDown]
    split
    · exact tracks_fail notBelow
    · exact tracks_refresh hSource _
  | back =>
    refine (tracks_back? hSource n).bind fun found => ?_
    cases found with
    | some n' => exact tracks_pure n'
    | none => exact tracks_refresh hSource n

end Tracks

/-! ## What is asked -/

/-- A source beside the list of the scopes that it was asked for, the first one first. -/
def recorded (source : ViewSource σ) : ViewSource (σ × List Scope) := fun scope (s, asked) =>
  let (answer, s) := source scope s
  (answer, s, asked ++ [scope])

/-- The list changes no answer. -/
theorem tracks_recorded (source : ViewSource σ) (scope : Scope) :
    Tracks (fun t s => t.1 = s) (recorded source scope) (source scope) := by
  rintro ⟨s, asked⟩ _ rfl
  exact ⟨rfl, rfl⟩

/-- **Recording** a source makes no difference to a movement over it. -/
theorem apply_recorded (source : ViewSource σ) (action : NavigationAction) (n : Navigator) (s : σ)
    (asked : List Scope) :
    (n.apply (recorded source) action (s, asked)).1 = (n.apply source action s).1 ∧
      (n.apply (recorded source) action (s, asked)).2.1 = (n.apply source action s).2 :=
  tracks_apply (tracks_recorded source) action n (s, asked) s rfl

/-- The scopes that an action over a recorded source asks for. -/
def questions (x : Action (σ × List Scope) OperationError α) (s : σ) : List Scope := (x (s, [])).2.2

section Queries

variable (source : ViewSource σ)

theorem recorded_apply (scope : Scope) (s : σ) (asked : List Scope) :
    recorded source scope (s, asked) =
      ((source scope s).1, (source scope s).2, asked ++ [scope]) := rfl

/-- Whether a list of scopes goes on from another one with at most so many children, each of them
once and none that was visited. -/
def GoesOn (steps : Nat) (visited asked log : List Scope) : Prop :=
  ∃ children, log = asked ++ children ∧ children.length ≤ steps ∧ children.Nodup ∧
    ∀ child ∈ children, child ∉ visited

theorem GoesOn.stay (steps : Nat) (visited asked : List Scope) :
    GoesOn steps visited asked asked :=
  ⟨[], (List.append_nil asked).symm, Nat.zero_le steps, List.nodup_nil,
    fun _ h => absurd h List.not_mem_nil⟩

/-- A child that is asked for has been visited from then on. -/
theorem GoesOn.enter {steps : Nat} {visited asked log : List Scope} {child : Scope}
    (hNew : child ∉ visited) (h : GoesOn steps (child :: visited) (asked ++ [child]) log) :
    GoesOn (steps + 1) visited asked log := by
  obtain ⟨children, hLog, hLength, hDistinct, hUnseen⟩ := h
  refine ⟨child :: children, ?_, Nat.succ_le_succ hLength, ?_, ?_⟩
  · rw [hLog, List.append_assoc]
    rfl
  · refine List.nodup_cons.mpr ⟨fun hMem => ?_, hDistinct⟩
    exact hUnseen child hMem List.mem_cons_self
  · intro c hc
    rcases List.mem_cons.mp hc with rfl | hMem
    · exact hNew
    · exact fun hOld => hUnseen c hMem (List.mem_cons_of_mem child hOld)

/-- **On the way down** no more scopes are asked for than there are steps, and none that was
visited, so none twice. -/
theorem skipAhead_queries (steps : Nat) (visited : List Scope) (v : View) (s : σ)
    (asked : List Scope) :
    GoesOn steps visited asked (skipAhead (recorded source) steps visited v (s, asked)).2.2 := by
  -- on the steps left; the view and the scopes asked for so far may be any
  induction steps generalizing visited v s asked with
  | zero => exact .stay 0 visited asked
  | succ steps ih =>
    rw [skipAhead]
    cases v.onlyChild? with
    | none => exact .stay _ visited asked
    | some child =>
      dsimp only
      by_cases hSeen : visited.contains child = true
      · rw [if_pos hSeen]
        exact .stay _ visited asked
      have hNew : child ∉ visited := fun hMem => hSeen (List.contains_iff_mem.mpr hMem)
      rw [if_neg hSeen, Action.bind_apply, recorded_apply]
      rcases source child s with ⟨answer, s'⟩
      cases answer with
      -- the scope counts as asked for even if the source fails on it
      | error e => exact .enter hNew (.stay steps _ _)
      | ok next => exact .enter hNew (ih (child :: visited) next s' (asked ++ [child]))

/-- **On the way up** the ancestors are asked for in their order, as far as it goes. -/
theorem climb_queries (path : Scope) (above : List Scope) (s : σ) (asked : List Scope) :
    ∃ climbed, (climb (recorded source) path above (s, asked)).2.2 = asked ++ climbed ∧
      climbed <+: path :: above := by
  have hOnly : [path] <+: path :: above := List.prefix_append [path] above
  induction above generalizing path s asked with
  | nil => exact ⟨[path], rfl, hOnly⟩
  | cons ancestor above ih =>
    rw [climb, Action.bind_apply, recorded_apply]
    rcases source path s with ⟨answer, s'⟩
    cases answer with
    | error e => exact ⟨[path], rfl, hOnly⟩
    | ok v =>
      dsimp only
      cases v.autoSkip with
      | false => exact ⟨[path], rfl, hOnly⟩
      | true =>
        obtain ⟨climbed, hAsked, hPrefix⟩ :=
          ih ancestor s' (asked ++ [path]) (List.prefix_append [ancestor] above)
        refine ⟨path :: climbed, ?_, (List.prefix_cons_inj path).mpr hPrefix⟩
        rw [List.append_assoc] at hAsked
        exact hAsked

/-- What may be asked for when a path is to be shown: the path itself, and then children, each of
them once and no more than are passed over at once. -/
def IsDescent (path : Scope) (maxAutoSkip : Nat) (asked : List Scope) : Prop :=
  ∃ children, asked = path :: children ∧ children.length ≤ maxAutoSkip ∧ children.Nodup

theorem refresh_questions (n : Navigator) (s : σ) :
    IsDescent n.state.path n.maxAutoSkip (questions (refresh (recorded source) n) s) := by
  rw [questions, refresh, Action.bind_apply, recorded_apply]
  rcases source n.state.path s with ⟨answer, s'⟩
  cases answer with
  | error e => exact ⟨[], rfl, Nat.zero_le _, List.nodup_nil⟩
  | ok first =>
    obtain ⟨children, hAsked, hLength, hDistinct, -⟩ :=
      skipAhead_queries source n.maxAutoSkip [first.scope] first s' [n.state.path]
    refine ⟨children, ?_, hLength, hDistinct⟩
    dsimp only
    rw [Action.bind_pure_apply]
    exact hAsked

theorem drillDown_questions (child : Scope) (n : Navigator) (s : σ) :
    questions (drillDown (recorded source) child n) s = [] ∨
      IsDescent child n.maxAutoSkip (questions (drillDown (recorded source) child n) s) := by
  rw [drillDown]
  split
  · exact .inl rfl
  · exact .inr (refresh_questions source _ s)

theorem back?_questions (n : Navigator) (s : σ) :
    questions (back? (recorded source) n) s <+: n.state.path.ancestors := by
  rw [questions, back?]
  cases n.state.path.ancestors with
  | nil => exact List.nil_prefix
  | cons parent above =>
    obtain ⟨climbed, hAsked, hPrefix⟩ :=
      climb_queries source parent above s []
    dsimp only
    rw [Action.bind_pure_apply]
    dsimp only
    rw [hAsked]
    exact hPrefix

end Queries

/-! ## Movements in place -/

namespace InPlace

/-- Whether a movement in place comes to the same as one that answers a navigator: both show one
view, or both fail and the old navigator is there. -/
inductive Performs (n : Navigator) :
    Except OperationError View × Navigator × σ → Except OperationError Navigator × σ → Prop
  | shown (v : View) (s : σ) : Performs n (.ok v, n.showing v, s) (.ok (n.showing v), s)
  | failed (e : OperationError) (s : σ) : Performs n (.error e, n, s) (.error e, s)

/-- The same of a step back, for which there may be no way. -/
inductive Climbs (n : Navigator) :
    Except OperationError Bool × Navigator × σ → Except OperationError (Option Navigator) × σ → Prop
  | shown (v : View) (s : σ) : Climbs n (.ok true, n.showing v, s) (.ok (some (n.showing v)), s)
  | none (s : σ) : Climbs n (.ok false, n, s) (.ok none, s)
  | failed (e : OperationError) (s : σ) : Climbs n (.error e, n, s) (.error e, s)

section Performs

variable (source : ViewSource σ) (n : Navigator) (s : σ)

theorem tracks_ask (scope : Scope) :
    Tracks (fun t s => t = (n, s)) (ask source scope) (source scope) := by
  rintro _ s rfl
  exact ⟨rfl, rfl⟩

/-- What is asked beside a navigator leaves the navigator alone. -/
theorem apply_of_tracks {x : InPlace σ α} {y : Action σ OperationError α}
    (h : Tracks (fun t s => t = (n, s)) x y) (s : σ) : x (n, s) = ((y s).1, n, (y s).2) := by
  obtain ⟨hAnswer, hState⟩ := h (n, s) s rfl
  exact Prod.ext hAnswer hState

theorem present_bind (f : Navigator → InPlace σ α) : (present >>= f) (n, s) = f n (n, s) :=
  Action.bind_of_ok rfl f

theorem refresh_performs : Performs n (refresh source (n, s)) (n.refresh source s) := by
  rw [refresh, present_bind, Navigator.refresh, Action.bind_apply, Action.bind_apply,
    apply_of_tracks n (tracks_ask source n n.state.path) s]
  rcases source n.state.path s with ⟨answer, s₁⟩
  cases answer with
  | error e => exact .failed e s₁
  | ok first =>
    have hSkip := tracks_skipAhead (tracks_ask source n) n.maxAutoSkip [first.scope] first
    dsimp only
    rw [Action.bind_apply, Action.bind_apply, apply_of_tracks n hSkip s₁]
    rcases skipAhead source n.maxAutoSkip [first.scope] first s₁ with ⟨answer, s₂⟩
    cases answer with
    | error e => exact .failed e s₂
    | ok last => exact .shown last s₂

/-- **Entering a scope.** The path that was written is written over again: by the view that is
shown, or by the path that was there before. -/
theorem drillDown_performs (child : Scope) :
    Performs n (drillDown source child (n, s)) (n.drillDown source child s) := by
  rw [drillDown, present_bind, Navigator.drillDown]
  split
  · exact .failed notBelow s
  · -- the navigator that is refreshed stands at the child already
    let moved : Navigator := { n with state := { n.state with path := child } }
    have hStand : stand moved.state (n, s) =
        ((.ok (), moved, s) : Except OperationError Unit × Navigator × σ) := rfl
    have hRefresh := refresh_performs source moved s
    rw [Action.bind_of_ok hStand, Action.bind_apply, Action.attempt]
    generalize refresh source (moved, s) = inPlace at hRefresh ⊢
    generalize Navigator.refresh source moved s = answered at hRefresh ⊢
    cases hRefresh with
    | shown v s' => exact .shown v s'
    | failed e s' => exact .failed e s'

theorem back_climbs : Climbs n (back source (n, s)) (n.back? source s) := by
  rw [back, present_bind, back?]
  cases n.state.path.ancestors with
  | nil => exact .none s
  | cons parent above =>
    have hClimb := tracks_climb (tracks_ask source n) parent above
    dsimp only
    rw [Action.bind_apply, Action.bind_apply, apply_of_tracks n hClimb s]
    rcases climb source parent above s with ⟨answer, s'⟩
    cases answer with
    | error e => exact .failed e s'
    | ok v => exact .shown v s'

/-- **Movements in place** do what the movements that answer a navigator do. -/
theorem apply_performs (action : NavigationAction) :
    Performs n (apply source action (n, s)) (n.apply source action s) := by
  cases action with
  | refresh => exact refresh_performs source n s
  | drillDown child => exact drillDown_performs source n s child
  | back =>
    have hBack := back_climbs source n s
    rw [apply, Navigator.apply, Action.bind_apply, Action.bind_apply]
    generalize back source (n, s) = inPlace at hBack ⊢
    generalize Navigator.back? source n s = answered at hBack ⊢
    cases hBack with
    | shown v s' => exact .shown v s'
    | none s' => exact refresh_performs source n s'
    | failed e s' => exact .failed e s'

end Performs

/-! ## Failures and questions -/

/-- Whether a movement that fails leaves the navigator as it was: its path, its level and the view
that it shows. -/
def IsAtomic (x : InPlace σ α) : Prop :=
  ∀ n s e n' s', x (n, s) = (.error e, n', s') → n' = n

/-- The scopes that a movement in place asks a recorded source for. -/
def asked (x : InPlace (σ × List Scope) α) (n : Navigator) (s : σ) : List Scope :=
  (x (n, s, [])).2.2.2

theorem isAtomic_of_performs {x : InPlace σ View}
    {y : Navigator → Action σ OperationError Navigator}
    (h : ∀ n s, Performs n (x (n, s)) (y n s)) : x.IsAtomic := by
  intro n s e n' s' hFails
  have hPerforms := h n s
  rw [hFails] at hPerforms
  generalize y n s = answered at hPerforms
  cases hPerforms with
  | failed => rfl

theorem back_isAtomic (source : ViewSource σ) : (back source).IsAtomic := by
  intro n s e n' s' hFails
  have hClimbs := back_climbs source n s
  rw [hFails] at hClimbs
  generalize n.back? source s = answered at hClimbs
  cases hClimbs with
  | failed => rfl

theorem Performs.source_eq {n : Navigator}
    {inPlace : Except OperationError View × Navigator × σ}
    {answered : Except OperationError Navigator × σ} (h : Performs n inPlace answered) :
    inPlace.2.2 = answered.2 := by
  cases h <;> rfl

theorem Climbs.source_eq {n : Navigator} {inPlace : Except OperationError Bool × Navigator × σ}
    {answered : Except OperationError (Option Navigator) × σ} (h : Climbs n inPlace answered) :
    inPlace.2.2 = answered.2 := by
  cases h <;> rfl

theorem asked_refresh (source : ViewSource σ) (n : Navigator) (s : σ) :
    asked (refresh (recorded source)) n s = questions (n.refresh (recorded source)) s :=
  congrArg Prod.snd (refresh_performs (recorded source) n (s, [])).source_eq

theorem asked_drillDown (source : ViewSource σ) (child : Scope) (n : Navigator) (s : σ) :
    asked (drillDown (recorded source) child) n s =
      questions (n.drillDown (recorded source) child) s :=
  congrArg Prod.snd (drillDown_performs (recorded source) n (s, []) child).source_eq

theorem asked_back (source : ViewSource σ) (n : Navigator) (s : σ) :
    asked (back (recorded source)) n s = questions (n.back? (recorded source)) s :=
  congrArg Prod.snd (back_climbs (recorded source) n (s, [])).source_eq

/-- **Movements over an arbitrary source.** One that fails leaves the navigator as it was, whatever
it had written by then. A refresh asks for the path and then for children, none of them twice, and
so does entering a scope, unless the scope is refused before anything is asked. A step back asks for
ancestors of the path, the nearest first and no more than the path is deep. -/
theorem movements_contained (source : ViewSource σ) :
    ((refresh source).IsAtomic ∧ (∀ child, (drillDown source child).IsAtomic) ∧
      (back source).IsAtomic ∧ ∀ action, (apply source action).IsAtomic) ∧
    ∀ n s,
      IsDescent n.state.path n.maxAutoSkip (asked (refresh (recorded source)) n s) ∧
      (asked (refresh (recorded source)) n s).length ≤ n.maxAutoSkip + 1 ∧
      (∀ child, asked (drillDown (recorded source) child) n s = [] ∨
        IsDescent child n.maxAutoSkip (asked (drillDown (recorded source) child) n s)) ∧
      asked (back (recorded source)) n s <+: n.state.path.ancestors ∧
      (asked (back (recorded source)) n s).length ≤ n.state.path.depth := by
  refine ⟨⟨?_, fun child => ?_, back_isAtomic source, fun action => ?_⟩, fun n s => ?_⟩
  · exact isAtomic_of_performs (refresh_performs source)
  · exact isAtomic_of_performs fun n s => drillDown_performs source n s child
  · exact isAtomic_of_performs fun n s => apply_performs source n s action
  · rw [asked_refresh, asked_back]
    have hDown := refresh_questions source n s
    have hUp := back?_questions source n s
    refine ⟨hDown, ?_, fun child => ?_, hUp, ?_⟩
    · obtain ⟨children, hAsked, hLength, -⟩ := hDown
      rw [hAsked, List.length_cons]
      omega
    · rw [asked_drillDown]
      exact drillDown_questions source child n s
    · calc (questions (n.back? (recorded source)) s).length
          ≤ n.state.path.ancestors.length := hUp.length_le
        _ ≤ n.state.path.depth := n.state.path.length_ancestors_le

/-- A source that leads around in a circle: from the root to a region, and from there to the root.
-/
def circling : ViewSource Unit := fun scope s =>
  let child : Scope := if scope = .root then .ofRegion 1 else .root
  let noCount : Counters := ⟨0, 0, 0, 0⟩
  (.ok { scope, level := .region, content := .nodes [⟨.province, child, 1, "", noCount⟩],
         summary := noCount, breadcrumbs := [], autoSkip := true }, s)

/-- The circle is gone around once. -/
example : asked (refresh (recorded circling)) (startAt .root 8) () = [.root, .ofRegion 1] := by
  decide

end InPlace

end Navigator

end PollRoster
