import PollRoster.Proofs.Engine
import PollRoster.Navigator

/-!
# Navigating an engine

A navigator shows no view but those that its source answers. Over an engine whose counters are all
fresh, every view shown is therefore the one shown without a cache.

Main results:

* `leads_skipAhead`, `leads_climb` — the two ways to go on, by induction on the steps left and on
  the ancestors.
* `leads_apply` — every movement.
-/

namespace PollRoster.Navigator

open Engine (Knowledge Leads yields_pure yields_fail)

variable {k : Knowledge} {Good : View → Prop} {source : ViewSource (Engine Database)}

/-- What is said of an answer that is a view or a failure, and leaves everything known. -/
def Offering (k : Knowledge) (Good : View → Prop) (answer : Except OperationError View)
    (k' : Knowledge) : Prop :=
  k' = k ∧ ∀ v, answer = .ok v → Good v

/-- What is said of a navigator that is answered. -/
def Showing (k : Knowledge) (Good : View → Prop) (answer : Except OperationError Navigator)
    (k' : Knowledge) : Prop :=
  k' = k ∧ ∀ n, answer = .ok n → ∀ v ∈ n.view, Good v

theorem Offering.error {e : OperationError} {k' : Knowledge}
    (h : Offering k Good (.error e) k') : Showing k Good (.error e) k' :=
  ⟨h.1, fun _ hn => (nomatch hn)⟩

/-- A navigator that shows a good view. -/
theorem leads_showing (n : Navigator) {v : View} (hGood : Good v) :
    Leads (pure (n.showing v) : Action _ OperationError _) k (Showing k Good) := by
  refine (yields_pure _ k).leads ⟨rfl, fun n' hn v' hv => ?_⟩
  rw [← Except.ok.inj hn] at hv
  rw [← Option.some.inj (show some v = some v' from hv)]
  exact hGood

section Source

variable (hSource : ∀ scope, Leads (source scope) k (Offering k Good))
include hSource

theorem leads_skipAhead (steps : Nat) (visited : List Scope) {v : View} (hGood : Good v) :
    Leads (skipAhead source steps visited v) k (Offering k Good) := by
  have hStay : Leads (pure v : Action _ OperationError _) k (Offering k Good) := by
    refine (yields_pure v k).leads ⟨rfl, fun v' hv => ?_⟩
    rwa [← Except.ok.inj hv]
  -- on the steps left; the view may be any good one
  induction steps generalizing visited v with
  | zero => exact hStay
  | succ steps ih =>
    rw [skipAhead]
    split
    · exact hStay
    next child _ =>
      split
      · exact hStay
      · refine (hSource child).bind ?_ fun _ _ h => h
        rintro next k' ⟨rfl, hNext⟩
        have hGoodNext := hNext next rfl
        refine ih _ hGoodNext ((yields_pure next _).leads ⟨rfl, fun v' hv => ?_⟩)
        rwa [← Except.ok.inj hv]

theorem leads_refresh (n : Navigator) : Leads (refresh source n) k (Showing k Good) := by
  refine (hSource n.state.path).bind ?_ fun _ _ h => h.error
  rintro first k' ⟨rfl, hFirst⟩
  refine (leads_skipAhead hSource n.maxAutoSkip [first.scope] (hFirst first rfl)).bind ?_
    fun _ _ h => h.error
  rintro last k' ⟨rfl, hLast⟩
  exact leads_showing n (hLast last rfl)

theorem leads_climb (path : Scope) (ancestors : List Scope) :
    Leads (climb source path ancestors) k (Offering k Good) := by
  induction ancestors generalizing path with
  | nil => exact hSource path
  | cons ancestor above ih =>
    refine (hSource path).bind ?_ fun _ _ h => h
    rintro v k' ⟨rfl, hGood⟩
    split
    · exact ih ancestor
    · refine (yields_pure v _).leads ⟨rfl, fun v' hv => ?_⟩
      rw [← Except.ok.inj hv]
      exact hGood v rfl

/-- **Movements.** Whatever the operator asks, a navigator shows good views only. -/
theorem leads_apply (action : NavigationAction) (n : Navigator) :
    Leads (n.apply source action) k (Showing k Good) := by
  cases action with
  | refresh => exact leads_refresh hSource n
  | drillDown scope =>
    rw [apply, drillDown]
    split
    · exact (yields_fail _ k).leads ⟨rfl, fun _ hn => (nomatch hn)⟩
    · exact leads_refresh hSource _
  | back =>
    rw [apply, back?]
    cases n.state.path.ancestors with
    | nil => exact (yields_pure none k).leads_bind (leads_refresh hSource n)
    | cons parent above =>
      -- the way up ends at a good view, and the navigator shows that one
      have hClimb : Leads (climb source parent above >>= fun v => pure (some (n.showing v))) k
          fun answer k' => k' = k ∧ ∀ found, answer = .ok found → ∃ v, Good v ∧
            found = some (n.showing v) := by
        refine (leads_climb hSource parent above).bind ?_
          fun _ _ h => ⟨h.1, fun _ hn => (nomatch hn)⟩
        rintro v k' ⟨rfl, hGood⟩
        refine (yields_pure _ _).leads ⟨rfl, fun found hFound => ⟨v, hGood v rfl, ?_⟩⟩
        exact (Except.ok.inj hFound).symm
      refine hClimb.bind ?_ fun _ _ h => ⟨h.1, fun _ hn => (nomatch hn)⟩
      rintro found k' ⟨rfl, hFound⟩
      obtain ⟨v, hGood, rfl⟩ := hFound found rfl
      exact leads_showing n hGood

end Source

end PollRoster.Navigator
