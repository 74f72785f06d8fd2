import PollRoster.Action
import PollRoster.OperationError
import PollRoster.View

/-!
# Navigating the territory

A navigator stands on a path and shows a view. It may be used over any source of views, also one
that fails or contradicts itself. Every movement answers a new navigator or fails, and a failure
leaves the old one in place.

* `Navigator.refresh` shows the path anew and goes on through scopes with a single child.
* `Navigator.drillDown` enters a scope below the path.
* `Navigator.back?` leaves the path upwards, past the scopes that would lead down again.
-/

namespace PollRoster

structure NavigatorState where
  path : Scope
  level : Level
  deriving DecidableEq, Repr

/-- What an operator asks of a navigator. -/
inductive NavigationAction where
  | refresh
  | drillDown (scope : Scope)
  | back
  deriving DecidableEq, Repr

structure Navigator where
  state : NavigatorState
  /-- The view shown last. -/
  view : Option View
  /-- The most scopes with a single child that are passed at once. -/
  maxAutoSkip : Nat
  deriving DecidableEq, Repr

/-- A source of views with a state of its own. -/
abbrev ViewSource (σ : Type) := Scope → Action σ OperationError View

namespace Navigator

/-- The limit used when none is given. The territory is four levels deep, so it is never reached
there. -/
def defaultMaxAutoSkip : Nat := 8

/-- A navigator on a path that has shown nothing yet. -/
def startAt (path : Scope) (maxAutoSkip : Nat) : Navigator :=
  ⟨⟨path, .region⟩, none, maxAutoSkip⟩

/-- The navigator once it shows a view: it stands where the view says. -/
def showing (n : Navigator) (v : View) : Navigator :=
  { n with state := ⟨v.scope, v.level⟩, view := some v }

/-- Goes on from a view through single children, at most `steps` of them, and never to a scope that
was visited. -/
def skipAhead (source : ViewSource σ) :
    (steps : Nat) → (visited : List Scope) → View → Action σ OperationError View
  | 0, _, v => return v
  | steps + 1, visited, v =>
    match v.onlyChild? with
    | none => return v
    | some child =>
      -- a source that contradicts itself may lead around in a circle
      if visited.contains child then return v
      else do
        let next ← source child
        skipAhead source steps (child :: visited) next

/-- Shows the path, or the first scope below it that has not a single child. -/
def refresh (source : ViewSource σ) (n : Navigator) : Action σ OperationError Navigator := do
  let first ← source n.state.path
  let last ← skipAhead source n.maxAutoSkip [first.scope] first
  return n.showing last

/-- The failure of a movement to a scope that is not below the path. -/
def notBelow : OperationError :=
  .validation "scope" "drill-down target is not below the current path"

/-- Enters a scope below the path. -/
def drillDown (source : ViewSource σ) (child : Scope) (n : Navigator) :
    Action σ OperationError Navigator :=
  if child.depth ≤ n.state.path.depth || !n.state.path.contains child then .fail notBelow
  else refresh source { n with state := { n.state with path := child } }

/-- The view of a path, or of the nearest of its ancestors that has not a single child, or of the
last ancestor. -/
def climb (source : ViewSource σ) (path : Scope) : List Scope → Action σ OperationError View
  | [] => source path
  | ancestor :: above => do
    let v ← source path
    -- shown here, the view would lead straight down again
    if v.autoSkip then climb source ancestor above else return v

/-- Leaves the path upwards; there is no way up from the root. -/
def back? (source : ViewSource σ) (n : Navigator) :
    Action σ OperationError (Option Navigator) :=
  match n.state.path.ancestors with
  | [] => return none
  | parent :: above => do
    let v ← climb source parent above
    return some (n.showing v)

/-- Does what the operator asks. Going back from the root shows the root anew. -/
def apply (source : ViewSource σ) (action : NavigationAction) (n : Navigator) :
    Action σ OperationError Navigator :=
  match action with
  | .refresh => refresh source n
  | .drillDown scope => drillDown source scope n
  | .back => do
    match ← back? source n with
    | some n => return n
    | none => refresh source n

/-- The loaded entries that contain the needle; nothing when no view is loaded. -/
def search (n : Navigator) (needle : String) : Content :=
  match n.view with
  | none => .nodes []
  | some v => v.content.narrow needle

end Navigator

end PollRoster
