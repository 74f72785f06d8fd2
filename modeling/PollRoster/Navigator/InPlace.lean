import PollRoster.Navigator

/-!
# A navigator moved in place

The movements of a navigator as a client makes them: there is one navigator, which every movement
writes to, and one source of views, which every movement asks. A movement may fail after it has
written, and then has to write back what was there before: so it is with entering a scope, whose
path stands in the navigator before the source was asked for it.

* `InPlace.refresh`, `InPlace.drillDown`, `InPlace.back` are the movements, and `InPlace.apply`
  makes the one that an operator asks for.
-/

namespace PollRoster.Navigator

/-- A step that writes to a navigator and asks a source with state `σ`. -/
abbrev InPlace (σ α : Type) := Action (Navigator × σ) OperationError α

namespace InPlace

/-- The source as it is asked beside a navigator. -/
def ask (source : ViewSource σ) : ViewSource (Navigator × σ) := fun scope (n, s) =>
  let (answer, s) := source scope s
  (answer, n, s)

/-- The navigator as it stands. -/
def present : InPlace σ Navigator := fun (n, s) => (.ok n, n, s)

/-- Writes where the navigator stands; its view stays. -/
def stand (state : NavigatorState) : InPlace σ Unit :=
  Action.update fun (n, s) => ({ n with state := state }, s)

/-- Shows a view, and answers it. -/
def display (v : View) : InPlace σ View := fun (n, s) => (.ok v, n.showing v, s)

/-- The failure of a navigator that has shown nothing yet. -/
def noView : OperationError := .repository "navigator has no view loaded"

/-- The view shown last. -/
def current : InPlace σ View := do
  let n ← present
  match n.view with
  | some v => return v
  | none => .fail noView

/-- Shows the path, or the first scope below it that has not a single child. -/
def refresh (source : ViewSource σ) : InPlace σ View := do
  let n ← present
  let first ← ask source n.state.path
  let last ← skipAhead (ask source) n.maxAutoSkip [first.scope] first
  display last

/-- Enters a scope below the path. -/
def drillDown (source : ViewSource σ) (child : Scope) : InPlace σ View := do
  let n ← present
  if child.depth ≤ n.state.path.depth || !n.state.path.contains child then .fail notBelow
  else
    stand { n.state with path := child }
    match ← Action.attempt (refresh source) with
    | .ok _ => current
    | .error e =>
      stand n.state
      .fail e

/-- Leaves the path upwards, and tells whether there was a way up. -/
def back (source : ViewSource σ) : InPlace σ Bool := do
  let n ← present
  match n.state.path.ancestors with
  | [] => return false
  | parent :: above =>
    let v ← climb (ask source) parent above
    let _ ← display v
    return true

/-- Does what the operator asks. Going back from the root shows the root anew. -/
def apply (source : ViewSource σ) : NavigationAction → InPlace σ View
  | .refresh => refresh source
  | .drillDown scope => drillDown source scope
  | .back => do
    if ← back source then current else refresh source

end InPlace

end PollRoster.Navigator
