import PollRoster.Records
import PollRoster.Scope

/-!
# Events
-/

namespace PollRoster

/-- A change that is announced while an operation runs. -/
inductive Event where
  | assigned (assignment : Assignment)
  | removed (assignment : Assignment)
  /-- Counters of scopes related to this one are out of date. -/
  | invalidated (scope : Scope)
  deriving DecidableEq, Repr

/-- Whether the event announces a new assignment. -/
def Event.isAssigned : Event → Bool
  | .assigned _ => true
  | _ => false

end PollRoster
