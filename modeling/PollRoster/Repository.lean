import PollRoster.OperationError
import PollRoster.Territory

/-!
# Repositories

A repository keeps the reference data and the assignments. It is used by single calls, each of which
is carried out as a whole. Several clients may take turns between calls.
-/

namespace PollRoster

/-- A call of a repository. -/
inductive RepositoryCall where
  | territory
  | sectionExists (sectionId : Int)
  | representatives
  | representative (id : Int)
  | assignments
  | assignment (id : Int)
  | findSlot (sectionId : Int) (role : Role)
  | insert (sectionId representativeId : Int) (role : Role)
  | delete (id : Int)
  deriving DecidableEq, Repr

/-- What a call answers if it does not fail. -/
abbrev RepositoryCall.Answer : RepositoryCall → Type
  | .territory => Territory
  | .sectionExists _ => Bool
  | .representatives => List Representative
  | .representative _ => Option Representative
  | .assignments => List Assignment
  | .assignment _ => Option Assignment
  | .findSlot _ _ => Option Assignment
  | .insert _ _ _ => Assignment
  | .delete _ => Assignment

/-- A kind of repository: how each call is answered and what it leaves behind. -/
class Repository (ρ : Type) where
  answer : (c : RepositoryCall) → ρ → Except OperationError c.Answer × ρ

end PollRoster
