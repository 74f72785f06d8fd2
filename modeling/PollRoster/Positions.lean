/-!
# Positions

An index over a list: at which position the record with an identifier stands. It is made in one
pass, and of several records with one identifier the last one counts.
-/

namespace PollRoster

/-- The positions of the records of a list, each under the identifier of its record. An entry hides
those behind it that have its identifier. -/
structure Positions where
  entries : List (Int × Nat)
  deriving DecidableEq, Repr

namespace Positions

def empty : Positions := ⟨[]⟩

/-- The index once the record with this identifier stands at this position. -/
def insert (p : Positions) (id : Int) (position : Nat) : Positions := ⟨(id, position) :: p.entries⟩

def ofList (id : α → Int) (xs : List α) : Positions :=
  xs.zipIdx.foldl (fun p (x, position) => p.insert (id x) position) empty

def get? (p : Positions) (id : Int) : Option Nat := p.entries.lookup id

end Positions

end PollRoster
