import PollRoster.Repository

/-!
# A repository in memory

Identifiers of assignments are handed out in sequence from one and are never used again.
-/

namespace PollRoster

/-- Reference data with the assignments made so far, ascending by identifier. -/
structure Ledger where
  territory : Territory
  representatives : List Representative
  assignments : List Assignment
  nextId : Int
  deriving DecidableEq, Repr

namespace Ledger

def start (territory : Territory) (representatives : List Representative) : Ledger :=
  ⟨territory, representatives, [], 1⟩

def representative? (l : Ledger) (id : Int) : Option Representative :=
  l.representatives.find? (·.id = id)

def assignment? (l : Ledger) (id : Int) : Option Assignment := l.assignments.find? (·.id = id)

def findSlot (l : Ledger) (sectionId : Int) (role : Role) : Option Assignment :=
  l.assignments.find? fun a => a.sectionId = sectionId && a.role = role

/-- Adds an assignment under the next identifier, unless somebody holds the slot. -/
def insert (l : Ledger) (sectionId representativeId : Int) (role : Role) :
    Except OperationError Assignment × Ledger :=
  match l.findSlot sectionId role with
  | some existing => (.error (.slotOccupied sectionId role existing.representativeId), l)
  | none =>
    let a : Assignment := ⟨l.nextId, sectionId, representativeId, role⟩
    (.ok a, { l with assignments := l.assignments ++ [a], nextId := l.nextId + 1 })

def delete (l : Ledger) (id : Int) : Except OperationError Assignment × Ledger :=
  match l.assignment? id with
  | none => (.error (.notFound "Assignment" id), l)
  | some a => (.ok a, { l with assignments := l.assignments.filter (·.id ≠ id) })

/-- Answers a call; only `insert` and `delete` change the ledger. -/
def answer : (c : RepositoryCall) → Ledger → Except OperationError c.Answer × Ledger
  | .territory, l => (.ok l.territory, l)
  | .sectionExists sectionId, l => (.ok (l.territory.section? sectionId).isSome, l)
  | .representatives, l => (.ok l.representatives, l)
  | .representative id, l => (.ok (l.representative? id), l)
  | .assignments, l => (.ok l.assignments, l)
  | .assignment id, l => (.ok (l.assignment? id), l)
  | .findSlot sectionId role, l => (.ok (l.findSlot sectionId role), l)
  | .insert sectionId representativeId role, l => l.insert sectionId representativeId role
  | .delete id, l => l.delete id

instance : Repository Ledger := ⟨answer⟩

end Ledger

end PollRoster
