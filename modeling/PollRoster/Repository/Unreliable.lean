import PollRoster.Repository.Ledger

/-!
# A repository that is not to be relied on

A ledger behind a connection where a look-up of a slot may miss its occupant, as when another client
has just written it, and where an insertion may fail without writing.
-/

namespace PollRoster

/-- A ledger and the faults to come. -/
structure UnreliableLedger where
  ledger : Ledger
  /-- For each look-up of a slot to come: whether it finds nothing whatever is stored. -/
  misses : List Bool
  /-- For each insertion to come: the reason why it fails, if it does. -/
  failures : List (Option String)
  deriving DecidableEq, Repr

namespace UnreliableLedger

def ofLedger (ledger : Ledger) : UnreliableLedger := ⟨ledger, [], []⟩

/-- Answers a call from the ledger. -/
def forward (c : RepositoryCall) (u : UnreliableLedger) :
    Except OperationError c.Answer × UnreliableLedger :=
  let (answer, ledger) := u.ledger.answer c
  (answer, { u with ledger := ledger })

/-- Answers a call, with the next fault of its kind if there is one. -/
def answer : (c : RepositoryCall) → UnreliableLedger →
    Except OperationError c.Answer × UnreliableLedger
  | .findSlot sectionId role, u =>
    match u.misses with
    | true :: misses => (.ok none, { u with misses := misses })
    | false :: misses => forward (.findSlot sectionId role) { u with misses := misses }
    | [] => forward (.findSlot sectionId role) u
  | .insert sectionId representativeId role, u =>
    match u.failures with
    | some reason :: failures => (.error (.repository reason), { u with failures := failures })
    | none :: failures =>
      forward (.insert sectionId representativeId role) { u with failures := failures }
    | [] => forward (.insert sectionId representativeId role) u
  | c, u => forward c u

instance : Repository UnreliableLedger := ⟨answer⟩

end UnreliableLedger

end PollRoster
