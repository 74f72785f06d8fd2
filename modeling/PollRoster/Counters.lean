import PollRoster.Event

/-!
# Counters and their cache

The counters of a scope are kept once they were counted. They are counted again only after an
announcement that a related scope is out of date, so they may lag behind the assignments.
-/

namespace PollRoster

/-- Counters over the active sections of a scope. -/
structure Counters where
  total : Nat
  /-- Sections with a primary. -/
  assigned : Nat
  unassigned : Nat
  /-- Representatives declared in the scope who hold no slot. -/
  available : Nat
  deriving DecidableEq, Repr

/-- The counters kept so far; each scope has at most one entry. -/
structure CounterCache where
  entries : List (Scope × Counters)
  deriving DecidableEq, Repr

namespace CounterCache

def empty : CounterCache := ⟨[]⟩

def size (c : CounterCache) : Nat := c.entries.length

def isEmpty (c : CounterCache) : Bool := c.entries.isEmpty

def get? (c : CounterCache) (scope : Scope) : Option Counters := c.entries.lookup scope

/-- The counters kept for a scope; they are counted and kept when there are none. -/
def fetch (c : CounterCache) (scope : Scope) (count : Scope → Counters) :
    Counters × CounterCache :=
  match c.get? scope with
  | some kept => (kept, c)
  | none => (count scope, ⟨(scope, count scope) :: c.entries⟩)

def invalidate (c : CounterCache) (scope : Scope) : CounterCache :=
  ⟨c.entries.filter fun entry => !entry.1.isRelated scope⟩

def relatedCount (c : CounterCache) (scope : Scope) : Nat :=
  c.size - (c.invalidate scope).size

/-- Takes notice of an event; assignments and removals are none of the cache's business. -/
def notice (c : CounterCache) : Event → CounterCache
  | .invalidated scope => c.invalidate scope
  | .assigned _ | .removed _ => c

end CounterCache

end PollRoster
