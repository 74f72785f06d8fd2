import PollRoster.Event
import PollRoster.Repository

/-!
# Programs over a repository

What a client does is written as a program: a tree of repository calls, announcements and looks at
the cancellation flag. One program can be run at once by `Program.run`, over any repository, or call
by call next to the programs of other clients.
-/

namespace PollRoster

/-- A client's program with an answer of type `α`. -/
inductive Program (α : Type) where
  | done (a : α)
  | fail (e : OperationError)
  | call (c : RepositoryCall) (next : Except OperationError c.Answer → Program α)
  | announce (e : Event) (next : Program α)
  /-- Looks whether the operator has cancelled. -/
  | poll (next : Bool → Program α)

namespace Program

/-- Goes on with the answer of the first program unless it fails. -/
def bind : Program α → (α → Program β) → Program β
  | .done a, f => f a
  | .fail e, _ => .fail e
  | .call c next, f => .call c fun answer => (next answer).bind f
  | .announce e next, f => .announce e (next.bind f)
  | .poll next, f => .poll fun cancelled => (next cancelled).bind f

instance : Monad Program where
  pure := .done
  bind := bind

/-- The answer or failure of a program as an answer. -/
def attempt : Program α → Program (Except OperationError α)
  | .done a => .done (.ok a)
  | .fail e => .done (.error e)
  | .call c next => .call c fun answer => (next answer).attempt
  | .announce e next => .announce e next.attempt
  | .poll next => .poll fun cancelled => (next cancelled).attempt

def ofExcept : Except OperationError α → Program α
  | .ok a => .done a
  | .error e => .fail e

/-- Makes a call and fails when it fails. -/
def ask (c : RepositoryCall) : Program c.Answer := .call c ofExcept

/-- Makes a call and hands its failure on as an answer. -/
def tryAsk (c : RepositoryCall) : Program (Except OperationError c.Answer) := .call c .done

def tell (e : Event) : Program Unit := .announce e (.done ())

def isCancelled : Program Bool := .poll .done

end Program

/-! ## Cancelling -/

/-- A point of a run, as far as the cancellation flag goes. -/
structure Moment where
  /-- The number of assignments announced so far. -/
  written : Nat
  /-- The number of looks at the flag since the last of them. -/
  looks : Nat
  deriving DecidableEq, Repr

namespace Moment

/-- The moment right after so many assignments were announced. -/
def afterWriting (n : Nat) : Moment := ⟨n, 0⟩

instance : OfNat Moment n := ⟨afterWriting n⟩

instance : Coe Nat Moment := ⟨afterWriting⟩

instance : LE Moment where
  le a b := a.written < b.written ∨ a.written = b.written ∧ a.looks ≤ b.looks

instance (a b : Moment) : Decidable (a ≤ b) :=
  inferInstanceAs (Decidable (a.written < b.written ∨ a.written = b.written ∧ a.looks ≤ b.looks))

instance : Max Moment := maxOfLe

def announced (now : Moment) (e : Event) : Moment :=
  if e.isAssigned then ⟨now.written + 1, 0⟩ else now

def looked (now : Moment) : Moment := { now with looks := now.looks + 1 }

end Moment

/-- When the operator cancels: at some moment, or never. -/
abbrev Cancellation := Option Moment

def Cancellation.isRaised (stop : Cancellation) (now : Moment) : Bool :=
  stop.any (· ≤ now)

/-- What a program leaves behind. -/
structure Trace (ρ α : Type) where
  result : Except OperationError α
  /-- What was announced, in order. -/
  events : List Event
  repository : ρ
  /-- The moment when it ended. -/
  finish : Moment

/-- Runs a program without a break. `now` is the moment when it starts. -/
def Program.run [Repository ρ] (stop : Cancellation) (now : Moment) : Program α → ρ → Trace ρ α
  | .done a, r => ⟨.ok a, [], r, now⟩
  | .fail e, r => ⟨.error e, [], r, now⟩
  | .call c next, r =>
    (next (Repository.answer c r).1).run stop now (Repository.answer c r).2
  -- what is announced may raise the flag for the looks that follow
  | .announce e next, r =>
    let rest := next.run stop (now.announced e) r
    { rest with events := e :: rest.events }
  | .poll next, r => (next (stop.isRaised now)).run stop now.looked r

end PollRoster
