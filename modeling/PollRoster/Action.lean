/-!
# Actions

An action answers or fails, and leaves a state behind in both cases: what was done before a failure
stays done.
-/

namespace PollRoster

/-- A step from a state to an answer or a failure, and a new state. -/
def Action (σ ε α : Type) : Type := σ → Except ε α × σ

namespace Action

def pure (a : α) : Action σ ε α := fun s => (.ok a, s)

def fail (e : ε) : Action σ ε α := fun s => (.error e, s)

/-- Goes on with the answer of the first action unless it fails. -/
def bind (x : Action σ ε α) (f : α → Action σ ε β) : Action σ ε β := fun s =>
  match x s with
  | (.ok a, s) => f a s
  | (.error e, s) => (.error e, s)

instance : Monad (Action σ ε) where
  pure := Action.pure
  bind := Action.bind

/-- An answer or failure that leaves the state as it is. -/
def ofExcept (x : Except ε α) : Action σ ε α := fun s => (x, s)

/-- Changes the failure of an action. -/
def mapError (f : ε → ε') (x : Action σ ε α) : Action σ ε' α := fun s =>
  match x s with
  | (.ok a, s) => (.ok a, s)
  | (.error e, s) => (.error (f e), s)

/-- The answer or failure of an action as an answer. -/
def attempt (x : Action σ ε α) : Action σ ε' (Except ε α) := fun s =>
  let (answer, s) := x s
  (.ok answer, s)

/-- The present state. -/
def state : Action σ ε σ := fun s => (.ok s, s)

/-- Changes the state. -/
def update (f : σ → σ) : Action σ ε Unit := fun s => (.ok (), f s)

/-- Changes the state as a whole, or leaves it when the change fails. -/
def transaction (f : σ → Except ε σ) : Action σ ε Unit := fun s =>
  match f s with
  | .ok s => (.ok (), s)
  | .error e => (.error e, s)

theorem pure_apply (a : α) (s : σ) : (Pure.pure a : Action σ ε α) s = (.ok a, s) := rfl

theorem bind_apply (x : Action σ ε α) (f : α → Action σ ε β) (s : σ) :
    (x >>= f) s = match x s with
      | (.ok a, s) => f a s
      | (.error e, s) => (.error e, s) := rfl

theorem bind_of_error {x : Action σ ε α} {s s' : σ} {e : ε} (h : x s = (.error e, s'))
    (f : α → Action σ ε β) : (x >>= f) s = (.error e, s') := by
  rw [bind_apply, h]

theorem bind_of_ok {x : Action σ ε α} {s s' : σ} {a : α} (h : x s = (.ok a, s'))
    (f : α → Action σ ε β) : (x >>= f) s = f a s' := by
  rw [bind_apply, h]

end Action

end PollRoster
