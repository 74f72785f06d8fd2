import PollRoster.Program

/-!
# Runs of programs

How a run is put together from the runs of its parts, and what every run keeps.

Main results:

* `run_bind` — one program after another runs as the first and then, from the moment and the
  repository that it left, the second.
* `Announces.run` — what a run announces is what its program may announce.
* `Asks.run_keeps`, `run_keeps` — what the calls of a program keep is kept by its runs.
-/

namespace PollRoster

/-- Goes on from what a run left behind, unless it failed. -/
def Trace.andThen (t : Trace ρ α) (k : α → Moment → ρ → Trace ρ β) : Trace ρ β :=
  match t.result with
  | .ok a =>
    let u := k a t.finish t.repository
    { u with events := t.events ++ u.events }
  | .error e => ⟨.error e, t.events, t.repository, t.finish⟩

/-- The same run with its repository seen through `f`. -/
def Trace.mapRepository (f : ρ → σ) (t : Trace ρ α) : Trace σ α :=
  ⟨t.result, t.events, f t.repository, t.finish⟩

namespace Program

section Run

variable [Repository ρ] {stop : Cancellation} {now : Moment} {r : ρ}

/-! ## Runs of the parts -/

@[simp] theorem run_pure (a : α) :
    (pure a : Program α).run stop now r = ⟨.ok a, [], r, now⟩ := rfl

@[simp] theorem run_ofExcept (x : Except OperationError α) :
    (ofExcept x).run stop now r = ⟨x, [], r, now⟩ := by
  cases x <;> rfl

@[simp] theorem run_ask (c : RepositoryCall) :
    (ask c).run stop now r =
      ⟨(Repository.answer c r).1, [], (Repository.answer c r).2, now⟩ := by
  rw [ask, run, run_ofExcept]

theorem run_bind (p : Program α) (f : α → Program β) :
    (p >>= f).run stop now r =
      (p.run stop now r).andThen fun a now r => (f a).run stop now r := by
  change (p.bind f).run stop now r = _
  induction p generalizing now r with
  | done a => rfl
  | fail e => rfl
  | call c next ih => exact ih _
  | announce e next ih =>
    rw [bind, run, ih, run, Trace.andThen, Trace.andThen]
    cases (next.run stop (now.announced e) r).result <;> rfl
  | poll next ih => exact ih _

/-- A run that answers comes by an answer of its first part. -/
theorem exists_of_run_bind_ok {p : Program α} {f : α → Program β} {b : β}
    (h : ((p >>= f).run stop now r).result = .ok b) :
    ∃ (a : α) (now' : Moment) (r' : ρ), (p.run stop now r).result = .ok a ∧
      ((f a).run stop now' r').result = .ok b := by
  rw [run_bind, Trace.andThen] at h
  cases hFirst : (p.run stop now r).result with
  | ok a =>
    rw [hFirst] at h
    exact ⟨a, _, _, rfl, h⟩
  | error e =>
    rw [hFirst] at h
    cases h

/-- A program whose answer is changed at the end. -/
theorem run_map (p : Program α) (f : α → β) :
    (p >>= fun a => pure (f a)).run stop now r =
      ⟨(p.run stop now r).result.map f, (p.run stop now r).events,
        (p.run stop now r).repository, (p.run stop now r).finish⟩ := by
  rw [run_bind, Trace.andThen]
  cases (p.run stop now r).result with
  | ok a =>
    dsimp only [run_pure]
    rw [List.append_nil]
    rfl
  | error e => rfl

@[simp] theorem run_attempt (p : Program α) :
    p.attempt.run stop now r =
      ⟨.ok (p.run stop now r).result, (p.run stop now r).events,
        (p.run stop now r).repository, (p.run stop now r).finish⟩ := by
  induction p generalizing now r with
  | done a => rfl
  | fail e => rfl
  | call c next ih => exact ih _
  | announce e next ih => rw [attempt, run, ih, run]
  | poll next ih => exact ih _

/-- Where nobody cancels, it does not matter at which moment a program starts. -/
theorem run_never (p : Program α) (now now' : Moment) :
    p.run none now r = { p.run none now' r with finish := (p.run none now r).finish } := by
  induction p generalizing now now' r with
  | done a => rfl
  | fail e => rfl
  | call c next ih => exact ih _ now now'
  | announce e next ih =>
    rw [run, run, ih (now.announced e) (now'.announced e)]
  | poll next ih => exact ih _ now.looked now'.looked

/-! ## Runs up to the first call -/

theorem run_isCancelled_bind (f : Bool → Program β) :
    (isCancelled >>= f).run stop now r = (f (stop.isRaised now)).run stop now.looked r := rfl

theorem run_ofExcept_bind_ok {x : Except OperationError α} {a : α} (h : x = .ok a)
    (f : α → Program β) : (ofExcept x >>= f).run stop now r = (f a).run stop now r := by
  rw [h]
  rfl

theorem run_ofExcept_bind_error {x : Except OperationError α} {e : OperationError}
    (h : x = .error e) (f : α → Program β) :
    (ofExcept x >>= f).run stop now r = ⟨.error e, [], r, now⟩ := by
  rw [h]
  rfl

theorem run_ask_bind_ok {c : RepositoryCall} {a : c.Answer} {r' : ρ}
    (h : Repository.answer c r = (.ok a, r')) (f : c.Answer → Program β) :
    (ask c >>= f).run stop now r = (f a).run stop now r' := by
  change (bind (ofExcept (Repository.answer c r).1) f).run stop now (Repository.answer c r).2 = _
  rw [h]
  rfl

theorem run_ask_bind_error {c : RepositoryCall} {e : OperationError} {r' : ρ}
    (h : Repository.answer c r = (.error e, r')) (f : c.Answer → Program β) :
    (ask c >>= f).run stop now r = ⟨.error e, [], r', now⟩ := by
  change (bind (ofExcept (Repository.answer c r).1) f).run stop now (Repository.answer c r).2 = _
  rw [h]
  rfl

theorem run_tryAsk_bind (c : RepositoryCall) (f : Except OperationError c.Answer → Program β) :
    (tryAsk c >>= f).run stop now r =
      (f (Repository.answer c r).1).run stop now (Repository.answer c r).2 := rfl

end Run

/-! ## What a program asks -/

/-- Whether a program makes no calls but such as satisfy `P`, whatever it is answered. -/
def Asks (P : RepositoryCall → Prop) : Program α → Prop
  | .done _ => True
  | .fail _ => True
  | .call c next => P c ∧ ∀ answer, (next answer).Asks P
  | .announce _ next => next.Asks P
  | .poll next => ∀ cancelled, (next cancelled).Asks P

section Asks

variable {P : RepositoryCall → Prop}

theorem asks_any (p : Program α) : p.Asks fun _ => True := by
  induction p with
  | done a => trivial
  | fail e => trivial
  | call c next ih => exact ⟨trivial, ih⟩
  | announce e next ih => exact ih
  | poll next ih => exact ih

theorem Asks.mono {Q : RepositoryCall → Prop} {p : Program α} (h : p.Asks P)
    (hImp : ∀ c, P c → Q c) : p.Asks Q := by
  induction p with
  | done a => trivial
  | fail e => trivial
  | call c next ih => exact ⟨hImp c h.1, fun answer => ih answer (h.2 answer)⟩
  | announce e next ih => exact ih h
  | poll next ih => exact fun cancelled => ih cancelled (h cancelled)

theorem Asks.bind {p : Program α} {f : α → Program β} (hFirst : p.Asks P)
    (hThen : ∀ a, (f a).Asks P) : (p >>= f).Asks P := by
  change (p.bind f).Asks P
  induction p with
  | done a => exact hThen a
  | fail e => trivial
  | call c next ih => exact ⟨hFirst.1, fun answer => ih answer (hFirst.2 answer)⟩
  | announce e next ih => exact ih hFirst
  | poll next ih => exact fun cancelled => ih cancelled (hFirst cancelled)

theorem Asks.attempt {p : Program α} (h : p.Asks P) : p.attempt.Asks P := by
  induction p with
  | done a => trivial
  | fail e => trivial
  | call c next ih => exact ⟨h.1, fun answer => ih answer (h.2 answer)⟩
  | announce e next ih => exact ih h
  | poll next ih => exact fun cancelled => ih cancelled (h cancelled)

theorem asks_pure (a : α) : (pure a : Program α).Asks P := trivial

theorem asks_ofExcept (x : Except OperationError α) : (ofExcept x).Asks P := by
  cases x <;> trivial

theorem asks_ask {c : RepositoryCall} (h : P c) : (ask c).Asks P :=
  ⟨h, fun answer => asks_ofExcept answer⟩

theorem asks_tryAsk {c : RepositoryCall} (h : P c) : (tryAsk c).Asks P :=
  ⟨h, fun _ => trivial⟩

theorem asks_isCancelled : isCancelled.Asks P := fun _ => trivial

end Asks

/-! ## What a program announces -/

/-- Whether a program announces nothing but such events as satisfy `P`, whatever it is answered. -/
def Announces (P : Event → Prop) : Program α → Prop
  | .done _ => True
  | .fail _ => True
  | .call _ next => ∀ answer, (next answer).Announces P
  | .announce e next => P e ∧ next.Announces P
  | .poll next => ∀ cancelled, (next cancelled).Announces P

section Announces

variable {P : Event → Prop}

theorem Announces.bind {p : Program α} {f : α → Program β} (hFirst : p.Announces P)
    (hThen : ∀ a, (f a).Announces P) : (p >>= f).Announces P := by
  -- along the first program; the second one takes over where it is done
  change (p.bind f).Announces P
  induction p with
  | done a => exact hThen a
  | fail e => trivial
  | call c next ih => exact fun answer => ih answer (hFirst answer)
  | announce e next ih => exact ⟨hFirst.1, ih hFirst.2⟩
  | poll next ih => exact fun cancelled => ih cancelled (hFirst cancelled)

theorem Announces.attempt {p : Program α} (h : p.Announces P) : p.attempt.Announces P := by
  induction p with
  | done a => trivial
  | fail e => trivial
  | call c next ih => exact fun answer => ih answer (h answer)
  | announce e next ih => exact ⟨h.1, ih h.2⟩
  | poll next ih => exact fun cancelled => ih cancelled (h cancelled)

theorem announces_ofExcept (x : Except OperationError α) : (ofExcept x).Announces P := by
  cases x <;> trivial

theorem announces_ask (c : RepositoryCall) : (ask c).Announces P :=
  fun answer => announces_ofExcept answer

theorem announces_isCancelled : isCancelled.Announces P := fun _ => trivial

/-- The events of a run are such as the program announces. -/
theorem Announces.run [Repository ρ] {p : Program α} (h : p.Announces P) (stop : Cancellation)
    (now : Moment) (r : ρ) : ∀ e ∈ (p.run stop now r).events, P e := by
  induction p generalizing now r with
  | done a => exact fun _ he => (List.not_mem_nil he).elim
  | fail e => exact fun _ he => (List.not_mem_nil he).elim
  | call c next ih => exact ih _ (h _) now _
  | announce e next ih => exact List.forall_mem_cons.mpr ⟨h.1, ih h.2 _ r⟩
  | poll next ih => exact ih _ (h _) _ r

end Announces

section Keeping

variable [Repository ρ] {stop : Cancellation} {now : Moment} {r : ρ}

/-- What each call that a program may make keeps, its runs keep. -/
theorem Asks.run_keeps {Q : RepositoryCall → Prop} {P : ρ → Prop} {p : Program α} (hAsks : p.Asks Q)
    (hCall : ∀ c r, Q c → P r → P (Repository.answer c r).2) (h : P r) :
    P (p.run stop now r).repository := by
  induction p generalizing now r with
  | done a => exact h
  | fail e => exact h
  | call c next ih => exact ih _ (hAsks.2 _) (hCall c r hAsks.1 h)
  | announce e next ih => exact ih hAsks h
  | poll next ih => exact ih _ (hAsks _) h

/-- What every call keeps, every run keeps. -/
theorem run_keeps {P : ρ → Prop} (hCall : ∀ c r, P r → P (Repository.answer c r).2)
    (p : Program α) (h : P r) : P (p.run stop now r).repository :=
  p.asks_any.run_keeps (fun c r _ => hCall c r) h

end Keeping

end Program

end PollRoster
