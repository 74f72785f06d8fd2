import PollRoster.Action

/-!
# Rules for actions

Two things are said of actions again and again: that they keep something, and that one does over its
state what another one does over its own. Both are closed under the ways to put actions together, so
neither has to be shown by running an action.

Main results:

* `Ensures.bind` — one action after another keeps what both of them keep.
* `Tracks.bind` — one action after another goes like another pair, if each of the two does.
-/

namespace PollRoster

/-- An action whose answer is changed at the end. -/
theorem Action.bind_pure_apply (x : Action σ ε α) (f : α → β) (s : σ) :
    (x >>= fun a => Pure.pure (f a)) s = ((x s).1.map f, (x s).2) := by
  rw [bind_apply]
  rcases x s with ⟨answer, s'⟩
  cases answer <;> rfl

/-! ## Actions that keep something -/

/-- Whether an action keeps `I`, whatever it is answered, and its answer satisfies `post`. -/
def Ensures (I : σ → Prop) (x : Action σ ε α) (post : α → Prop) : Prop :=
  ∀ c, I c → I (x c).2 ∧ ∀ a, (x c).1 = .ok a → post a

section Ensures

variable {I : σ → Prop} {x : Action σ ε α} {p q : α → Prop}

theorem ensures_pure {a : α} (h : p a) : Ensures I (pure a : Action σ ε α) p := by
  intro c hI
  refine ⟨hI, fun b hb => ?_⟩
  rw [← Except.ok.inj hb]
  exact h

theorem ensures_fail (e : ε) : Ensures I (.fail e : Action σ ε α) p :=
  fun _ hI => ⟨hI, fun _ h => (nomatch h)⟩

theorem Ensures.bind {f : α → Action σ ε β} {r : β → Prop} (hFirst : Ensures I x p)
    (hThen : ∀ a, p a → Ensures I (f a) r) : Ensures I (x >>= f) r := by
  intro c hI
  obtain ⟨hKept, hAnswer⟩ := hFirst c hI
  rw [Action.bind_apply]
  rcases hx : x c with ⟨answer, c'⟩
  rw [hx] at hKept hAnswer
  cases answer with
  | ok a => exact hThen a (hAnswer a rfl) c' hKept
  | error e => exact ⟨hKept, fun _ h => (nomatch h)⟩

theorem Ensures.mono (h : Ensures I x p) (hLess : ∀ a, p a → q a) : Ensures I x q :=
  fun c hI => ⟨(h c hI).1, fun a ha => hLess a ((h c hI).2 a ha)⟩

theorem ensures_ofExcept (a : Except ε α) : Ensures I (.ofExcept a) fun _ => True :=
  fun _ hI => ⟨hI, fun _ _ => trivial⟩

theorem Ensures.mapError (h : Ensures I x p) (f : ε → ε') : Ensures I (x.mapError f) p := by
  intro c hI
  obtain ⟨hKept, hAnswer⟩ := h c hI
  rw [Action.mapError]
  rcases hx : x c with ⟨answer, c'⟩
  rw [hx] at hKept hAnswer
  cases answer with
  | ok a => exact ⟨hKept, fun b hb => hAnswer b (congrArg Except.ok (Except.ok.inj hb))⟩
  | error e => exact ⟨hKept, fun _ h => by cases h⟩

theorem Ensures.attempt (h : Ensures I x p) :
    Ensures I (x.attempt : Action σ ε' _) fun answer => ∀ a, answer = .ok a → p a := by
  intro c hI
  obtain ⟨hKept, hAnswer⟩ := h c hI
  refine ⟨hKept, fun answer hSame a ha => hAnswer a ?_⟩
  rw [ha] at hSame
  exact Except.ok.inj hSame

end Ensures

/-! ## Actions that go alike -/

/-- Whether an action answers as another one does, whenever `R` relates their states, and leaves
related states again. -/
def Tracks (R : σ → τ → Prop) (x : Action σ ε α) (y : Action τ ε α) : Prop :=
  ∀ s t, R s t → (x s).1 = (y t).1 ∧ R (x s).2 (y t).2

section Tracks

variable {R : σ → τ → Prop}

theorem tracks_ofExcept (answer : Except ε α) : Tracks R (.ofExcept answer) (.ofExcept answer) :=
  fun _ _ h => ⟨rfl, h⟩

theorem tracks_pure (a : α) : Tracks R (pure a : Action σ ε α) (pure a) :=
  tracks_ofExcept (.ok a)

theorem tracks_fail (e : ε) : Tracks R (.fail e : Action σ ε α) (.fail e) :=
  tracks_ofExcept (.error e)

theorem Tracks.bind {x : Action σ ε α} {y : Action τ ε α} {f : α → Action σ ε β}
    {g : α → Action τ ε β} (hFirst : Tracks R x y) (hThen : ∀ a, Tracks R (f a) (g a)) :
    Tracks R (x >>= f) (y >>= g) := by
  intro s t h
  obtain ⟨hAnswer, hRelated⟩ := hFirst s t h
  rw [Action.bind_apply, Action.bind_apply]
  rcases hx : x s with ⟨answer, s'⟩
  rcases hy : y t with ⟨answer', t'⟩
  rw [hx, hy] at hAnswer hRelated
  obtain rfl : answer = answer' := hAnswer
  cases answer with
  | ok a => exact hThen a s' t' hRelated
  | error e => exact ⟨rfl, hRelated⟩

end Tracks

end PollRoster
