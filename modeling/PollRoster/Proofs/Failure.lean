import Mathlib.Data.List.Forall2
import PollRoster.Validation

/-!
# Answers that may fail

How a chain of steps that may fail comes to an answer: each of its steps does.
-/

namespace PollRoster

theorem bind_eq_ok {x : Except ε α} {f : α → Except ε β} {b : β} :
    (x >>= f) = .ok b ↔ ∃ a, x = .ok a ∧ f a = .ok b := by
  cases x with
  | ok a =>
    refine ⟨fun h => ⟨a, rfl, h⟩, ?_⟩
    rintro ⟨a', hEq, h⟩
    rw [Except.ok.inj hEq]
    exact h
  | error e =>
    refine ⟨fun h => (nomatch h), ?_⟩
    rintro ⟨a, hEq, -⟩
    exact nomatch hEq

/-- A chain of steps goes on with what the first of them answers. -/
theorem bind_of_eq_ok {x : Except ε α} {a : α} (h : x = .ok a) (f : α → Except ε β) :
    (x >>= f) = f a := by
  rw [h]
  rfl

/-- A chain of steps fails with the first of them. -/
theorem bind_of_eq_error {x : Except ε α} {e : ε} (h : x = .error e) (f : α → Except ε β) :
    (x >>= f) = .error e := by
  rw [h]
  rfl

theorem map_bind (x : Except ε α) (f : α → Except ε β) (g : β → γ) :
    (x >>= f).map g = x >>= fun a => (f a).map g := by
  cases x <;> rfl

@[simp] theorem require_eq_ok {condition : Bool} {e : ε} {u : Unit} :
    require condition e = .ok u ↔ condition = true := by
  cases condition <;> simp [require]

theorem map_eq_ok {x : Except ε α} {f : α → β} {b : β} :
    x.map f = .ok b ↔ ∃ a, x = .ok a ∧ f a = b := by
  cases x with
  | ok a => simp [Except.map]
  | error e => simp [Except.map]

/-! ## Lists of steps -/

theorem forM_eq_ok {f : α → Except ε Unit} {xs : List α} {u : Unit} :
    xs.forM f = .ok u ↔ ∀ x ∈ xs, f x = .ok () := by
  induction xs with
  | nil => exact ⟨fun _ _ hx => (List.not_mem_nil hx).elim, fun _ => rfl⟩
  | cons x xs ih =>
    rw [List.forM, bind_eq_ok, List.forall_mem_cons]
    constructor
    · rintro ⟨u', hFirst, hRest⟩
      exact ⟨hFirst, ih.mp hRest⟩
    · rintro ⟨hFirst, hRest⟩
      exact ⟨(), hFirst, ih.mpr hRest⟩

/-- A list is answered in whole when each of its members is. -/
theorem mapM_eq_ok {f : α → Except ε β} {xs : List α} {ys : List β} :
    xs.mapM f = .ok ys ↔ List.Forall₂ (fun x y => f x = .ok y) xs ys := by
  induction xs generalizing ys with
  | nil =>
    rw [List.mapM_nil, List.forall₂_nil_left_iff]
    exact ⟨fun h => (Except.ok.inj h).symm, fun h => congrArg Except.ok h.symm⟩
  | cons x xs ih =>
    rw [List.mapM_cons, bind_eq_ok, List.forall₂_cons_left_iff]
    constructor
    · rintro ⟨y, hy, h⟩
      obtain ⟨rest, hRest, hEq⟩ := bind_eq_ok.mp h
      exact ⟨y, rest, hy, ih.mp hRest, (Except.ok.inj hEq).symm⟩
    · rintro ⟨y, rest, hy, hRest, rfl⟩
      exact ⟨y, hy, bind_eq_ok.mpr ⟨rest, ih.mpr hRest, rfl⟩⟩

/-- Of a list that is answered in whole, each member is answered. -/
theorem exists_of_mapM_eq_ok {f : α → Except ε β} {xs : List α} {ys : List β}
    (h : xs.mapM f = .ok ys) {x : α} (hMem : x ∈ xs) : ∃ y ∈ ys, f x = .ok y := by
  have hAll := mapM_eq_ok.mp h
  induction hAll with
  | nil => cases hMem
  | @cons a b xs ys hFirst hRest ih =>
    rcases List.mem_cons.mp hMem with rfl | hMem
    · exact ⟨b, List.mem_cons_self, hFirst⟩
    · obtain ⟨y, hy, hAnswer⟩ := ih (mapM_eq_ok.mpr hRest) hMem
      exact ⟨y, List.mem_cons_of_mem b hy, hAnswer⟩

/-- What each step keeps of the members dealt with so far, a chain of steps keeps of them all. -/
theorem foldlM_keeps {step : σ → α → Except ε σ} {P : σ → List α → Prop}
    (hStep : ∀ s done x s', P s done → step s x = .ok s' → P s' (done ++ [x]))
    {s s' : σ} {done xs : List α} (h : P s done) (hFold : xs.foldlM step s = .ok s') :
    P s' (done ++ xs) := by
  induction xs generalizing s done with
  | nil =>
    rw [List.append_nil, ← Except.ok.inj hFold]
    exact h
  | cons x xs ih =>
    rw [List.foldlM_cons] at hFold
    obtain ⟨s₁, hFirst, hRest⟩ := bind_eq_ok.mp hFold
    rw [List.append_cons]
    exact ih (hStep s done x s₁ h hFirst) hRest

/-- A change of the state that every step respects, a chain of steps respects. -/
theorem foldlM_map {step : σ → α → Except ε σ} {f : σ → σ}
    (hStep : ∀ s x, step (f s) x = (step s x).map f) (s : σ) (xs : List α) :
    xs.foldlM step (f s) = (xs.foldlM step s).map f := by
  induction xs generalizing s with
  | nil => rfl
  | cons x xs ih =>
    rw [List.foldlM_cons, List.foldlM_cons, hStep, map_bind]
    cases step s x with
    | error e => rfl
    | ok s' => exact ih s'

/-! ## The first member refused -/

/-- Whether `x` is the member of a list with which those so far are no longer admissible. -/
def FirstRefused (admissible : List α → Prop) (xs : List α) (x : α) : Prop :=
  ∃ done rest, xs = done ++ x :: rest ∧ admissible done ∧ ¬admissible (done ++ [x])

section FirstRefused

variable {admissible : List α → Prop} {xs : List α} {x y : α}

theorem FirstRefused.mem (h : FirstRefused admissible xs x) : x ∈ xs := by
  obtain ⟨done, rest, rfl, -, -⟩ := h
  exact List.mem_append_right done List.mem_cons_self

variable (hPrefix : ∀ xs ys, admissible (xs ++ ys) → admissible xs)
include hPrefix

theorem FirstRefused.not_admissible (h : FirstRefused admissible xs x) : ¬admissible xs := by
  obtain ⟨done, rest, rfl, -, hNot⟩ := h
  rw [List.append_cons]
  exact fun hAll => hNot (hPrefix _ _ hAll)

/-- No list has two members that are refused first. -/
theorem FirstRefused.unique (hx : FirstRefused admissible xs x)
    (hy : FirstRefused admissible xs y) : x = y := by
  obtain ⟨done, rest, hxs, hDone, hNot⟩ := hx
  obtain ⟨done', rest', hxs', hDone', hNot'⟩ := hy
  rw [hxs] at hxs'
  -- of two different prefixes the longer one would contain the member that the shorter one ends at
  rcases List.append_eq_append_iff.mp hxs' with ⟨zs, hLong, hRest⟩ | ⟨zs, hLong, hRest⟩
  · cases zs with
    | nil => exact (List.cons.inj hRest).1
    | cons z zs =>
      obtain ⟨rfl, -⟩ := List.cons.inj hRest
      rw [hLong, List.append_cons] at hDone'
      exact absurd (hPrefix _ _ hDone') hNot
  · cases zs with
    | nil => exact (List.cons.inj hRest).1.symm
    | cons z zs =>
      obtain ⟨rfl, -⟩ := List.cons.inj hRest
      rw [hLong, List.append_cons] at hDone
      exact absurd (hPrefix _ _ hDone) hNot'

end FirstRefused

/-- Steps that take what is admissible and refuse what is not come to their end, or fail with the
first member refused. -/
theorem foldlM_of_refusals {step : σ → α → Except ε σ} (P : σ → List α → Prop)
    (admissible : List α → Prop) (tells : α → ε → Prop) {xs : List α}
    (hTake : ∀ s done x rest, xs = done ++ x :: rest → P s done → admissible done →
      admissible (done ++ [x]) → ∃ s', step s x = .ok s' ∧ P s' (done ++ [x]))
    (hRefuse : ∀ s done x rest, xs = done ++ x :: rest → P s done → admissible done →
      ¬admissible (done ++ [x]) → ∃ e, step s x = .error e ∧ tells x e)
    {s : σ} (hStart : P s []) (hNil : admissible []) :
    (admissible xs ∧ ∃ s', xs.foldlM step s = .ok s' ∧ P s' xs) ∨
      ∃ x e, FirstRefused admissible xs x ∧ xs.foldlM step s = .error e ∧ tells x e := by
  -- from any point of the chain on, so that the members dealt with can grow
  suffices hFrom : ∀ todo done s, xs = done ++ todo → P s done → admissible done →
      (admissible xs ∧ ∃ s', todo.foldlM step s = .ok s' ∧ P s' xs) ∨
        ∃ x e, FirstRefused admissible xs x ∧ todo.foldlM step s = .error e ∧ tells x e from
    hFrom xs [] s rfl hStart hNil
  intro todo
  induction todo with
  | nil =>
    intro done s hSplit hP hDone
    rw [List.append_nil] at hSplit
    rw [hSplit]
    exact .inl ⟨hDone, s, rfl, hP⟩
  | cons x rest ih =>
    intro done s hSplit hP hDone
    rw [List.foldlM_cons]
    by_cases hNext : admissible (done ++ [x])
    · obtain ⟨s', hStep, hP'⟩ := hTake s done x rest hSplit hP hDone hNext
      have hSplit' : xs = (done ++ [x]) ++ rest := by rw [hSplit, List.append_cons]
      rw [bind_of_eq_ok hStep]
      exact ih (done ++ [x]) s' hSplit' hP' hNext
    · obtain ⟨e, hStep, hTells⟩ := hRefuse s done x rest hSplit hP hDone hNext
      rw [bind_of_eq_error hStep]
      exact .inr ⟨x, e, ⟨done, rest, hSplit, hDone, hNext⟩, rfl, hTells⟩

/-- Steps none of which fails come to their end. -/
theorem foldlM_takes {step : σ → α → Except ε σ} (P : σ → List α → Prop) {xs : List α}
    (hKeeps : ∀ s done x s', P s done → step s x = .ok s' → P s' (done ++ [x]))
    (hTake : ∀ s done x rest, xs = done ++ x :: rest → P s done → ∃ s', step s x = .ok s')
    {s : σ} (hStart : P s []) : ∃ s', xs.foldlM step s = .ok s' ∧ P s' xs := by
  have hOutcome : (True ∧ ∃ s', xs.foldlM step s = .ok s' ∧ P s' xs) ∨
      ∃ x e, FirstRefused (fun _ => True) xs x ∧ xs.foldlM step s = .error e ∧ False := by
    refine foldlM_of_refusals P (fun _ => True) (fun _ _ => False) ?_ ?_ hStart trivial
    · intro s done x rest hSplit hP _ _
      obtain ⟨s', hStep⟩ := hTake s done x rest hSplit hP
      exact ⟨s', hStep, hKeeps s done x s' hP hStep⟩
    · exact fun _ _ _ _ _ _ _ hNot => absurd trivial hNot
  rcases hOutcome with ⟨-, hDone⟩ | ⟨_, _, -, -, hFalse⟩
  · exact hDone
  · exact hFalse.elim

/-! ## Checked records -/

/-- Records that pass their checks have distinct identifiers. -/
theorem checkRecords_eq_ok {kind : String} {id : α → Int} {check : α → Except RuleError Unit}
    {seen : List Int} {xs : List α} {u : Unit} (h : checkRecords kind id check seen xs = .ok u) :
    (xs.map id).Nodup ∧ (∀ x ∈ xs, id x ∉ seen) ∧ ∀ x ∈ xs, check x = .ok () := by
  induction xs generalizing seen with
  | nil =>
    exact ⟨List.nodup_nil, fun _ hx => (List.not_mem_nil hx).elim,
      fun _ hx => (List.not_mem_nil hx).elim⟩
  | cons x xs ih =>
    rw [checkRecords] at h
    obtain ⟨_, hNew, h⟩ := bind_eq_ok.mp h
    obtain ⟨_, hCheck, hRest⟩ := bind_eq_ok.mp h
    obtain ⟨hNodup, hUnseen, hChecks⟩ := ih hRest
    have hx : id x ∉ seen := by simpa using hNew
    refine ⟨?_, ?_, List.forall_mem_cons.mpr ⟨hCheck, hChecks⟩⟩
    · rw [List.map_cons, List.nodup_cons]
      refine ⟨fun hMem => ?_, hNodup⟩
      obtain ⟨y, hy, hEq⟩ := List.mem_map.mp hMem
      exact hUnseen y hy (hEq ▸ List.mem_cons_self)
    · refine List.forall_mem_cons.mpr ⟨hx, fun y hy hMem => ?_⟩
      exact hUnseen y hy (List.mem_cons_of_mem _ hMem)

/-- Records with distinct identifiers that pass their checks one by one pass them in a row. -/
theorem checkRecords_of_nodup {kind : String} {id : α → Int} {check : α → Except RuleError Unit}
    {seen : List Int} {xs : List α} (hNodup : (xs.map id).Nodup) (hUnseen : ∀ x ∈ xs, id x ∉ seen)
    (hChecks : ∀ x ∈ xs, check x = .ok ()) : checkRecords kind id check seen xs = .ok () := by
  induction xs generalizing seen with
  | nil => rfl
  | cons x xs ih =>
    obtain ⟨hFirst, hNodup⟩ := List.nodup_cons.mp hNodup
    obtain ⟨hNew, hUnseen⟩ := List.forall_mem_cons.mp hUnseen
    obtain ⟨hCheck, hChecks⟩ := List.forall_mem_cons.mp hChecks
    -- the identifier of the first record joins those seen, and none of the others is the same
    have hRest : ∀ y ∈ xs, id y ∉ id x :: seen := by
      intro y hy hMem
      rcases List.mem_cons.mp hMem with hSame | hOld
      · exact hFirst (hSame ▸ List.mem_map_of_mem hy)
      · exact hUnseen y hy hOld
    rw [checkRecords]
    refine bind_eq_ok.mpr ⟨(), require_eq_ok.mpr (by simpa using hNew), ?_⟩
    exact bind_eq_ok.mpr ⟨(), hCheck, ih hNodup hRest hChecks⟩

end PollRoster
