import Mathlib.Data.List.Induction
import Mathlib.Data.List.Nodup
import Mathlib.Logic.Function.Basic
import PollRoster.Proofs.Program

/-!
# Offices: clients at one repository

Several clients share a repository. Each has a program of its own; they take turns in any order, and
a turn carries out one call as a whole. Nobody cancels.

Most programs make several calls, but only one of them counts: the call at which the program takes
effect. `Program.Pending` says of the rest of a program that it has still to come, and
`Program.Settled` that it lies behind. A program may also be lost, which is to say that it fails
without having had an effect.

Main result:

* `exists_order` — whatever the turns, those clients that have taken effect might as well have come
  one after another. The order is that of some of the turns, one for each of the clients, so a
  client who was done before another one began also comes before that one.
-/

namespace PollRoster

/-! ## Turns of one client -/

namespace Program

/-- One turn of a client. -/
def move [Repository ρ] : Program α → ρ → Program α × ρ
  | .call c next, r => (next (Repository.answer c r).1, (Repository.answer c r).2)
  | .announce _ next, r => (next, r)
  | .poll next, r => (next false, r)
  | .done a, r => (.done a, r)
  | .fail e, r => (.fail e, r)

/-- The answer or failure of a program that has ended. -/
def answer? : Program α → Option (Except OperationError α)
  | .done a => some (.ok a)
  | .fail e => some (.error e)
  | _ => none

/-- The call that a program makes at its next turn. -/
def pendingCall? : Program α → Option RepositoryCall
  | .call c _ => some c
  | _ => none

/-- Whether the program takes no part in what happens any more and ends with `x`. -/
def Settled (x : Except OperationError α) : Program α → Prop
  | .done a => x = .ok a
  | .fail e => x = .error e
  | .announce _ next => next.Settled x
  | .poll next => (next false).Settled x
  | .call _ _ => False

/-- Whether the program will take effect at one of its calls, and then as `effect` says; or will end
before with a failure that counts as `lost`. All other calls leave the repository as it is. Other
clients change the repository between the calls, but keep `K`. -/
def Pending [Repository ρ] (K : ρ → Prop) (effect : ρ → Except OperationError α × ρ)
    (lost : OperationError → Prop) : Program α → Prop
  | .done _ => False
  | .fail _ => False
  | .announce _ next => next.Pending K effect lost
  | .poll next => (next false).Pending K effect lost
  | .call c next => ∀ r, K r →
      ((Repository.answer c r).2 = r ∧
        ((next (Repository.answer c r).1).Pending K effect lost ∨
          ∃ e, lost e ∧ next (Repository.answer c r).1 = .fail e)) ∨
      ((Repository.answer c r).2 = (effect r).2 ∧
        (next (Repository.answer c r).1).Settled (effect r).1)

/-- What a program does when it is run at once. -/
def effect [Repository ρ] (p : Program α) (r : ρ) : Except OperationError α × ρ :=
  ((p.run none 0 r).result, (p.run none 0 r).repository)

theorem Settled.move [Repository ρ] {x : Except OperationError α} {p : Program α}
    (h : p.Settled x) (r : ρ) : (p.move r).1.Settled x ∧ (p.move r).2 = r := by
  cases p with
  | call c next => exact h.elim
  | _ => exact ⟨h, rfl⟩

theorem Settled.answer?_eq {x y : Except OperationError α} {p : Program α} (h : p.Settled x)
    (hAnswer : p.answer? = some y) : y = x := by
  cases p with
  | done a =>
    rw [show x = .ok a from h]
    exact (Option.some.inj hAnswer).symm
  | fail e =>
    rw [show x = .error e from h]
    exact (Option.some.inj hAnswer).symm
  | _ => exact nomatch hAnswer

theorem Pending.answer? [Repository ρ] {K : ρ → Prop}
    {effect : ρ → Except OperationError α × ρ} {lost : OperationError → Prop} {p : Program α}
    (h : p.Pending K effect lost) : p.answer? = none := by
  cases p with
  | done a => exact h.elim
  | fail e => exact h.elim
  | _ => rfl

/-- A turn of a pending program leaves it pending, or loses it, or is the one at which it takes
effect. -/
theorem Pending.move [Repository ρ] {K : ρ → Prop}
    {effect : ρ → Except OperationError α × ρ} {lost : OperationError → Prop} {p : Program α}
    (h : p.Pending K effect lost) {r : ρ} (hK : K r) :
    ((p.move r).2 = r ∧
      ((p.move r).1.Pending K effect lost ∨ ∃ e, lost e ∧ (p.move r).1 = .fail e)) ∨
    ((p.move r).2 = (effect r).2 ∧ (p.move r).1.Settled (effect r).1) := by
  cases p with
  | done a => exact h.elim
  | fail e => exact h.elim
  | announce e next => exact .inl ⟨rfl, .inl h⟩
  | poll next => exact .inl ⟨rfl, .inl h⟩
  | call c next => exact h r hK

end Program

/-! ## Turns of all clients -/

/-- A repository and its clients, each with what is left of its program. -/
structure Office (ι ρ α : Type) where
  repository : ρ
  client : ι → Program α

namespace Office

variable {ι ρ α : Type} [Repository ρ]

section Turns

variable [DecidableEq ι]

/-- One client takes a turn. -/
def turn (o : Office ι ρ α) (i : ι) : Office ι ρ α where
  repository := ((o.client i).move o.repository).2
  client := Function.update o.client i ((o.client i).move o.repository).1

/-- The clients take turns in the given order. -/
def after (o : Office ι ρ α) (turns : List ι) : Office ι ρ α := turns.foldl turn o

/-- What a client is answered, once its program has ended. -/
def answer? (o : Office ι ρ α) (i : ι) : Option (Except OperationError α) := (o.client i).answer?

/-- Whether every client has an answer. -/
def IsFinished (o : Office ι ρ α) : Prop := ∀ i, (o.answer? i).isSome

@[simp] theorem turn_client_self (o : Office ι ρ α) (i : ι) :
    (o.turn i).client i = ((o.client i).move o.repository).1 := Function.update_self ..

theorem turn_client_of_ne (o : Office ι ρ α) {i j : ι} (h : j ≠ i) :
    (o.turn i).client j = o.client j := Function.update_of_ne h ..

theorem after_append (o : Office ι ρ α) (s t : List ι) :
    o.after (s ++ t) = (o.after s).after t := List.foldl_append

@[simp] theorem after_concat (o : Office ι ρ α) (turns : List ι) (i : ι) :
    o.after (turns ++ [i]) = (o.after turns).turn i := List.foldl_concat ..

end Turns

/-! ## One client after another -/

/-- The clients of a list come one after another, each running its program at once. Answers what
each was answered, and what is left behind. -/
def inTurn (program : ι → Program α) : List ι → ρ → List (ι × Except OperationError α) × ρ
  | [], r => ([], r)
  | i :: rest, r =>
    let (x, r) := (program i).effect r
    let (answers, r) := inTurn program rest r
    ((i, x) :: answers, r)

theorem inTurn_concat (program : ι → Program α) (order : List ι) (i : ι) (r : ρ) :
    inTurn program (order ++ [i]) r =
      ((inTurn program order r).1 ++ [(i, ((program i).effect (inTurn program order r).2).1)],
        ((program i).effect (inTurn program order r).2).2) := by
  induction order generalizing r with
  | nil => rfl
  | cons j rest ih =>
    simp only [List.cons_append, inTurn]
    rw [ih]

theorem inTurn_fst (program : ι → Program α) (order : List ι) (r : ρ) :
    (inTurn program order r).1.map Prod.fst = order := by
  induction order generalizing r with
  | nil => rfl
  | cons i rest ih => exact congrArg (i :: ·) (ih _)

/-- Every client of the order is answered. -/
theorem exists_mem_inTurn (program : ι → Program α) {order : List ι} {i : ι} (h : i ∈ order)
    (r : ρ) : ∃ x, (i, x) ∈ (inTurn program order r).1 := by
  rw [← inTurn_fst program order r] at h
  obtain ⟨⟨j, x⟩, hMem, rfl⟩ := List.mem_map.mp h
  exact ⟨x, hMem⟩

/-- No client is answered that is not of the order. -/
theorem mem_of_mem_inTurn {program : ι → Program α} {order : List ι} {r : ρ} {i : ι}
    {x : Except OperationError α} (h : (i, x) ∈ (inTurn program order r).1) : i ∈ order := by
  rw [← inTurn_fst program order r]
  exact List.mem_map_of_mem h

/-- A client that comes in turn is answered what its program answers at some repository. -/
theorem exists_effect_of_mem_inTurn {P : ρ → Prop}
    (hCall : ∀ c r, P r → P (Repository.answer c r).2) {program : ι → Program α}
    {order : List ι} {r : ρ} (h : P r) {i : ι} {x : Except OperationError α}
    (hx : (i, x) ∈ (inTurn program order r).1) :
    ∃ r', P r' ∧ x = ((program i).effect r').1 := by
  induction order generalizing r with
  | nil => exact (List.not_mem_nil hx).elim
  | cons j rest ih =>
    rcases List.mem_cons.mp hx with hEq | hx
    · obtain ⟨rfl, rfl⟩ := Prod.mk.inj hEq
      exact ⟨r, h, rfl⟩
    · exact ih (Program.run_keeps hCall _ h) hx

/-- What every call keeps, any clients one after another keep. -/
theorem inTurn_keeps {P : ρ → Prop} (hCall : ∀ c r, P r → P (Repository.answer c r).2)
    (program : ι → Program α) (order : List ι) {r : ρ} (h : P r) :
    P (inTurn program order r).2 := by
  induction order generalizing r with
  | nil => exact h
  | cons i rest ih => exact ih (Program.run_keeps hCall _ h)

/-! ## The order in which clients take effect -/

section Order

variable [DecidableEq ι] {K : ρ → Prop} {lost : ι → OperationError → Prop}
  {start : Office ι ρ α}

/-- How a client stands once those of `order` have taken effect. -/
def Stands (K : ρ → Prop) (lost : ι → OperationError → Prop) (start : Office ι ρ α)
    (order : List ι) (i : ι) (p : Program α) : Prop :=
  (i ∉ order ∧
    (p.Pending K (start.client i).effect (lost i) ∨ ∃ e, lost i e ∧ p = .fail e)) ∨
  ∃ x, (i, x) ∈ (inTurn start.client order start.repository).1 ∧ p.Settled x

/-- What is known after some turns: `order` is the order in which clients have taken effect. -/
structure Ordered (K : ρ → Prop) (lost : ι → OperationError → Prop) (start : Office ι ρ α)
    (turns order : List ι) : Prop where
  sublist : order.Sublist turns
  nodup : order.Nodup
  repository : (inTurn start.client order start.repository).2 = (start.after turns).repository
  clients : ∀ i, Stands K lost start order i ((start.after turns).client i)
  kept : K (start.after turns).repository

/-- A turn that changes nothing but the standing of its own client leaves the order as it is. -/
theorem Ordered.silent {turns order : List ι} (h : Ordered K lost start turns order) (i : ι)
    (hSame : ((start.after turns).turn i).repository = (start.after turns).repository)
    (hClient : Stands K lost start order i (((start.after turns).turn i).client i)) :
    Ordered K lost start (turns ++ [i]) order where
  sublist := h.sublist.trans (List.sublist_append_left turns [i])
  nodup := h.nodup
  repository := by
    rw [after_concat, hSame]
    exact h.repository
  clients := by
    intro j
    rw [after_concat]
    by_cases hji : j = i
    · rw [hji]
      exact hClient
    · rw [turn_client_of_ne _ hji]
      exact h.clients j
  kept := by
    rw [after_concat, hSame]
    exact h.kept

/-- A client that takes effect comes last in the order. -/
theorem Ordered.effective {turns order : List ι} (h : Ordered K lost start turns order) {i : ι}
    (hNew : i ∉ order)
    (hRepository : ((start.after turns).turn i).repository =
      ((start.client i).effect (start.after turns).repository).2)
    (hClient : (((start.after turns).turn i).client i).Settled
      ((start.client i).effect (start.after turns).repository).1)
    (hKept : K ((start.after turns).turn i).repository) :
    Ordered K lost start (turns ++ [i]) (order ++ [i]) where
  sublist := h.sublist.append (List.Sublist.refl [i])
  nodup := by
    rw [List.nodup_append]
    refine ⟨h.nodup, List.nodup_singleton i, ?_⟩
    intro j hj k hk
    rw [List.mem_singleton.mp hk]
    exact fun hEq => hNew (hEq ▸ hj)
  repository := by
    rw [inTurn_concat, h.repository, after_concat, hRepository]
  clients := by
    intro j
    rw [after_concat, Stands, inTurn_concat, h.repository]
    by_cases hji : j = i
    · rw [hji]
      exact .inr ⟨_, List.mem_append_right _ (List.mem_singleton_self _), hClient⟩
    -- the others stand as before, since answers are only added to
    · rw [turn_client_of_ne _ hji]
      rcases h.clients j with ⟨hOut, hStill⟩ | ⟨x, hx, hSettled⟩
      · refine .inl ⟨fun hIn => ?_, hStill⟩
        rcases List.mem_append.mp hIn with hIn | hIn
        · exact hOut hIn
        · exact hji (List.mem_singleton.mp hIn)
      · exact .inr ⟨x, List.mem_append_left _ hx, hSettled⟩
  kept := by
    rw [after_concat]
    exact hKept

/-- One more turn, whoever takes it. -/
theorem Ordered.concat {turns order : List ι} (h : Ordered K lost start turns order) (i : ι)
    (hCall : ∀ c r, K r → K (Repository.answer c r).2) :
    ∃ order', Ordered K lost start (turns ++ [i]) order' := by
  have hKept : K ((start.after turns).turn i).repository := by
    rw [turn]
    cases (start.after turns).client i with
    | call c next => exact hCall c _ h.kept
    | _ => exact h.kept
  rcases h.clients i with ⟨hNew, hPending | ⟨e, he, hLost⟩⟩ | ⟨x, hx, hSettled⟩
  -- pending: the only turn that may lengthen the order
  · rcases hPending.move h.kept with ⟨hSame, hStill⟩ | ⟨hLeft, hSettled⟩
    · refine ⟨order, h.silent i hSame (.inl ⟨hNew, ?_⟩)⟩
      rwa [turn_client_self]
    · refine ⟨order ++ [i], h.effective hNew hLeft ?_ hKept⟩
      rwa [turn_client_self]
  -- lost: the program has failed, and a failed program does nothing
  · refine ⟨order, h.silent i ?_ (.inl ⟨hNew, .inr ⟨e, he, ?_⟩⟩)⟩
    · rw [turn, hLost]
      rfl
    · rw [turn_client_self, hLost]
      rfl
  -- settled: what is left makes no call
  · refine ⟨order, h.silent i (hSettled.move _).2 (.inr ⟨x, hx, ?_⟩)⟩
    rw [turn_client_self]
    exact (hSettled.move _).1

/-- **The order of the effects.** After any turns the clients that have taken effect can be put into
an order, that of some of the turns, such that coming one after another they are answered the same
and leave the same repository. The others are pending or lost, and have changed nothing. -/
theorem exists_order (start : Office ι ρ α)
    (hCall : ∀ c r, K r → K (Repository.answer c r).2) (hK : K start.repository)
    (hPending : ∀ i, (start.client i).Pending K (start.client i).effect (lost i))
    (turns : List ι) : ∃ order, Ordered K lost start turns order := by
  -- from the end: `Ordered` speaks of what has happened, and the last turn adds to it
  induction turns using List.reverseRecOn with
  | nil =>
    exact ⟨[], ⟨.slnil, List.nodup_nil, rfl, fun i => .inl ⟨List.not_mem_nil, .inl (hPending i)⟩,
      hK⟩⟩
  | append_singleton turns i ih =>
    obtain ⟨order, hOrder⟩ := ih
    exact hOrder.concat i hCall

/-- Once all have finished, a client of the order has the answer that it gets in turn. -/
theorem Ordered.answer?_eq {turns order : List ι} (h : Ordered K lost start turns order)
    (hFinished : (start.after turns).IsFinished) {i : ι} {x : Except OperationError α}
    (hx : (i, x) ∈ (inTurn start.client order start.repository).1) :
    (start.after turns).answer? i = some x := by
  obtain ⟨y, hy⟩ := Option.isSome_iff_exists.mp (hFinished i)
  rcases h.clients i with ⟨hOut, -⟩ | ⟨x', hx', hSettled⟩
  · exact absurd (mem_of_mem_inTurn hx) hOut
  · have hNodup : ((inTurn start.client order start.repository).1.map Prod.fst).Nodup := by
      rw [inTurn_fst]
      exact h.nodup
    have hSame := List.inj_on_of_nodup_map hNodup hx hx' rfl
    rw [hy, hSettled.answer?_eq hy, ← (Prod.mk.inj hSame).2]

/-- Once all have finished, whoever is not of the order is lost. -/
theorem Ordered.lost_of_not_mem {turns order : List ι} (h : Ordered K lost start turns order)
    (hFinished : (start.after turns).IsFinished) {i : ι} (hOut : i ∉ order) :
    ∃ e, lost i e ∧ (start.after turns).client i = .fail e := by
  rcases h.clients i with ⟨-, hPending | hLost⟩ | ⟨x, hx, -⟩
  · have hSome := hFinished i
    rw [Office.answer?, hPending.answer?] at hSome
    exact nomatch hSome
  · exact hLost
  · exact absurd (mem_of_mem_inTurn hx) hOut

end Order

end Office

end PollRoster
