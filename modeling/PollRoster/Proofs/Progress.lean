import PollRoster.Proofs.Office
import PollRoster.Assigning

/-!
# Everybody is answered

A client makes a bounded number of turns, whatever its calls are answered and whatever the others do
in between. So nobody waits for anybody: who takes its turns is answered.

Main results:

* `assign_endsWithin`, `remove_endsWithin` — six turns and three.
* `Office.isFinished_of_count` — after that many turns of each client all are answered.
-/

namespace PollRoster

namespace Program

/-- Whether a program ends after at most so many turns, whatever it is answered. -/
def EndsWithin : Program α → Nat → Prop
  | .done _, _ => True
  | .fail _, _ => True
  | .call _ next, n + 1 => ∀ answer, (next answer).EndsWithin n
  | .announce _ next, n + 1 => next.EndsWithin n
  | .poll next, n + 1 => ∀ cancelled, (next cancelled).EndsWithin n
  | _, 0 => False

variable {n m : Nat}

theorem EndsWithin.mono {p : Program α} (h : p.EndsWithin n) (hLe : n ≤ m) : p.EndsWithin m := by
  induction p generalizing n m with
  | done a => trivial
  | fail e => trivial
  | call c next ih =>
    cases n with
    | zero => exact h.elim
    | succ n =>
      obtain _ | m := m
      · omega
      · exact fun answer => ih answer (h answer) (by omega)
  | announce e next ih =>
    cases n with
    | zero => exact h.elim
    | succ n =>
      obtain _ | m := m
      · omega
      · exact ih (n := n) h (by omega)
  | poll next ih =>
    cases n with
    | zero => exact h.elim
    | succ n =>
      obtain _ | m := m
      · omega
      · exact fun cancelled => ih cancelled (h cancelled) (by omega)

/-- One program after another takes the turns of both. -/
theorem EndsWithin.bind {p : Program α} {f : α → Program β} (hFirst : p.EndsWithin n)
    (hThen : ∀ a, (f a).EndsWithin m) : (p >>= f).EndsWithin (n + m) := by
  change (p.bind f).EndsWithin (n + m)
  induction p generalizing n with
  | done a => exact (hThen a).mono (Nat.le_add_left m n)
  | fail e => trivial
  | call c next ih =>
    cases n with
    | zero => exact hFirst.elim
    | succ n =>
      rw [Nat.succ_add]
      exact fun answer => ih answer (hFirst answer)
  | announce e next ih =>
    cases n with
    | zero => exact hFirst.elim
    | succ n =>
      rw [Nat.succ_add]
      exact ih hFirst
  | poll next ih =>
    cases n with
    | zero => exact hFirst.elim
    | succ n =>
      rw [Nat.succ_add]
      exact fun cancelled => ih cancelled (hFirst cancelled)

theorem ofExcept_endsWithin (x : Except OperationError α) : (ofExcept x).EndsWithin 0 := by
  cases x <;> trivial

theorem ask_endsWithin (c : RepositoryCall) : (ask c).EndsWithin 1 :=
  fun answer => ofExcept_endsWithin answer

/-- A turn of a program that has not ended uses one turn up. -/
theorem EndsWithin.move [Repository ρ] {p : Program α} (h : p.EndsWithin n) (r : ρ) :
    (p.move r).1.EndsWithin (n - 1) := by
  cases p with
  | done a => trivial
  | fail e => trivial
  | call c next =>
    cases n with
    | zero => exact h.elim
    | succ n => exact h _
  | announce e next =>
    cases n with
    | zero => exact h.elim
    | succ n => exact h
  | poll next =>
    cases n with
    | zero => exact h.elim
    | succ n => exact h false

theorem EndsWithin.answer?_isSome {p : Program α} (h : p.EndsWithin 0) : p.answer?.isSome := by
  cases p with
  | done a => rfl
  | fail e => rfl
  | _ => exact h.elim

end Program

namespace Assigning

open Program

theorem reportHolder_endsWithin (sectionId representativeId : Int) (role : Role) :
    (reportHolder sectionId representativeId role).EndsWithin 1 := by
  refine (ask_endsWithin _).bind (m := 0) fun occupant => ?_
  cases occupant with
  | none => trivial
  | some existing => exact ofExcept_endsWithin _

/-- After an insertion there is a new assignment to announce, or a holder to look for. -/
theorem insertInto_endsWithin (sectionId representativeId : Int) (role : Role) :
    (insertInto sectionId representativeId role).EndsWithin 2 := by
  intro answer
  cases answer with
  | ok a => trivial
  | error e =>
    cases e with
    | slotOccupied s r o => exact reportHolder_endsWithin sectionId representativeId role
    | _ => trivial

theorem fillSlot_endsWithin (sectionId representativeId : Int) (role : Role) :
    (fillSlot sectionId representativeId role).EndsWithin 4 := by
  refine (ofExcept_endsWithin _).bind (n := 0) (m := 4) fun _ => ?_
  refine (ask_endsWithin _).bind (m := 3) fun known => ?_
  split
  · trivial
  · refine (ask_endsWithin _).bind (m := 2) fun occupant => ?_
    cases occupant with
    | none => exact insertInto_endsWithin sectionId representativeId role
    | some existing => exact (ofExcept_endsWithin _).mono (Nat.zero_le 2)

theorem assign_endsWithin (sectionId representativeId : Int) (role : Role) :
    (assign sectionId representativeId role).EndsWithin 6 := by
  intro cancelled
  cases cancelled with
  | true => trivial
  | false =>
    have hKnown : (requireRepresentative representativeId).EndsWithin 1 := by
      refine (ask_endsWithin _).bind (m := 0) fun found => ?_
      cases found <;> trivial
    refine (ofExcept_endsWithin _).bind (n := 0) (m := 5) fun _ => ?_
    exact hKnown.bind fun _ => fillSlot_endsWithin sectionId representativeId role

theorem remove_endsWithin (assignmentId : Int) : (remove assignmentId).EndsWithin 3 := by
  intro cancelled
  cases cancelled with
  | true => trivial
  | false =>
    refine (ofExcept_endsWithin _).bind (n := 0) (m := 2) fun _ => ?_
    exact (ask_endsWithin _).bind (m := 1) fun _ => trivial

end Assigning

namespace Office

variable {ι ρ α : Type} [DecidableEq ι] [Repository ρ] {o : Office ι ρ α} {n : Nat}

/-- Every turn of a client brings it nearer to its end. -/
theorem endsWithin_after {i : ι} (h : (o.client i).EndsWithin n) (turns : List ι) :
    ((o.after turns).client i).EndsWithin (n - turns.count i) := by
  induction turns using List.reverseRecOn with
  | nil => exact h
  | append_singleton turns j ih =>
    rw [after_concat, List.count_append]
    by_cases hij : i = j
    · rw [← hij, turn_client_self, List.count_singleton_self, Nat.sub_add_eq]
      exact ih.move _
    · rw [turn_client_of_ne _ hij, List.count_singleton, if_neg (by simpa using Ne.symm hij)]
      exact ih

/-- **Nobody waits.** When every client has taken as many turns as its program can need, all are
answered. -/
theorem isFinished_of_count (h : ∀ i, (o.client i).EndsWithin n) {turns : List ι}
    (hTurns : ∀ i, n ≤ turns.count i) : (o.after turns).IsFinished := by
  intro i
  have hEnd := endsWithin_after (h i) turns
  rw [Nat.sub_eq_zero_of_le (hTurns i)] at hEnd
  exact hEnd.answer?_isSome

end Office

end PollRoster
