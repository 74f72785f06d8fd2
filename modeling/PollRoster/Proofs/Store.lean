import PollRoster.Proofs.Ledger
import PollRoster.Proofs.Office
import PollRoster.Assigning
import PollRoster.Snapshot

/-!
# Stored ledgers

A repository of another kind may keep a ledger in a form of its own. `Stores` says when it answers
for the ledger. What is proved of a ledger then holds of the repository as well, for all programs
that insert nothing but known representatives into known sections.

The reference data counts as fixed: the ledgers under consideration are those `IsLike` a given one.

Main results:

* `run_store` — a careful program runs over a stored ledger as over the ledger itself.
* `Office.after_store` — so do careful clients that share it.
* `assign_careful`, `remove_careful`, `bulkAssign_careful`, `load_careful` — the programs of this
  library are careful, whatever they are asked for.
-/

namespace PollRoster

/-! ## Storing -/

/-- Whether a ledger rests on the same reference data as `base`. -/
def Ledger.IsLike (base l : Ledger) : Prop :=
  l.territory = base.territory ∧ l.representatives = base.representatives

theorem Ledger.IsLike.refl (base : Ledger) : base.IsLike base := ⟨rfl, rfl⟩

theorem Ledger.IsLike.answer {base l : Ledger} (h : base.IsLike l) (c : RepositoryCall) :
    base.IsLike (l.answer c).2 :=
  ⟨(l.answer_static c).1.trans h.1, (l.answer_static c).2.trans h.2⟩

/-- Whether a call makes no assignment but of a known representative to a known section. -/
def RepositoryCall.IsGrounded (base : Ledger) : RepositoryCall → Prop
  | .insert sectionId representativeId _ =>
    (base.territory.section? sectionId).isSome ∧ (base.representative? representativeId).isSome
  | _ => True

/-- `store` keeps the ledgers like `base` in a repository that answers grounded calls for them. -/
structure Stores [Repository ρ] (store : Ledger → ρ) (base : Ledger) : Prop where
  answer : ∀ {c : RepositoryCall} {l : Ledger}, base.IsLike l → c.IsGrounded base →
    Repository.answer c (store l) = ((l.answer c).1, store (l.answer c).2)

/-- A ledger keeps itself. -/
theorem stores_self (base : Ledger) : Stores (fun l => l) base := ⟨fun _ _ => rfl⟩

/-- Whether a repository of some kind keeps this ledger at present. -/
def Ledger.IsKeptBy [Repository ρ] (l : Ledger) (r : ρ) : Prop :=
  ∃ store : Ledger → ρ, Stores store l ∧ r = store l

theorem Ledger.isKeptBy_self (l : Ledger) : l.IsKeptBy l := ⟨fun l => l, stores_self l, rfl⟩

theorem RepositoryCall.isGrounded_of_isLike {base l : Ledger} (h : base.IsLike l)
    {c : RepositoryCall} (hCall : c.IsGrounded l) : c.IsGrounded base := by
  cases c with
  | insert sectionId representativeId role =>
    obtain ⟨hSection, hRepresentative⟩ := hCall
    refine ⟨?_, ?_⟩
    · rwa [← h.1]
    · rwa [Ledger.representative?, ← h.2]
  | _ => trivial

/-- What is stored for a ledger is stored for every ledger like it. -/
theorem Stores.of_isLike [Repository ρ] {store : Ledger → ρ} {base l : Ledger}
    (h : Stores store base) (hLike : base.IsLike l) : Stores store l := by
  refine ⟨fun {c} l' hOther hCall => h.answer ?_ (RepositoryCall.isGrounded_of_isLike hLike hCall)⟩
  exact ⟨hOther.1.trans hLike.1, hOther.2.trans hLike.2⟩

/-! ## Careful programs -/

namespace Program

/-- Whether a program makes grounded calls only and answers nothing but what satisfies `post`, as
long as its calls are answered from ledgers like `base`. -/
def IsCareful (base : Ledger) (post : α → Prop) : Program α → Prop
  | .done a => post a
  | .fail _ => True
  | .call c next =>
    c.IsGrounded base ∧ ∀ l, base.IsLike l → (next (l.answer c).1).IsCareful base post
  | .announce _ next => next.IsCareful base post
  | .poll next => ∀ cancelled, (next cancelled).IsCareful base post

variable {base : Ledger}

theorem IsCareful.bind {p : Program α} {f : α → Program β} {post : α → Prop} {post' : β → Prop}
    (hFirst : p.IsCareful base post) (hThen : ∀ a, post a → (f a).IsCareful base post') :
    (p >>= f).IsCareful base post' := by
  change (p.bind f).IsCareful base post'
  induction p with
  | done a => exact hThen a hFirst
  | fail e => trivial
  | call c next ih => exact ⟨hFirst.1, fun l hl => ih _ (hFirst.2 l hl)⟩
  | announce e next ih => exact ih hFirst
  | poll next ih => exact fun cancelled => ih cancelled (hFirst cancelled)

theorem IsCareful.attempt {p : Program α} {post : α → Prop} (h : p.IsCareful base post) :
    p.attempt.IsCareful base fun _ => True := by
  induction p with
  | done a => trivial
  | fail e => trivial
  | call c next ih => exact ⟨h.1, fun l hl => ih _ (h.2 l hl)⟩
  | announce e next ih => exact ih h
  | poll next ih => exact fun cancelled => ih cancelled (h cancelled)

/-- A look at the flag before the rest of a careful program. -/
theorem isCancelled_bind_careful {f : Bool → Program β} {post : β → Prop}
    (hThen : ∀ cancelled, (f cancelled).IsCareful base post) :
    (isCancelled >>= f).IsCareful base post :=
  hThen

theorem ofExcept_careful {x : Except OperationError α} {post : α → Prop}
    (h : ∀ a, x = .ok a → post a) : (ofExcept x).IsCareful base post := by
  cases x with
  | ok a => exact h a rfl
  | error e => trivial

theorem ask_careful {c : RepositoryCall} (hCall : c.IsGrounded base) :
    (ask c).IsCareful base fun _ => True :=
  ⟨hCall, fun _ _ => ofExcept_careful fun _ _ => trivial⟩

/-- A check before the rest of a careful program. -/
theorem ofExcept_bind_careful (x : Except OperationError α) {f : α → Program β} {post : β → Prop}
    (hThen : ∀ a, (f a).IsCareful base post) : (ofExcept x >>= f).IsCareful base post := by
  cases x with
  | ok a => exact hThen a
  | error e => trivial

/-- A call before the rest of a careful program: the rest may count on the answer. -/
theorem ask_bind_careful (c : RepositoryCall) {f : c.Answer → Program β} {post : β → Prop}
    (hCall : c.IsGrounded base)
    (hThen : ∀ l, base.IsLike l → ∀ a, (l.answer c).1 = .ok a → (f a).IsCareful base post) :
    (ask c >>= f).IsCareful base post := by
  refine ⟨hCall, fun l hl => ?_⟩
  cases hAnswer : (l.answer c).1 with
  | ok a => exact hThen l hl a hAnswer
  | error e => trivial

section Store

variable [Repository ρ] {store : Ledger → ρ} {post : α → Prop}

/-- **Runs over a stored ledger.** A careful program runs over it as over the ledger itself, and the
ledger that it leaves is stored in what it leaves. -/
theorem run_store (hStores : Stores store base) {p : Program α} (hCareful : p.IsCareful base post)
    (stop : Cancellation) (now : Moment) {l : Ledger} (hLike : base.IsLike l) :
    p.run stop now (store l) = (p.run stop now l).mapRepository store := by
  induction p generalizing now l with
  | done a => rfl
  | fail e => rfl
  | call c next ih =>
    rw [run, hStores.answer hLike hCareful.1]
    exact ih _ (hCareful.2 l hLike) now (hLike.answer c)
  | announce e next ih =>
    rw [run, ih hCareful _ hLike]
    rfl
  | poll next ih => exact ih _ (hCareful _) _ hLike

theorem run_isLike (p : Program α) (stop : Cancellation) (now : Moment) {l : Ledger}
    (h : base.IsLike l) : base.IsLike (p.run stop now l).repository :=
  run_keeps (P := fun m => base.IsLike m) (fun c _ h => Ledger.IsLike.answer h c) p h

/-- After a careful program a repository keeps the ledger that the program leaves. -/
theorem run_isKeptBy {p : Program α} {l : Ledger} (hCareful : p.IsCareful l post) {r : ρ}
    (hKept : l.IsKeptBy r) (stop : Cancellation) (now : Moment) :
    (p.run stop now l).repository.IsKeptBy (p.run stop now r).repository := by
  obtain ⟨store, hStores, rfl⟩ := hKept
  have hLike : l.IsLike (p.run stop now l).repository := p.run_isLike stop now (.refl l)
  rw [run_store hStores hCareful stop now (.refl l)]
  exact ⟨store, hStores.of_isLike hLike, rfl⟩

/-- A turn of a careful client leaves a careful client. -/
theorem IsCareful.move {p : Program α} (h : p.IsCareful base post) {l : Ledger}
    (hLike : base.IsLike l) : (p.move l).1.IsCareful base post := by
  cases p with
  | call c next => exact h.2 l hLike
  | poll next => exact h false
  | _ => exact h

theorem move_store (hStores : Stores store base) {p : Program α} (h : p.IsCareful base post)
    {l : Ledger} (hLike : base.IsLike l) :
    p.move (store l) = ((p.move l).1, store (p.move l).2) := by
  cases p with
  | call c next =>
    rw [move, hStores.answer hLike h.1]
    rfl
  | _ => rfl

theorem move_isLike (p : Program α) {l : Ledger} (h : base.IsLike l) :
    base.IsLike (p.move l).2 := by
  cases p with
  | call c next => exact h.answer c
  | _ => exact h

end Store

end Program

/-! ## Careful clients -/

namespace Office

variable {ι ρ α : Type} [DecidableEq ι] [Repository ρ] {store : Ledger → ρ} {base : Ledger}

/-- The same clients at a repository that keeps the ledger. -/
def stored (store : Ledger → ρ) (o : Office ι Ledger α) : Office ι ρ α :=
  ⟨store o.repository, o.client⟩

/-- Careful clients take their turns at a stored ledger as at the ledger itself. -/
theorem after_store (hStores : Stores store base) {o : Office ι Ledger α}
    (hLike : base.IsLike o.repository)
    (hCareful : ∀ i, (o.client i).IsCareful base fun _ => True) (turns : List ι) :
    (o.stored store).after turns = (o.after turns).stored store := by
  -- from the front: what is left of the programs is careful again after the first turn
  induction turns generalizing o with
  | nil => rfl
  | cons i rest ih =>
    have hTurn : (o.stored store).turn i = (o.turn i).stored store := by
      rw [turn, turn, stored, stored, Program.move_store hStores (hCareful i) hLike]
    change ((o.stored store).turn i).after rest = ((o.turn i).after rest).stored store
    rw [hTurn]
    refine ih (Program.move_isLike _ hLike) fun j => ?_
    by_cases hji : j = i
    · rw [hji, turn_client_self]
      exact (hCareful i).move hLike
    · rw [turn_client_of_ne _ hji]
      exact hCareful j

omit [Repository ρ] in
theorem after_isLike {o : Office ι Ledger α} (hLike : base.IsLike o.repository)
    (turns : List ι) : base.IsLike (o.after turns).repository := by
  induction turns using List.reverseRecOn with
  | nil => exact hLike
  | append_singleton turns j ih =>
    rw [after_concat]
    exact Program.move_isLike _ ih

omit [DecidableEq ι] in
/-- Careful clients who come one after another find the same at a stored ledger. -/
theorem inTurn_store (hStores : Stores store base) {program : ι → Program α}
    (hCareful : ∀ i, (program i).IsCareful base fun _ => True) (order : List ι) {l : Ledger}
    (hLike : base.IsLike l) :
    inTurn program order (store l) =
      ((inTurn program order l).1, store (inTurn program order l).2) := by
  induction order generalizing l with
  | nil => rfl
  | cons i rest ih =>
    have hEffect : (program i).effect (store l) =
        (((program i).effect l).1, store ((program i).effect l).2) := by
      rw [Program.effect, Program.run_store hStores (hCareful i) none 0 hLike]
      rfl
    have hRest := ih (l := ((program i).effect l).2) (Program.run_isLike _ _ _ hLike)
    rw [inTurn, hEffect, inTurn]
    dsimp only
    rw [hRest]

omit [DecidableEq ι] [Repository ρ] in
theorem inTurn_isLike (program : ι → Program α) (order : List ι) {l : Ledger}
    (hLike : base.IsLike l) : base.IsLike (inTurn program order l).2 :=
  inTurn_keeps (P := fun m => base.IsLike m) (fun c _ h => Ledger.IsLike.answer h c) program order
    hLike

end Office

/-! ## The programs of this library -/

namespace Assigning

open Program

variable {base : Ledger}

/-- Once it has been required, the representative is known to exist. -/
theorem requireRepresentative_careful (id : Int) :
    (requireRepresentative id).IsCareful base fun _ => (base.representative? id).isSome := by
  refine ask_bind_careful (.representative id) trivial fun l hl x hx => ?_
  -- what was answered of the ledger at that moment holds of all ledgers like it
  have hSame : l.representative? id = base.representative? id := by
    rw [Ledger.representative?, hl.2, Ledger.representative?]
  have hFound : base.representative? id = x := hSame.symm.trans (Except.ok.inj hx)
  cases x with
  | none => trivial
  | some r =>
    change (base.representative? id).isSome
    rw [hFound]
    rfl

theorem findSlot_careful (sectionId : Int) (role : Role)
    {f : Option Assignment → Program AssignOutcome}
    (hThen : ∀ occupant, (f occupant).IsCareful base fun _ => True) :
    (ask (.findSlot sectionId role) >>= f).IsCareful base fun _ => True :=
  ask_bind_careful (.findSlot sectionId role) trivial fun _ _ occupant _ => hThen occupant

theorem reportHolder_careful (sectionId representativeId : Int) (role : Role) :
    (reportHolder sectionId representativeId role).IsCareful base fun _ => True := by
  refine findSlot_careful sectionId role fun occupant => ?_
  cases occupant with
  | some existing => exact ofExcept_careful fun _ _ => trivial
  | none => trivial

/-- The only insertion is grounded once section and representative are known. -/
theorem insertInto_careful {sectionId representativeId : Int} (role : Role)
    (hSection : (base.territory.section? sectionId).isSome)
    (hKnown : (base.representative? representativeId).isSome) :
    (insertInto sectionId representativeId role).IsCareful base fun _ => True := by
  refine ⟨⟨hSection, hKnown⟩, fun l _ => ?_⟩
  -- the insertion is an attempt: whatever it is answered, the program goes on
  change IsCareful base _ (Program.bind (.done _) _)
  rw [Program.bind]
  split
  · trivial
  · exact reportHolder_careful sectionId representativeId role
  · trivial

theorem fillSlot_careful (sectionId : Int) {representativeId : Int} (role : Role)
    (hKnown : (base.representative? representativeId).isSome) :
    (fillSlot sectionId representativeId role).IsCareful base fun _ => True := by
  refine ofExcept_bind_careful _ fun _ => ?_
  refine ask_bind_careful (.sectionExists sectionId) trivial fun l hl known hAnswer => ?_
  have hSection : (base.territory.section? sectionId).isSome = known := by
    rw [← hl.1]
    exact Except.ok.inj hAnswer
  cases known with
  | false => trivial
  | true =>
    refine findSlot_careful sectionId role fun occupant => ?_
    cases occupant with
    | some existing => exact ofExcept_careful fun _ _ => trivial
    | none => exact insertInto_careful role hSection hKnown

theorem assign_careful (sectionId representativeId : Int) (role : Role) :
    (assign sectionId representativeId role).IsCareful base fun _ => True := by
  refine isCancelled_bind_careful fun cancelled => ?_
  cases cancelled with
  | true => trivial
  | false =>
    refine ofExcept_bind_careful _ fun _ => ?_
    exact IsCareful.bind (requireRepresentative_careful representativeId)
      fun _ hKnown => fillSlot_careful sectionId role hKnown

theorem remove_careful (assignmentId : Int) :
    (remove assignmentId).IsCareful base fun _ => True := by
  refine isCancelled_bind_careful fun cancelled => ?_
  cases cancelled with
  | true => trivial
  | false =>
    refine ofExcept_bind_careful _ fun _ => ?_
    exact ask_bind_careful (.delete assignmentId) trivial fun _ _ _ _ => trivial

theorem fillNext_careful {representativeId : Int} (role : Role) (sectionId : Int)
    (hKnown : (base.representative? representativeId).isSome) :
    (fillNext representativeId role sectionId).IsCareful base fun _ => True := by
  refine isCancelled_bind_careful fun cancelled => ?_
  cases cancelled with
  | true => trivial
  | false =>
    exact (fillSlot_careful sectionId role hKnown).attempt.bind
      fun _ _ => ofExcept_careful fun _ _ => trivial

theorem fillSlots_careful {representativeId : Int} (role : Role) (sectionIds : List Int)
    (hKnown : (base.representative? representativeId).isSome) :
    (fillSlots representativeId role sectionIds).IsCareful base fun _ => True := by
  induction sectionIds with
  | nil => trivial
  | cons sectionId rest ih =>
    refine (fillNext_careful role sectionId hKnown).bind fun _ _ => ?_
    exact ih.bind fun _ _ => trivial

theorem bulkAssign_careful (representativeId : Int) (sectionIds : List Int) (role : Role) :
    (bulkAssign representativeId sectionIds role).IsCareful base fun _ => True := by
  rw [bulkAssign]
  split
  · trivial
  · refine ofExcept_bind_careful _ fun _ => ?_
    refine ofExcept_bind_careful _ fun _ => ?_
    refine IsCareful.bind (requireRepresentative_careful representativeId) fun _ hKnown => ?_
    exact (fillSlots_careful role _ hKnown).bind fun _ _ => trivial

end Assigning

theorem Snapshot.load_careful {base : Ledger} : load.IsCareful base fun _ => True :=
  Program.ask_bind_careful .territory trivial fun _ _ _ _ =>
    Program.ask_bind_careful .representatives trivial fun _ _ _ _ =>
      Program.ask_bind_careful .assignments trivial fun _ _ _ _ => trivial

theorem Command.execute_careful {base : Ledger} (command : Command) :
    command.execute.IsCareful base fun _ => True := by
  cases command with
  | assign sectionId representativeId role =>
    exact (Assigning.assign_careful sectionId representativeId role).bind fun _ _ => trivial
  | remove assignmentId => exact (Assigning.remove_careful assignmentId).bind fun _ _ => trivial
  | bulkAssign representativeId sectionIds role =>
    exact (Assigning.bulkAssign_careful representativeId sectionIds role).bind fun _ _ => trivial
  | invalidateCache scope => trivial

end PollRoster
