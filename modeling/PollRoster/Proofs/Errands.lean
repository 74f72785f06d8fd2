import PollRoster.Proofs.Assigning
import PollRoster.Proofs.Store

/-!
# Assigning and removing by turns

How `assign` and `remove` behave at a ledger that other clients change between their calls.

A removal takes effect at its deletion. An assignment takes effect at its insertion, or at the look
that finds the slot held. Between the two looks of an assignment whose insertion was refused the
slot may be emptied again; then the assignment is lost.

Main results:

* `assign_pending`, `remove_pending` — each takes effect at one of its calls as if it ran at once
  there; only an assignment may be lost.
-/

namespace PollRoster

/-! ## Answers changed by a function -/

namespace Program

theorem Settled.map {x : Except OperationError α} {p : Program α} (h : p.Settled x) (f : α → β) :
    (p >>= fun a => pure (f a)).Settled (x.map f) := by
  change (p.bind fun a => .done (f a)).Settled _
  induction p with
  | done a =>
    rw [show x = .ok a from h]
    rfl
  | fail e =>
    rw [show x = .error e from h]
    rfl
  | call c next ih => exact h.elim
  | announce e next ih => exact ih h
  | poll next ih => exact ih false h

theorem Pending.map [Repository ρ] {K : ρ → Prop} {effect : ρ → Except OperationError α × ρ}
    {lost : OperationError → Prop} {p : Program α} (h : p.Pending K effect lost) (f : α → β) :
    (p >>= fun a => pure (f a)).Pending K (fun r => ((effect r).1.map f, (effect r).2)) lost := by
  change (p.bind fun a => .done (f a)).Pending _ _ _
  induction p with
  | done a => exact h.elim
  | fail e => exact h.elim
  | call c next ih =>
    intro r hr
    rcases h r hr with ⟨hSame, hStill | ⟨e, he, hLost⟩⟩ | ⟨hLeft, hSettled⟩
    · exact .inl ⟨hSame, .inl (ih _ hStill)⟩
    · refine .inl ⟨hSame, .inr ⟨e, he, ?_⟩⟩
      change (next (Repository.answer c r).1).bind _ = _
      rw [hLost]
      rfl
    · exact .inr ⟨hLeft, hSettled.map f⟩
  | announce e next ih => exact ih h
  | poll next ih => exact ih false h

theorem effect_map [Repository ρ] (p : Program α) (f : α → β) (r : ρ) :
    (p >>= fun a => pure (f a)).effect r = ((p.effect r).1.map f, (p.effect r).2) := by
  rw [effect, run_map, effect]

/-- A call that changes nothing, before the rest of a pending program. -/
theorem Pending.ask_bind [Repository ρ] {K : ρ → Prop} {effect : ρ → Except OperationError β × ρ}
    {lost : OperationError → Prop} (c : RepositoryCall) {f : c.Answer → Program β}
    (h : ∀ r, K r → ∃ a, Repository.answer c r = (.ok a, r) ∧
      ((f a).Pending K effect lost ∨ (∃ e, lost e ∧ f a = .fail e) ∨
        (effect r).2 = r ∧ (f a).Settled (effect r).1)) :
    (ask c >>= f).Pending K effect lost := by
  intro r hr
  obtain ⟨a, hAnswer, hThen⟩ := h r hr
  have hSame : (Repository.answer c r).2 = r := by rw [hAnswer]
  have hNext : (ofExcept (Repository.answer c r).1).bind f = f a := by
    rw [hAnswer]
    rfl
  -- the rest of the program is stated by `bind`, which `rw` does not see through `>>=`
  change (_ ∧ (((ofExcept (Repository.answer c r).1).bind f).Pending K effect lost ∨
    ∃ e, lost e ∧ (ofExcept (Repository.answer c r).1).bind f = .fail e)) ∨
    (_ ∧ ((ofExcept (Repository.answer c r).1).bind f).Settled _)
  rw [hNext, hSame]
  rcases hThen with hPending | hLost | ⟨hLeft, hSettled⟩
  · exact .inl ⟨rfl, .inl hPending⟩
  · exact .inl ⟨rfl, .inr hLost⟩
  · exact .inr ⟨hLeft.symm, hSettled⟩

theorem settled_ofExcept (x : Except OperationError α) : (ofExcept x).Settled x := by
  cases x <;> rfl

end Program

namespace Assigning

open Program

/-! ## Where an assignment takes effect -/

/-- Whether the identifiers of an assignment are positive, and section and representative exist. -/
structure IsValid [Repository ρ] (r : ρ) (sectionId representativeId : Int) : Prop where
  sectionPos : 0 < sectionId
  representativePos : 0 < representativeId
  sectionExists : (Repository.answer (.sectionExists sectionId) r).1 = .ok true
  representativeExists :
    ∃ x, (Repository.answer (.representative representativeId) r).1 = .ok (some x)

section Assign

variable {base : Ledger} {sectionId representativeId : Int} {role : Role}

/-- What an assignment is asked for: positive identifiers of a known section and representative. -/
structure Askable (base : Ledger) (sectionId representativeId : Int) : Prop where
  sectionPos : 0 < sectionId
  representativePos : 0 < representativeId
  sectionKnown : (base.territory.section? sectionId).isSome
  representativeKnown : (base.representative? representativeId).isSome

/-- What is valid at a repository that keeps a ledger, is valid at the ledger. -/
theorem IsValid.askable [Repository ρ] {store : Ledger → ρ} (hStores : Stores store base)
    (h : IsValid (store base) sectionId representativeId) :
    Askable base sectionId representativeId where
  sectionPos := h.sectionPos
  representativePos := h.representativePos
  sectionKnown := by
    have hExists := h.sectionExists
    rw [hStores.answer (c := .sectionExists _) (.refl base) trivial] at hExists
    exact Except.ok.inj hExists
  representativeKnown := by
    obtain ⟨x, hx⟩ := h.representativeExists
    rw [hStores.answer (c := .representative _) (.refl base) trivial] at hx
    rw [show base.representative? representativeId = some x from Except.ok.inj hx]
    rfl

variable (h : Askable base sectionId representativeId)
include h

theorem Askable.of_isLike {l : Ledger} (hLike : base.IsLike l) :
    Askable l sectionId representativeId where
  sectionPos := h.sectionPos
  representativePos := h.representativePos
  sectionKnown := by
    rw [hLike.1]
    exact h.sectionKnown
  representativeKnown := by
    rw [Ledger.representative?, hLike.2]
    exact h.representativeKnown

theorem Askable.effect_of_held {existing : Assignment}
    (hHeld : base.findSlot sectionId role = some existing) :
    (assign sectionId representativeId role).effect base =
      (heldOrOccupied existing representativeId, base) := by
  rw [effect, run_assign_of_known rfl h.representativePos h.representativeKnown,
    run_fillSlot_of_held h.sectionPos h.sectionKnown hHeld]

theorem Askable.effect_of_free (hFree : base.findSlot sectionId role = none) :
    (assign sectionId representativeId role).effect base =
      (.ok (.created (base.next sectionId representativeId role)),
        base.add (base.next sectionId representativeId role)) := by
  rw [effect, run_assign_of_known rfl h.representativePos h.representativeKnown,
    run_fillSlot_of_free h.sectionPos h.sectionKnown hFree]

/-- The second look takes effect unless the slot is empty again. -/
theorem reportHolder_pending (role : Role) :
    (reportHolder sectionId representativeId role).Pending base.IsLike
      (assign sectionId representativeId role).effect
      (· = .repository (vanishedOccupant sectionId role)) := by
  refine Pending.ask_bind (.findSlot sectionId role) fun l hl => ⟨_, rfl, ?_⟩
  cases hSlot : l.findSlot sectionId role with
  | none => exact .inr (.inl ⟨_, rfl, rfl⟩)
  | some existing =>
    rw [(h.of_isLike hl).effect_of_held hSlot]
    exact .inr (.inr ⟨rfl, settled_ofExcept _⟩)

/-- The insertion takes effect unless it is refused. -/
theorem insertInto_pending (role : Role) :
    (insertInto sectionId representativeId role).Pending base.IsLike
      (assign sectionId representativeId role).effect
      (· = .repository (vanishedOccupant sectionId role)) := by
  intro l hl
  rcases l.insert_cases sectionId representativeId role with ⟨hFree, hInsert⟩ | ⟨a, -, hInsert⟩
  -- the slot is free, so a whole assignment would insert the same now
  · refine .inr ?_
    rw [(h.of_isLike hl).effect_of_free hFree]
    have hAnswer : Repository.answer (.insert sectionId representativeId role) l =
        (.ok (l.next sectionId representativeId role), _) := hInsert
    rw [hAnswer]
    exact ⟨rfl, rfl⟩
  -- who holds it now need not hold it at the second look
  · refine .inl ?_
    have hAnswer : Repository.answer (.insert sectionId representativeId role) l =
        (.error (.slotOccupied sectionId role a.representativeId), l) := hInsert
    rw [hAnswer]
    exact ⟨rfl, .inl (reportHolder_pending h role)⟩

theorem fillSlot_pending (role : Role) :
    (fillSlot sectionId representativeId role).Pending base.IsLike
      (assign sectionId representativeId role).effect
      (· = .repository (vanishedOccupant sectionId role)) := by
  rw [fillSlot, OperationError.checkId_of_pos h.sectionPos]
  refine Pending.ask_bind (.sectionExists sectionId) fun l hl => ⟨_, rfl, .inl ?_⟩
  rw [(h.of_isLike hl).sectionKnown, if_neg (by decide)]
  -- the ledger may have changed since the section was found, but it has the same sections
  refine Pending.ask_bind (.findSlot sectionId role) fun l hl => ⟨_, rfl, ?_⟩
  cases hSlot : l.findSlot sectionId role with
  | none => exact .inl (insertInto_pending h role)
  | some existing =>
    rw [(h.of_isLike hl).effect_of_held hSlot]
    exact .inr (.inr ⟨rfl, settled_ofExcept _⟩)

/-- **Where an assignment takes effect**: at its insertion, or at the look that finds the slot
held. -/
theorem assign_pending (role : Role) :
    (assign sectionId representativeId role).Pending base.IsLike
      (assign sectionId representativeId role).effect
      (· = .repository (vanishedOccupant sectionId role)) := by
  have hRest : (ofExcept (OperationError.checkId "representative_id" representativeId) >>=
      fun _ => requireRepresentative representativeId >>=
        fun _ => fillSlot sectionId representativeId role).Pending base.IsLike
      (assign sectionId representativeId role).effect
      (· = .repository (vanishedOccupant sectionId role)) := by
    rw [OperationError.checkId_of_pos h.representativePos]
    intro l hl
    obtain ⟨r, hr⟩ := Option.isSome_iff_exists.mp (h.of_isLike hl).representativeKnown
    have hAnswer : Repository.answer (.representative representativeId) l = (.ok (some r), l) :=
      congrArg (fun x => (Except.ok x, l)) hr
    rw [hAnswer]
    exact .inl ⟨rfl, .inl (fillSlot_pending h role)⟩
  exact hRest

end Assign

/-! ## Where a removal takes effect -/

/-- **Where a removal takes effect**: at its deletion. It is never lost. -/
theorem remove_pending {base : Ledger} {id : Int} (hPos : 0 < id) :
    (remove id).Pending base.IsLike (remove id).effect fun _ => False := by
  have hRest : (ofExcept (OperationError.checkId "assignment_id" id) >>= fun _ =>
      ask (.delete id) >>= fun removed => tell (.removed removed) >>= fun _ => pure removed).Pending
        base.IsLike (remove id).effect fun _ => False := by
    rw [OperationError.checkId_of_pos hPos]
    intro l _
    refine .inr ?_
    rw [effect, run_remove rfl hPos]
    rcases l.delete_cases id with ⟨-, hDelete⟩ | ⟨a, -, hDelete⟩
    · have hAnswer : Repository.answer (.delete id) l =
          (.error (.notFound "Assignment" id), l) := hDelete
      rw [hAnswer, hDelete]
      exact ⟨rfl, rfl⟩
    · have hAnswer : Repository.answer (.delete id) l = (.ok a, l.without id) := hDelete
      rw [hAnswer, hDelete]
      exact ⟨rfl, rfl⟩
  exact hRest

end Assigning

end PollRoster
