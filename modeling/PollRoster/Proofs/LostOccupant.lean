import PollRoster.Proofs.Errands

/-!
# Lost assignments

When an insertion is refused, the assignment looks again for whoever holds the slot. By then another
client may have taken the holder away. The assignment is lost then: it fails although the repository
did not.

Main results:

* `lost_iff` — an assignment is lost exactly when its slot was held at the insertion and is empty at
  the second look.
* `exists_delete_of_emptied` — a slot is emptied by a deletion only.
-/

namespace PollRoster

/-- Whether a call inserts into the given slot. -/
def RepositoryCall.Fills (sectionId : Int) (role : Role) (c : RepositoryCall) : Prop :=
  ∃ representativeId, c = .insert sectionId representativeId role

/-- Whether a call changes nothing, whatever the repository holds. -/
def RepositoryCall.Reads : RepositoryCall → Prop
  | .insert _ _ _ | .delete _ => False
  | _ => True

theorem RepositoryCall.Reads.not_fills {c : RepositoryCall} (h : c.Reads) (sectionId : Int)
    (role : Role) : ¬c.Fills sectionId role := by
  rintro ⟨representativeId, rfl⟩
  exact h

theorem RepositoryCall.Reads.ne_delete {c : RepositoryCall} (h : c.Reads) (id : Int) :
    c ≠ .delete id := by
  rintro rfl
  exact h

/-! ## What is left of an assignment -/

namespace Program

/-- Whether a program has not been refused the slot, nor will be without `again` being what is left
of it then. Such a program deletes nothing and does not fail with a failure of the repository. -/
def IsUnrefused (base : Ledger) (sectionId : Int) (role : Role) :
    Program α → (again : Program α) → Prop
  | .done _, _ => True
  | .fail e, _ => ∀ reason, e ≠ .repository reason
  | .announce _ next, again => next.IsUnrefused base sectionId role again
  | .poll next, again => (next false).IsUnrefused base sectionId role again
  | .call c next, again => (∀ id, c ≠ .delete id) ∧ ∀ l, base.IsLike l →
      (c.Fills sectionId role ∧ (l.findSlot sectionId role).isSome ∧
        next (l.answer c).1 = again ∧ (l.answer c).2 = l) ∨
      (¬(c.Fills sectionId role ∧ (l.findSlot sectionId role).isSome) ∧
        (next (l.answer c).1).IsUnrefused base sectionId role again)

/-- Whether a program looks at the slot next: it goes on when the slot is held and ends with the
failure `lost` when it is empty. -/
structure LooksAgain (base : Ledger) (sectionId : Int) (role : Role) (lost : OperationError)
    (p : Program α) : Prop where
  call : p.pendingCall? = some (.findSlot sectionId role)
  held : ∀ l, base.IsLike l → (l.findSlot sectionId role).isSome →
    (p.move l).1.IsUnrefused base sectionId role p
  empty : ∀ l, base.IsLike l → l.findSlot sectionId role = none → (p.move l).1 = .fail lost

variable {base : Ledger} {sectionId : Int} {role : Role} {lost : OperationError}

theorem IsUnrefused.map {p again : Program α} (h : p.IsUnrefused base sectionId role again)
    (f : α → β) : (p >>= fun a => pure (f a)).IsUnrefused base sectionId role
      (again >>= fun a => pure (f a)) := by
  change (p.bind fun a => .done (f a)).IsUnrefused _ _ _ (again.bind fun a => .done (f a))
  induction p with
  | done a => trivial
  | fail e => exact h
  | call c next ih =>
    refine ⟨h.1, fun l hl => ?_⟩
    rcases h.2 l hl with ⟨hFills, hHeld, hNext, hLeft⟩ | ⟨hNot, hNext⟩
    · exact .inl ⟨hFills, hHeld, congrArg (fun p => p.bind fun a => .done (f a)) hNext, hLeft⟩
    · exact .inr ⟨hNot, ih _ hNext⟩
  | announce e next ih => exact ih h
  | poll next ih => exact ih false h

theorem move_ask_bind [Repository ρ] {c : RepositoryCall} {a : c.Answer} {r r' : ρ}
    (h : Repository.answer c r = (.ok a, r')) (f : c.Answer → Program β) :
    (ask c >>= f).move r = (f a, r') := by
  change ((ofExcept (Repository.answer c r).1).bind f, (Repository.answer c r).2) = _
  rw [h]
  rfl

theorem move_map [Repository ρ] {p : Program α} {c : RepositoryCall}
    (h : p.pendingCall? = some c) (f : α → β) (r : ρ) :
    ((p >>= fun a => pure (f a)).move r).1 = (p.move r).1 >>= fun a => pure (f a) := by
  cases p with
  | call c next => rfl
  | _ => exact nomatch h

theorem LooksAgain.map {p : Program α} (h : p.LooksAgain base sectionId role lost) (f : α → β) :
    (p >>= fun a => pure (f a)).LooksAgain base sectionId role lost where
  call := by
    cases p with
    | call c next => exact h.call
    | _ => exact nomatch h.call
  held := by
    intro l hl hHeld
    rw [move_map h.call]
    exact (h.held l hl hHeld).map f
  empty := by
    intro l hl hEmpty
    rw [move_map h.call, h.empty l hl hEmpty]
    rfl

/-- A call that reads, before the rest of an unrefused program. -/
theorem IsUnrefused.ask_bind {again : Program β} {c : RepositoryCall} (hReads : c.Reads)
    {f : c.Answer → Program β}
    (h : ∀ l, base.IsLike l → ∃ a, (l.answer c).1 = .ok a ∧
      (f a).IsUnrefused base sectionId role again) :
    (ask c >>= f).IsUnrefused base sectionId role again := by
  refine ⟨hReads.ne_delete, fun l hl => ?_⟩
  obtain ⟨a, hAnswer, hThen⟩ := h l hl
  refine .inr ⟨fun hBoth => hReads.not_fills sectionId role hBoth.1, ?_⟩
  change ((ofExcept (l.answer c).1).bind f).IsUnrefused _ _ _ _
  rw [hAnswer]
  exact hThen

end Program

namespace Assigning

open Program

theorem heldOrOccupied_unrefused {base : Ledger} {sectionId : Int} {role : Role}
    {again : Program AssignOutcome} (existing : Assignment) (representativeId : Int) :
    (ofExcept (heldOrOccupied existing representativeId)).IsUnrefused base sectionId role
      again := by
  rw [heldOrOccupied]
  split
  · trivial
  · intro reason hFailure
    cases hFailure

variable {base : Ledger} {sectionId representativeId : Int}

theorem reportHolder_move (role : Role) (l : Ledger) :
    ((reportHolder sectionId representativeId role).move l).1 =
      match l.findSlot sectionId role with
      | some existing => Program.ofExcept (heldOrOccupied existing representativeId)
      | none => .fail (.repository (vanishedOccupant sectionId role)) := by
  have hLook : Repository.answer (.findSlot sectionId role) l =
      (.ok (l.findSlot sectionId role), l) := rfl
  rw [reportHolder, move_ask_bind hLook]
  cases l.findSlot sectionId role <;> rfl

theorem reportHolder_looksAgain (role : Role) :
    (reportHolder sectionId representativeId role).LooksAgain base sectionId role
      (.repository (vanishedOccupant sectionId role)) where
  call := rfl
  held := by
    intro l _ hHeld
    obtain ⟨existing, hExisting⟩ := Option.isSome_iff_exists.mp hHeld
    rw [reportHolder_move, hExisting]
    exact heldOrOccupied_unrefused existing representativeId
  empty := by
    intro l _ hEmpty
    rw [reportHolder_move, hEmpty]

theorem insertInto_unrefused (role : Role) :
    (insertInto sectionId representativeId role).IsUnrefused base sectionId role
      (reportHolder sectionId representativeId role) := by
  refine ⟨nofun, fun l _ => ?_⟩
  rcases l.insert_cases sectionId representativeId role with ⟨hFree, hInsert⟩ | ⟨a, hHeld, hInsert⟩
  -- the insertion succeeds and the program is done: it is never refused
  · refine .inr ⟨fun hBoth => ?_, ?_⟩
    · rw [hFree] at hBoth
      exact nomatch hBoth.2
    · rw [Ledger.answer, hInsert]
      trivial
  · refine .inl ⟨⟨representativeId, rfl⟩, ?_, ?_, ?_⟩
    · rw [hHeld]
      rfl
    · rw [Ledger.answer, hInsert]
      rfl
    · rw [Ledger.answer, hInsert]

theorem assign_unrefused (h : Askable base sectionId representativeId) (role : Role) :
    (assign sectionId representativeId role).IsUnrefused base sectionId role
      (reportHolder sectionId representativeId role) := by
  have hFill : (fillSlot sectionId representativeId role).IsUnrefused base sectionId role
      (reportHolder sectionId representativeId role) := by
    rw [fillSlot, OperationError.checkId_of_pos h.sectionPos]
    refine IsUnrefused.ask_bind (c := .sectionExists _) trivial fun l hl => ⟨_, rfl, ?_⟩
    rw [(h.of_isLike hl).sectionKnown, if_neg (by decide)]
    refine IsUnrefused.ask_bind (c := .findSlot _ _) trivial fun l hl => ⟨_, rfl, ?_⟩
    cases l.findSlot sectionId role with
    | none => exact insertInto_unrefused role
    | some existing => exact heldOrOccupied_unrefused existing representativeId
  have hRest : (ofExcept (OperationError.checkId "representative_id" representativeId) >>=
      fun _ => requireRepresentative representativeId >>=
        fun _ => fillSlot sectionId representativeId role).IsUnrefused base sectionId role
      (reportHolder sectionId representativeId role) := by
    rw [OperationError.checkId_of_pos h.representativePos]
    have hReads : (RepositoryCall.representative representativeId).Reads := trivial
    refine ⟨hReads.ne_delete, fun l hl => ?_⟩
    obtain ⟨r, hr⟩ := Option.isSome_iff_exists.mp (h.of_isLike hl).representativeKnown
    refine .inr ⟨fun hBoth => hReads.not_fills sectionId role hBoth.1, ?_⟩
    have hAnswer : (l.answer (.representative representativeId)).1 = .ok (some r) :=
      congrArg Except.ok hr
    rw [hAnswer]
    exact hFill
  exact hRest

end Assigning

namespace Office

/-! ## The turns of a lost assignment -/

section Clients

variable {ι ρ α : Type} [DecidableEq ι] [Repository ρ]

theorem client_after_of_not_mem (o : Office ι ρ α) {i : ι} {turns : List ι} (h : i ∉ turns) :
    (o.after turns).client i = o.client i := by
  induction turns using List.reverseRecOn with
  | nil => rfl
  | append_singleton turns j ih =>
    have hNe : i ≠ j := fun hEq => h (List.mem_append_right _ (by simp [hEq]))
    rw [after_concat, turn_client_of_ne _ hNe]
    exact ih fun hMem => h (List.mem_append_left _ hMem)

/-- A client that has failed stays so. -/
theorem client_after_of_fail (o : Office ι ρ α) {i : ι} {e : OperationError}
    (h : o.client i = .fail e) (turns : List ι) : (o.after turns).client i = .fail e := by
  induction turns using List.reverseRecOn with
  | nil => exact h
  | append_singleton turns j ih =>
    rw [after_concat]
    by_cases hij : i = j
    · rw [← hij, turn_client_self, ih]
      rfl
    · rw [turn_client_of_ne _ hij]
      exact ih

/-- Whether a slot is held. -/
def IsHeld (o : Office ι ρ α) (sectionId : Int) (role : Role) : Prop :=
  ∃ a, (Repository.answer (.findSlot sectionId role) o.repository).1 = .ok (some a)

/-- Whether `turns` go on from a turn at which the client is refused the slot, without another turn
of that client so far. -/
def Refused (start : Office ι ρ α) (i : ι) (sectionId : Int) (role : Role)
    (turns : List ι) : Prop :=
  ∃ before between, turns = before ++ i :: between ∧ i ∉ between ∧
    (∃ c, ((start.after before).client i).pendingCall? = some c ∧ c.Fills sectionId role) ∧
    (start.after before).IsHeld sectionId role

/-- Whether a client is refused the slot because it is held, and finds it empty at its next turn. -/
def LostOccupant (start : Office ι ρ α) (i : ι) (sectionId : Int) (role : Role)
    (turns : List ι) : Prop :=
  ∃ middle after, turns = middle ++ i :: after ∧ start.Refused i sectionId role middle ∧
    ¬(start.after middle).IsHeld sectionId role

theorem Refused.concat {start : Office ι ρ α} {i : ι} {sectionId : Int} {role : Role}
    {turns : List ι} (h : start.Refused i sectionId role turns) {j : ι} (hNe : i ≠ j) :
    start.Refused i sectionId role (turns ++ [j]) := by
  obtain ⟨before, between, rfl, hNot, hRest⟩ := h
  refine ⟨before, between ++ [j], by simp, fun hMem => ?_, hRest⟩
  rcases List.mem_append.mp hMem with hMem | hMem
  · exact hNot hMem
  · exact hNe (List.mem_singleton.mp hMem)

theorem LostOccupant.concat {start : Office ι ρ α} {i : ι} {sectionId : Int} {role : Role}
    {turns : List ι} (h : start.LostOccupant i sectionId role turns) (j : ι) :
    start.LostOccupant i sectionId role (turns ++ [j]) := by
  obtain ⟨middle, after, rfl, hRest⟩ := h
  exact ⟨middle, after ++ [j], by simp, hRest⟩

/-- A client is lost at a stored ledger as it is at the ledger itself. -/
theorem lostOccupant_stored {store : Ledger → ρ} {base : Ledger} (hStores : Stores store base)
    {o : Office ι Ledger α} (hLike : base.IsLike o.repository)
    (hCareful : ∀ i, (o.client i).IsCareful base fun _ => True) {i : ι} {sectionId : Int}
    {role : Role} {turns : List ι} :
    (o.stored store).LostOccupant i sectionId role turns ↔
      o.LostOccupant i sectionId role turns := by
  have hHeld : ∀ turns, ((o.stored store).after turns).IsHeld sectionId role ↔
      (o.after turns).IsHeld sectionId role := by
    intro turns
    rw [after_store hStores hLike hCareful]
    have hAnswer := hStores.answer (c := .findSlot sectionId role)
      (after_isLike hLike turns) trivial
    exact exists_congr fun a => by rw [stored, hAnswer]; rfl
  have hClient : ∀ turns j, ((o.stored store).after turns).client j = (o.after turns).client j := by
    intro turns j
    rw [after_store hStores hLike hCareful]
    rfl
  simp only [LostOccupant, Refused, hHeld, hClient]

end Clients

section Lost

variable {ι α : Type} [DecidableEq ι] {base : Ledger} {start : Office ι Ledger α} {i : ι}
  {sectionId : Int} {role : Role} {reason : String} {again : Program α}

omit [DecidableEq ι] in
theorem isHeld_iff {o : Office ι Ledger α} :
    o.IsHeld sectionId role ↔ (o.repository.findSlot sectionId role).isSome := by
  rw [Option.isSome_iff_exists]
  exact ⟨fun ⟨a, h⟩ => ⟨a, Except.ok.inj h⟩, fun ⟨a, h⟩ => ⟨a, congrArg Except.ok h⟩⟩

/-- How a client stands that assigns: unrefused, refused and about to look again, or lost. -/
def Stage (base : Ledger) (start : Office ι Ledger α) (i : ι) (sectionId : Int) (role : Role)
    (reason : String) (again : Program α) (turns : List ι) : Prop :=
  let p := (start.after turns).client i
  p.IsUnrefused base sectionId role again ∨
    (p = again ∧ start.Refused i sectionId role turns) ∨
    (p = .fail (.repository reason) ∧ start.LostOccupant i sectionId role turns)

/-- A turn of an unrefused client leaves it unrefused, or is the one at which it is refused. -/
theorem unrefused_move {p : Program α} (h : p.IsUnrefused base sectionId role again) {l : Ledger}
    (hLike : base.IsLike l) :
    (p.move l).1.IsUnrefused base sectionId role again ∨
      ((p.move l).1 = again ∧ (l.findSlot sectionId role).isSome ∧
        ∃ c, p.pendingCall? = some c ∧ c.Fills sectionId role) := by
  cases p with
  | call c next =>
    rcases h.2 l hLike with ⟨hFills, hHeld, hNext, -⟩ | ⟨-, hNext⟩
    · exact .inr ⟨hNext, hHeld, c, rfl, hFills⟩
    · exact .inl hNext
  | _ => exact .inl h

/-- One more turn, whoever takes it. -/
theorem Stage.concat (hLike : base.IsLike start.repository)
    (hLooks : again.LooksAgain base sectionId role (.repository reason)) {turns : List ι}
    (h : Stage base start i sectionId role reason again turns) (j : ι) :
    Stage base start i sectionId role reason again (turns ++ [j]) := by
  have hNow := after_isLike hLike turns
  rw [Stage, after_concat]
  by_cases hij : i = j
  -- the client's own turn may take it to the next stage
  · subst hij
    rw [turn_client_self]
    rcases h with hUnrefused | ⟨hAgain, hRefused⟩ | ⟨hLost, hOccupant⟩
    · rcases unrefused_move hUnrefused hNow with hStill | ⟨hAgain, hHeld, hCall⟩
      · exact .inl hStill
      · exact .inr (.inl ⟨hAgain, turns, [], rfl, List.not_mem_nil, hCall, isHeld_iff.mpr hHeld⟩)
    · rw [hAgain]
      cases hSlot : (start.after turns).repository.findSlot sectionId role with
      | none =>
        refine .inr (.inr ⟨hLooks.empty _ hNow hSlot, turns, [], rfl, hRefused, fun hHeld => ?_⟩)
        rw [isHeld_iff, hSlot] at hHeld
        exact nomatch hHeld
      | some a =>
        refine .inl (hLooks.held _ hNow ?_)
        rw [hSlot]
        rfl
    · rw [hLost]
      exact .inr (.inr ⟨rfl, hOccupant.concat i⟩)
  -- a turn of another client leaves it at its stage; the history gets longer
  · rw [turn_client_of_ne _ hij]
    rcases h with hUnrefused | ⟨hAgain, hRefused⟩ | ⟨hLost, hOccupant⟩
    · exact .inl hUnrefused
    · exact .inr (.inl ⟨hAgain, hRefused.concat hij⟩)
    · exact .inr (.inr ⟨hLost, hOccupant.concat j⟩)

theorem stage (start : Office ι Ledger α) (hLike : base.IsLike start.repository)
    (hStart : (start.client i).IsUnrefused base sectionId role again)
    (hLooks : again.LooksAgain base sectionId role (.repository reason)) (turns : List ι) :
    Stage base start i sectionId role reason again turns := by
  induction turns using List.reverseRecOn with
  | nil => exact .inl hStart
  | append_singleton turns j ih => exact ih.concat hLike hLooks j

/-- A client that was refused is about to look again. -/
theorem client_of_refused (hLike : base.IsLike start.repository)
    (hStart : (start.client i).IsUnrefused base sectionId role again)
    (hLooks : again.LooksAgain base sectionId role (.repository reason)) {turns : List ι}
    (h : start.Refused i sectionId role turns) : (start.after turns).client i = again := by
  obtain ⟨before, between, rfl, hNot, ⟨c, hCall, hFills⟩, hHeld⟩ := h
  have hTurn : ((start.after before).turn i).client i = again := by
    rw [turn_client_self]
    rcases stage start hLike hStart hLooks before with hUnrefused | ⟨hAgain, -⟩ | ⟨hLost, -⟩
    · cases hp : (start.after before).client i with
      | call c' next =>
        rw [hp] at hCall hUnrefused
        obtain rfl := Option.some.inj hCall
        rcases hUnrefused.2 _ (after_isLike hLike before) with ⟨-, -, hNext, -⟩ | ⟨hNever, -⟩
        · exact hNext
        · exact absurd ⟨hFills, isHeld_iff.mp hHeld⟩ hNever
      | _ =>
        rw [hp] at hCall
        exact nomatch hCall
    · -- whoever looks again does not insert
      rw [hAgain, hLooks.call] at hCall
      obtain ⟨representativeId, hInsert⟩ := hFills
      exact nomatch (Option.some.inj hCall).trans hInsert
    · rw [hLost] at hCall
      exact nomatch hCall
  rw [after_append]
  change (((start.after before).turn i).after between).client i = again
  rw [client_after_of_not_mem _ hNot, hTurn]

/-- **When an assignment is lost.** A client that assigns fails with a failure of the repository
exactly when its slot was held at the insertion and is empty at the second look. -/
theorem lost_iff (start : Office ι Ledger α) (hLike : base.IsLike start.repository)
    (hStart : (start.client i).IsUnrefused base sectionId role again)
    (hLooks : again.LooksAgain base sectionId role (.repository reason)) (turns : List ι) :
    (start.after turns).client i = .fail (.repository reason) ↔
      start.LostOccupant i sectionId role turns := by
  constructor
  -- the stages tell what has failed from what has not
  · intro hFail
    rcases stage start hLike hStart hLooks turns with hUnrefused | ⟨hAgain, -⟩ | ⟨-, hOccupant⟩
    · rw [hFail] at hUnrefused
      exact absurd rfl (hUnrefused reason)
    · have hCall := hLooks.call
      rw [← hAgain, hFail] at hCall
      exact nomatch hCall
    · exact hOccupant
  · rintro ⟨middle, after, rfl, hRefused, hEmpty⟩
    have hNow := after_isLike hLike middle
    have hFail : ((start.after middle).turn i).client i = .fail (.repository reason) := by
      rw [turn_client_self, client_of_refused hLike hStart hLooks hRefused]
      refine hLooks.empty _ hNow ?_
      rw [isHeld_iff] at hEmpty
      simpa using hEmpty
    rw [after_append]
    exact client_after_of_fail _ hFail after

/-- A client that assigns deletes nothing. -/
theorem Stage.pendingCall?_ne_delete
    (hLooks : again.LooksAgain base sectionId role (.repository reason)) {turns : List ι}
    (h : Stage base start i sectionId role reason again turns) (id : Int) :
    ((start.after turns).client i).pendingCall? ≠ some (.delete id) := by
  rcases h with hUnrefused | ⟨hAgain, -⟩ | ⟨hLost, -⟩
  · cases hp : (start.after turns).client i with
    | call c next =>
      rw [hp] at hUnrefused
      exact fun hCall => hUnrefused.1 id (Option.some.inj hCall)
    | _ => exact nofun
  · rw [hAgain, hLooks.call]
    exact nofun
  · rw [hLost]
    exact nofun

/-! ## Emptied slots -/

/-- A call that deletes nothing leaves a held slot held. -/
theorem findSlot_isSome_answer {l : Ledger} (h : (l.findSlot sectionId role).isSome)
    {c : RepositoryCall} (hKeeps : ∀ id, c ≠ .delete id) :
    ((l.answer c).2.findSlot sectionId role).isSome := by
  cases c with
  | insert s representativeId r =>
    rcases l.insert_cases s representativeId r with ⟨-, hInsert⟩ | ⟨a, -, hInsert⟩
    · rw [Ledger.answer, hInsert, Ledger.findSlot, Ledger.add, List.find?_append]
      rw [Ledger.findSlot] at h
      rw [Option.isSome_or, h, Bool.true_or]
    · rw [Ledger.answer, hInsert]
      exact h
  | delete id => exact absurd rfl (hKeeps id)
  | _ => exact h

/-- A slot that was held and is empty after some turns was emptied at one of them, by a deletion. -/
theorem exists_delete_of_emptied {o : Office ι Ledger α} {turns : List ι}
    (hHeld : o.IsHeld sectionId role) (hEmpty : ¬(o.after turns).IsHeld sectionId role) :
    ∃ before j after id, turns = before ++ j :: after ∧
      ((o.after before).client j).pendingCall? = some (.delete id) := by
  induction turns using List.reverseRecOn with
  | nil => exact absurd hHeld hEmpty
  | append_singleton turns j ih =>
    by_cases hStill : (o.after turns).IsHeld sectionId role
    -- held until the last turn, so that turn is the deletion
    · refine ⟨turns, j, [], ?_⟩
      by_contra hNone
      refine hEmpty ?_
      rw [after_concat, isHeld_iff]
      have hSome := isHeld_iff.mp hStill
      change (((o.after turns).client j).move (o.after turns).repository).2.findSlot _ _ |>.isSome
      cases hp : (o.after turns).client j with
      | call c next =>
        refine findSlot_isSome_answer hSome fun id hDelete => hNone ⟨id, rfl, ?_⟩
        rw [hp]
        exact congrArg some hDelete
      | _ => exact hSome
    · obtain ⟨before, k, after, id, rfl, hCall⟩ := ih hStill
      exact ⟨before, k, after ++ [j], id, by simp, hCall⟩

end Lost

end Office

end PollRoster
