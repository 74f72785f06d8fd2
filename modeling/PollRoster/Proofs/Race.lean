import PollRoster.Proofs.Database.Reachable
import PollRoster.Proofs.LostOccupant
import PollRoster.Proofs.Progress

/-!
# Races for slots

Any number of clients assign at once, and nobody takes anything away. Between the look at a slot and
the insertion any number of them may pass, but the insertions themselves come one after another, and
whoever is refused looks again and finds the winner still there.

Main results:

* `one_winner_per_slot` — all clients of a slot agree on who holds it in the end, over a ledger and
  over a database.
* `bidding_isFinished` — the end comes once each client has had six turns.
-/

namespace PollRoster

/-! ## Bids -/

/-- What a client asks for: a slot for a representative. -/
structure Bid where
  sectionId : Int
  representativeId : Int
  role : Role
  deriving DecidableEq, Repr

namespace Bid

def slot (b : Bid) : Int × Role := (b.sectionId, b.role)

def program (b : Bid) : Program AssignOutcome :=
  Assigning.assign b.sectionId b.representativeId b.role

/-- Whether the identifiers are positive, and section and representative exist. -/
def IsValid [Repository ρ] (r : ρ) (b : Bid) : Prop :=
  Assigning.IsValid r b.sectionId b.representativeId

/-- What the client is told when somebody else was first: the holder is fine if it is the same
representative, and occupies the slot otherwise. -/
def told (b : Bid) (holder : Assignment) : Except OperationError AssignOutcome :=
  if holder.representativeId = b.representativeId then .ok (.unchanged holder)
  else .error (.slotOccupied b.sectionId b.role holder.representativeId)

end Bid

/-- The assignments that hold a slot. -/
def holders (slot : Int × Role) (assignments : List Assignment) : List Assignment :=
  assignments.filter (·.slot = slot)

namespace Office

variable {ι : Type}

/-- Clients that bid at a repository. -/
def bidding (bid : ι → Bid) (r : ρ) : Office ι ρ AssignOutcome := ⟨r, fun i => (bid i).program⟩

/-- How the race for a slot ends, when `answer` is what each client was answered: there is one
holder `a` in the end. If the slot was empty before, one client was answered that it created `a` and
all others of that slot were told of `a`; if not, `a` held it before and all were told. -/
def Decided (bid : ι → Bid) (before after : List Assignment)
    (answer : ι → Option (Except OperationError AssignOutcome)) (slot : Int × Role) : Prop :=
  ∃ a, holders slot after = [a] ∧
    ((holders slot before = [] ∧ ∃ winner, (bid winner).slot = slot ∧
        answer winner = some (.ok (.created a)) ∧
        ∀ i, i ≠ winner → (bid i).slot = slot → answer i = some ((bid i).told a)) ∨
      (holders slot before = [a] ∧
        ∀ i, (bid i).slot = slot → answer i = some ((bid i).told a)))

/-- How all races end. -/
def AllDecided [DecidableEq ι] [Repository ρ] (bid : ι → Bid)
    (start : Office ι ρ AssignOutcome) (turns : List ι) : Prop :=
  ∃ before after, (Repository.answer .assignments start.repository).1 = .ok before ∧
    (Repository.answer .assignments (start.after turns).repository).1 = .ok after ∧
    (∀ i, Decided bid before after (start.after turns).answer? (bid i).slot) ∧
    ∀ i reason, (start.after turns).answer? i ≠ some (.error (.repository reason))

end Office

/-! ## Slots of a ledger -/

namespace Ledger

theorem holders_eq_nil_iff {l : Ledger} {sectionId : Int} {role : Role} :
    holders (sectionId, role) l.assignments = [] ↔ l.findSlot sectionId role = none := by
  rw [findSlot_eq_none_iff, holders, List.filter_eq_nil_iff]
  simp only [decide_eq_true_eq]

/-- The occupant of a slot of an orderly ledger is the only one that holds it. -/
theorem Orderly.holders_eq {l : Ledger} (h : l.Orderly) {sectionId : Int} {role : Role}
    {a : Assignment} (hHeld : l.findSlot sectionId role = some a) :
    holders (sectionId, role) l.assignments = [a] := by
  obtain ⟨hMem, hSlot⟩ := (findSlot_eq_some_iff h).mp hHeld
  have hNodup : l.assignments.Nodup := List.Nodup.of_map _ h.slots
  have hFilter : holders (sectionId, role) l.assignments = l.assignments.filter (· = a) := by
    refine List.filter_congr fun b hb => decide_eq_decide.mpr ⟨fun hb' => ?_, fun hEq => ?_⟩
    · exact List.inj_on_of_nodup_map h.slots hb hMem (hb'.trans hSlot.symm)
    · rw [hEq, hSlot]
  rw [hFilter, List.filter_eq, List.count_eq_one_of_mem hNodup hMem]
  rfl

end Ledger

namespace Office

/-! ## One client after another -/

section InTurn

variable {ι : Type} {bid : ι → Bid} {base : Ledger}

/-- Whether all answers to clients of a slot but that of `except` tell of `a`. -/
def AllTold (bid : ι → Bid) (answers : List (ι × Except OperationError AssignOutcome))
    (slot : Int × Role) (except : Option ι) (a : Assignment) : Prop :=
  ∀ i x, (i, x) ∈ answers → (bid i).slot = slot → some i ≠ except → x = (bid i).told a

/-- How the race for a slot stands when the ledger was `base` at the beginning and is `l` now. -/
structure Standing (bid : ι → Bid) (base l : Ledger)
    (answers : List (ι × Except OperationError AssignOutcome)) (sectionId : Int) (role : Role) :
    Prop where
  /-- Whoever held the slot at the beginning still does. -/
  held : ∀ a, base.findSlot sectionId role = some a →
    l.findSlot sectionId role = some a ∧ AllTold bid answers (sectionId, role) none a
  /-- A slot that was empty at the beginning was asked for by nobody or has a winner. -/
  empty : base.findSlot sectionId role = none →
    (l.findSlot sectionId role = none ∧
      ∀ i x, (i, x) ∈ answers → (bid i).slot ≠ (sectionId, role)) ∨
    ∃ a winner, l.findSlot sectionId role = some a ∧ (winner, .ok (.created a)) ∈ answers ∧
      (bid winner).slot = (sectionId, role) ∧
      AllTold bid answers (sectionId, role) (some winner) a

theorem AllTold.concat {answers : List (ι × Except OperationError AssignOutcome)}
    {slot : Int × Role} {except : Option ι} {a : Assignment}
    (h : AllTold bid answers slot except a) {j : ι} {x : Except OperationError AssignOutcome}
    (hNew : (bid j).slot = slot → some j ≠ except → x = (bid j).told a) :
    AllTold bid (answers ++ [(j, x)]) slot except a := by
  intro i y hMem hSlot hExcept
  rcases List.mem_append.mp hMem with hMem | hMem
  · exact h i y hMem hSlot hExcept
  · obtain ⟨rfl, rfl⟩ := Prod.mk.inj (List.mem_singleton.mp hMem)
    exact hNew hSlot hExcept

theorem told_eq {b : Bid} {a : Assignment} (h : a.slot = b.slot) :
    Assigning.heldOrOccupied a b.representativeId = b.told a := by
  obtain ⟨hSection, hRole⟩ := Prod.mk.inj h
  rw [Assigning.heldOrOccupied, Bid.told, hSection, hRole]

theorem Standing.start (base : Ledger) (sectionId : Int) (role : Role) :
    Standing bid base base [] sectionId role where
  held := fun _ h => ⟨h, fun _ _ hMem => (List.not_mem_nil hMem).elim⟩
  empty := fun h => .inl ⟨h, fun _ _ hMem => (List.not_mem_nil hMem).elim⟩

variable {l : Ledger} {answers : List (ι × Except OperationError AssignOutcome)} {sectionId : Int}
  {role : Role}

/-- The next client finds its slot held and is told of the holder. -/
theorem Standing.concat_held (h : Standing bid base l answers sectionId role) {j : ι}
    {b : Assignment} (hHeld : l.findSlot (bid j).sectionId (bid j).role = some b) :
    Standing bid base l (answers ++ [(j, (bid j).told b)]) sectionId role where
  held := by
    intro a ha
    obtain ⟨hStill, hTold⟩ := h.held a ha
    refine ⟨hStill, hTold.concat fun hSlot _ => ?_⟩
    obtain ⟨rfl, rfl⟩ := Prod.mk.inj hSlot
    rw [Option.some.inj (hHeld.symm.trans hStill)]
  empty := by
    intro hEmpty
    rcases h.empty hEmpty with ⟨hNone, hNobody⟩ | ⟨a, winner, hSome, hWon, hAsked, hTold⟩
    · refine .inl ⟨hNone, fun i x hMem hSlot => ?_⟩
      rcases List.mem_append.mp hMem with hMem | hMem
      · exact hNobody i x hMem hSlot
      · obtain ⟨rfl, -⟩ := Prod.mk.inj (List.mem_singleton.mp hMem)
        obtain ⟨rfl, rfl⟩ := Prod.mk.inj hSlot
        exact nomatch hHeld.symm.trans hNone
    · refine .inr ⟨a, winner, hSome, List.mem_append_left _ hWon, hAsked,
        hTold.concat fun hSlot _ => ?_⟩
      obtain ⟨rfl, rfl⟩ := Prod.mk.inj hSlot
      rw [Option.some.inj (hHeld.symm.trans hSome)]

/-- The next client finds its slot empty and wins it. -/
theorem Standing.concat_free (h : Standing bid base l answers sectionId role) {j : ι}
    {b : Assignment} (hFree : l.findSlot (bid j).sectionId (bid j).role = none)
    (hSlot : b.slot = (bid j).slot) :
    Standing bid base (l.add b) (answers ++ [(j, .ok (.created b))]) sectionId role where
  held := by
    intro a ha
    obtain ⟨hStill, hTold⟩ := h.held a ha
    -- the slot is held, so the client is one of another slot
    rw [Ledger.findSlot_add, hStill, Option.some_or]
    refine ⟨rfl, hTold.concat fun hSame _ => ?_⟩
    obtain ⟨rfl, rfl⟩ := Prod.mk.inj hSame
    exact nomatch hFree.symm.trans hStill
  empty := by
    intro hEmpty
    rw [Ledger.findSlot_add]
    rcases h.empty hEmpty with ⟨hNone, hNobody⟩ | ⟨a, winner, hSome, hWon, hAsked, hTold⟩
    · rw [hNone, Option.none_or]
      -- nobody has asked for the slot so far: the client is the winner or asks for another one
      by_cases hSame : (bid j).slot = (sectionId, role)
      · rw [if_pos (hSlot.trans hSame)]
        refine .inr ⟨b, j, rfl, List.mem_append_right _ (List.mem_singleton_self _), hSame, ?_⟩
        intro i x hMem hAsk hNot
        rcases List.mem_append.mp hMem with hMem | hMem
        · exact absurd hAsk (hNobody i x hMem)
        · obtain ⟨rfl, -⟩ := Prod.mk.inj (List.mem_singleton.mp hMem)
          exact absurd rfl hNot
      · rw [if_neg fun hEq => hSame (hSlot.symm.trans hEq)]
        refine .inl ⟨rfl, fun i x hMem => ?_⟩
        rcases List.mem_append.mp hMem with hMem | hMem
        · exact hNobody i x hMem
        · obtain ⟨rfl, -⟩ := Prod.mk.inj (List.mem_singleton.mp hMem)
          exact hSame
    · rw [hSome, Option.some_or]
      refine .inr ⟨a, winner, rfl, List.mem_append_left _ hWon, hAsked,
        hTold.concat fun hSame _ => ?_⟩
      obtain ⟨rfl, rfl⟩ := Prod.mk.inj hSame
      exact nomatch hFree.symm.trans hSome

/-- **Bids one after another.** Once some clients have come one after another, the race for every
slot stands as it should. -/
theorem standing_inTurn (hAskable : ∀ i,
      Assigning.Askable base (bid i).sectionId (bid i).representativeId)
    (order : List ι) (sectionId : Int) (role : Role) :
    Standing bid base (inTurn (fun i => (bid i).program) order base).2
      (inTurn (fun i => (bid i).program) order base).1 sectionId role := by
  induction order using List.reverseRecOn with
  | nil => exact .start base sectionId role
  | append_singleton order j ih =>
    rw [inTurn_concat]
    -- what the last client finds is what the others have left
    set l := (inTurn (fun i => (bid i).program) order base).2 with hl
    have hLike : base.IsLike l := inTurn_isLike _ order (.refl base)
    have hj := (hAskable j).of_isLike hLike
    cases hSlot : l.findSlot (bid j).sectionId (bid j).role with
    | some b =>
      have hEffect : (bid j).program.effect l = ((bid j).told b, l) := by
        rw [Bid.program, hj.effect_of_held hSlot, told_eq (Ledger.slot_of_findSlot hSlot)]
      rw [hEffect]
      exact ih.concat_held hSlot
    | none =>
      have hEffect : (bid j).program.effect l = _ := hj.effect_of_free hSlot
      rw [hEffect]
      exact ih.concat_free hSlot rfl

/-- A race that stands as it should is decided once all clients are answered. -/
theorem Standing.decided (h : Standing bid base l answers sectionId role)
    (hBase : base.Orderly) (hEnd : l.Orderly)
    {answer : ι → Option (Except OperationError AssignOutcome)}
    (hAnswer : ∀ i x, (i, x) ∈ answers → answer i = some x)
    (hAsked : ∀ i, ∃ x, (i, x) ∈ answers) {i : ι} (hi : (bid i).slot = (sectionId, role)) :
    Decided bid base.assignments l.assignments answer (bid i).slot := by
  rw [hi]
  cases hSlot : base.findSlot sectionId role with
  | some a =>
    obtain ⟨hStill, hTold⟩ := h.held a hSlot
    refine ⟨a, hEnd.holders_eq hStill, .inr ⟨hBase.holders_eq hSlot, fun j hj => ?_⟩⟩
    obtain ⟨x, hx⟩ := hAsked j
    rw [hAnswer j x hx, hTold j x hx hj nofun]
  | none =>
    rcases h.empty hSlot with ⟨-, hNobody⟩ | ⟨a, winner, hSome, hWon, hSlotOf, hTold⟩
    · obtain ⟨x, hx⟩ := hAsked i
      exact absurd hi (hNobody i x hx)
    · refine ⟨a, hEnd.holders_eq hSome, .inl ⟨Ledger.holders_eq_nil_iff.mpr hSlot, winner,
        hSlotOf, hAnswer winner _ hWon, fun j hNe hj => ?_⟩⟩
      obtain ⟨x, hx⟩ := hAsked j
      rw [hAnswer j x hx, hTold j x hx hj fun hEq => hNe (Option.some.inj hEq)]

/-- Neither the winner nor those who are told of it fail with a failure of the repository. -/
theorem Decided.no_failure {before after : List Assignment}
    {answer : ι → Option (Except OperationError AssignOutcome)} {i : ι}
    (h : Decided bid before after answer (bid i).slot) (reason : String) :
    answer i ≠ some (.error (.repository reason)) := by
  intro hFailure
  have hTold : ∀ a, (bid i).told a ≠ .error (.repository reason) := by
    intro a
    rw [Bid.told]
    split <;> exact nofun
  obtain ⟨a, -, ⟨-, winner, -, hWon, hOthers⟩ | ⟨-, hOthers⟩⟩ := h
  · by_cases hi : i = winner
    · rw [hi, hWon] at hFailure
      exact nomatch hFailure
    · exact hTold a (Option.some.inj ((hOthers i hi rfl).symm.trans hFailure))
  · exact hTold a (Option.some.inj ((hOthers i rfl).symm.trans hFailure))

end InTurn

/-! ## Clients by turns -/

section Turns

variable {ι : Type} [DecidableEq ι] {bid : ι → Bid} {base : Ledger}
  (hAskable : ∀ i, Assigning.Askable base (bid i).sectionId (bid i).representativeId)
include hAskable

/-- Nobody takes a holder away, so nobody is lost. -/
theorem bidding_keeps_occupants (turns : List ι) (i : ι) :
    ¬(bidding bid base).LostOccupant i (bid i).sectionId (bid i).role turns := by
  rintro ⟨middle, after, rfl, ⟨before, between, rfl, -, -, hHeld⟩, hEmpty⟩
  rw [after_append] at hEmpty
  -- only a deletion empties a slot, and the client about to delete is one that bids
  obtain ⟨first, j, rest, id, -, hDelete⟩ := exists_delete_of_emptied hHeld hEmpty
  rw [← after_append] at hDelete
  have hStage := stage (bidding bid base) (.refl base)
    (Assigning.assign_unrefused (hAskable j) (bid j).role)
    (Assigning.reportHolder_looksAgain (bid j).role) (before ++ first)
  exact hStage.pendingCall?_ne_delete (Assigning.reportHolder_looksAgain (bid j).role) id hDelete

/-- All clients that bid take effect, in some order. -/
theorem exists_order_of_bidding {turns : List ι}
    (hFinished : ((bidding bid base).after turns).IsFinished) :
    ∃ order, (∀ i, i ∈ order) ∧
      Ordered base.IsLike (fun i e => e =
          .repository (Assigning.vanishedOccupant (bid i).sectionId (bid i).role))
        (bidding bid base) turns order := by
  obtain ⟨order, hOrder⟩ := exists_order (K := base.IsLike) (bidding bid base)
    (fun c _ h => Ledger.IsLike.answer h c) (.refl base)
    (fun i => Assigning.assign_pending (hAskable i) (bid i).role) turns
  refine ⟨order, fun i => ?_, hOrder⟩
  -- who has finished without having taken effect is lost, and lost is nobody
  by_contra hOut
  obtain ⟨e, rfl, hFail⟩ := hOrder.lost_of_not_mem hFinished hOut
  have hLost := (lost_iff (bidding bid base) (.refl base)
    (Assigning.assign_unrefused (hAskable i) (bid i).role)
    (Assigning.reportHolder_looksAgain (bid i).role) turns).mp hFail
  exact bidding_keeps_occupants hAskable turns i hLost

end Turns

/-! ## The result -/

/-- Six turns are enough for a bid, whoever else takes turns in between. -/
theorem bidding_isFinished {ι ρ : Type} [DecidableEq ι] [Repository ρ] (bid : ι → Bid) (r : ρ)
    {turns : List ι} (hTurns : ∀ i, 6 ≤ turns.count i) :
    ((bidding bid r).after turns).IsFinished :=
  isFinished_of_count (fun i => Assigning.assign_endsWithin (bid i).sectionId _ (bid i).role) hTurns

section Result

variable {ι : Type} [DecidableEq ι] {ρ : Type} [Repository ρ] {store : Ledger → ρ} {base : Ledger}

theorem bidding_allDecided (hStores : Stores store base) (hOrderly : base.Orderly)
    {bid : ι → Bid} (hValid : ∀ i, (bid i).IsValid (store base)) {turns : List ι}
    (hFinished : ((bidding bid (store base)).after turns).IsFinished) :
    AllDecided bid (bidding bid (store base)) turns := by
  have hAskable := fun i => Assigning.IsValid.askable hStores (hValid i)
  -- all is shown over the ledger, and what is stored follows it turn by turn
  have hAfter : (bidding bid (store base)).after turns =
      ((bidding bid base).after turns).stored store :=
    after_store (o := bidding bid base) hStores (.refl base)
      (fun i => Assigning.assign_careful _ _ _) turns
  rw [hAfter] at hFinished
  obtain ⟨order, hAll, hOrder⟩ := exists_order_of_bidding hAskable hFinished
  set l := ((bidding bid base).after turns).repository with hl
  have hLike : base.IsLike l := after_isLike (.refl base) turns
  have hEnd : (inTurn (fun i => (bid i).program) order base).2 = l := hOrder.repository
  have hOrderlyEnd : l.Orderly := by
    rw [← hEnd]
    exact inTurn_keeps (P := Ledger.Orderly) (fun c _ h => h.answer c) _ order hOrderly
  have hDecided : ∀ i, Decided bid base.assignments l.assignments
      ((bidding bid base).after turns).answer? (bid i).slot := by
    intro i
    have hStanding := standing_inTurn hAskable order (bid i).sectionId (bid i).role
    rw [hEnd] at hStanding
    refine hStanding.decided hOrderly hOrderlyEnd ?_ ?_ rfl
    · exact fun j x hx => hOrder.answer?_eq hFinished hx
    · exact fun j => exists_mem_inTurn _ (hAll j) base
  rw [AllDecided, hAfter]
  refine ⟨base.assignments, l.assignments, ?_, ?_, hDecided,
    fun i reason => (hDecided i).no_failure reason⟩
  · exact congrArg Prod.fst (hStores.answer (c := .assignments) (.refl base) trivial)
  · exact congrArg Prod.fst (hStores.answer (c := .assignments) hLike trivial)

/-- **One winner per slot.** Any number of clients bid for slots, in any order of turns. When all
have finished, every slot that was asked for has one holder; if it was empty, one client created
the holder; and all other clients of the slot were told of the holder. None fails with a failure of
the repository. -/
theorem one_winner_per_slot (bid : ι → Bid) (turns : List ι) :
    (∀ l : Ledger, l.Reachable → (∀ i, (bid i).IsValid l) →
      ((bidding bid l).after turns).IsFinished → AllDecided bid (bidding bid l) turns) ∧
    ∀ db : Database, db.Reachable → (∀ i, (bid i).IsValid db) →
      ((bidding bid db).after turns).IsFinished → AllDecided bid (bidding bid db) turns := by
  refine ⟨fun l hl hValid hFinished => ?_, fun db hdb hValid hFinished => ?_⟩
  · exact bidding_allDecided (stores_self l) hl.orderly hValid hFinished
  · obtain ⟨base, hBase⟩ := hdb.healthy
    have hStores := Database.stores_withLedger hBase.keeps
    rw [← hBase.keeps.withLedger_self] at hValid hFinished ⊢
    exact bidding_allDecided hStores hBase.sound.orderly hValid hFinished

end Result

/-- Two representatives for the only slot of the hamlet. -/
def rivals : Bool → Bid
  | false => ⟨1, 1, .primary⟩
  | true => ⟨1, 2, .primary⟩

/-- The rivals go abreast, so both find the slot empty. -/
def abreast : List Bool := (List.replicate 6 [false, true]).flatten

theorem one_winner_of_rivals :
    AllDecided rivals (bidding rivals Ledger.hamlet) abreast ∧
      AllDecided rivals (bidding rivals Database.hamlet) abreast := by
  have hLedger : ∀ i, (rivals i).IsValid Ledger.hamlet := by
    intro i
    cases i <;> exact ⟨by decide, by decide, rfl, _, rfl⟩
  have hDatabase : ∀ i, (rivals i).IsValid Database.hamlet := by
    intro i
    cases i <;> exact ⟨by decide, by decide, rfl, _, rfl⟩
  obtain ⟨hOverLedger, hOverDatabase⟩ := one_winner_per_slot rivals abreast
  refine ⟨hOverLedger _ (.start _ _) hLedger ?_,
    hOverDatabase _ Database.reachable_hamlet hDatabase ?_⟩
  · intro i
    cases i <;> rfl
  · intro i
    cases i <;> rfl

end Office

end PollRoster
