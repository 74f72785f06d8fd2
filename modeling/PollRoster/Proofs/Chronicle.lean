import PollRoster.Proofs.Journal
import PollRoster.Proofs.Report

/-!
# The chronicle of the store

The operations of the store change a repository by calls and announce events to their listeners, who
see nothing else. A chronicle writes both down in the order in which they happen, so that one can
speak of every moment of every operation.

Between the call that stores a change and the event that tells it the events lag behind by this one
event. The program owes it then: `TellsChanges` says of a program that it announces what it owes
before it does anything else, and that it announces no change otherwise.

The repository is any that `Fronts` a ledger: each call is answered by the ledger or meets a fault
that leaves the ledger as it is. The ledger itself is one, and so is the ledger behind an unreliable
connection.

Main results:

* `assign_tells`, `remove_tells`, `bulkAssign_tells`, `execute_tells` — the programs of this library
  tell their changes, whatever they are answered and whenever they are cancelled.
* `events_log_changes` — over every sequence of operations the events are a log of the assignments.
-/

namespace PollRoster

/-! ## Replaying events -/

namespace Event

/-- The event itself if it announces a change to the assignments. -/
def change? : Event → Option Event
  | .invalidated _ => none
  | e => some e

/-- What a listener makes of an event who keeps assignments by their identifiers. -/
def apply : Event → List Assignment → List Assignment
  | .assigned a, known => known.filter (·.id ≠ a.id) ++ [a]
  | .removed a, known => known.filter (·.id ≠ a.id)
  | .invalidated _, known => known

end Event

/-- What a listener has who knew some assignments and was told of events. -/
def replay (events : List Event) (known : List Assignment) : List Assignment :=
  events.foldl (fun known e => e.apply known) known

theorem Event.replay_change? (e : Event) (known : List Assignment) :
    replay e.change?.toList known = e.apply known := by
  cases e <;> rfl

theorem Event.eq_of_change? {e change : Event} (h : e.change? = some change) : e = change := by
  cases e with
  | invalidated scope => cases h
  | _ => exact Option.some.inj h

/-! ## Changes -/

/-- The change that an answer tells of, as it is announced. -/
def RepositoryCall.change? : (c : RepositoryCall) → Except OperationError c.Answer → Option Event
  | .insert _ _ _, .ok a => some (.assigned a)
  | .delete _, .ok a => some (.removed a)
  | _, _ => none

/-- The difference between the assignments stored before and after, as it is announced. It is read
off the assignments alone, whatever was asked for and answered. -/
def changes (before after : List Assignment) : List Event :=
  (before.filter (· ∉ after)).map .removed ++ (after.filter (· ∉ before)).map .assigned

theorem changes_self (as : List Assignment) : changes as as = [] := by
  simp [changes]

namespace Ledger

variable {l : Ledger}

/-- An assignment under a new identifier is a change by itself. -/
theorem Orderly.changes_add (h : l.Orderly) {a : Assignment} (hNew : a.id = l.nextId) :
    changes l.assignments (l.add a).assignments = [.assigned a] ∧
      (l.add a).assignments = Event.apply (.assigned a) l.assignments := by
  -- the next identifier lies above all others, so nothing is replaced
  have hOther : ∀ b ∈ l.assignments, b.id ≠ a.id := by
    intro b hb
    rw [hNew]
    exact Int.ne_of_lt (h.fresh b hb)
  have hNot : a ∉ l.assignments := fun ha => hOther a ha rfl
  have hKept : l.assignments.filter (· ∉ l.assignments ++ [a]) = [] := by
    simp +contextual
  have hAdded : (l.assignments ++ [a]).filter (· ∉ l.assignments) = [a] := by
    simp [List.filter_append, hNot]
  have hAll : l.assignments.filter (·.id ≠ a.id) = l.assignments :=
    List.filter_eq_self.mpr fun b hb => decide_eq_true (hOther b hb)
  refine ⟨?_, ?_⟩
  · rw [Ledger.add, changes, hKept, hAdded]
    rfl
  · rw [Ledger.add, Event.apply, hAll]

/-- To take an assignment away is a change by itself. -/
theorem Orderly.changes_without (h : l.Orderly) {a : Assignment} (ha : a ∈ l.assignments) :
    changes l.assignments (l.without a.id).assignments = [.removed a] ∧
      (l.without a.id).assignments = Event.apply (.removed a) l.assignments := by
  have hSame : ∀ b ∈ l.assignments, b.id = a.id ↔ b = a := fun b hb =>
    ⟨fun hId => h.eq_of_id ha hb hId, congrArg _⟩
  -- all that goes is `a`, which is stored once
  have hGone : l.assignments.filter (· ∉ l.assignments.filter (·.id ≠ a.id)) = [a] := by
    have hOnly : l.assignments.filter (· ∉ l.assignments.filter (·.id ≠ a.id)) =
        l.assignments.filter (· = a) :=
      List.filter_congr fun b hb => by simp [hb, hSame b hb]
    rw [hOnly, List.filter_eq, List.count_eq_one_of_mem (.of_map _ h.slots) ha]
    rfl
  have hNone : (l.assignments.filter (·.id ≠ a.id)).filter (· ∉ l.assignments) = [] := by
    simp +contextual
  refine ⟨?_, rfl⟩
  rw [Ledger.without, changes, hGone, hNone]
  rfl

/-- What a call changes is what its answer tells. -/
theorem Orderly.changes_answer (h : l.Orderly) (c : RepositoryCall) :
    changes l.assignments (l.answer c).2.assignments = (c.change? (l.answer c).1).toList ∧
      (l.answer c).2.assignments = replay (c.change? (l.answer c).1).toList l.assignments := by
  cases c with
  | insert sectionId representativeId role =>
    rcases l.insert_cases sectionId representativeId role with ⟨-, hIns⟩ | ⟨a, -, hIns⟩
    · rw [Ledger.answer, hIns]
      exact h.changes_add rfl
    · rw [Ledger.answer, hIns]
      exact ⟨changes_self _, rfl⟩
  | delete id =>
    rcases l.delete_cases id with ⟨-, hDel⟩ | ⟨a, hFound, hDel⟩
    · rw [Ledger.answer, hDel]
      exact ⟨changes_self _, rfl⟩
    · obtain ⟨ha, rfl⟩ := (assignment?_eq_some_iff h).mp hFound
      rw [Ledger.answer, hDel]
      exact h.changes_without ha
  | _ => exact ⟨changes_self _, rfl⟩

end Ledger

/-! ## Programs that tell their changes -/

namespace Program

/-- Whether a program announces each change that a call has made before it does anything else, and
announces no other. `owed` is the change that it has still to announce. -/
def TellsChanges : Option Event → Program α → Prop
  | owed, .done _ => owed = none
  | owed, .fail _ => owed = none
  | owed, .call c next => owed = none ∧ ∀ answer, (next answer).TellsChanges (c.change? answer)
  | owed, .announce e next => e.change? = owed ∧ next.TellsChanges none
  | owed, .poll next => owed = none ∧ ∀ cancelled, (next cancelled).TellsChanges none

variable {owed : Option Event}

theorem TellsChanges.bind {p : Program α} {f : α → Program β} (hFirst : p.TellsChanges owed)
    (hThen : ∀ a, (f a).TellsChanges none) : (p >>= f).TellsChanges owed := by
  change (p.bind f).TellsChanges owed
  -- what is owed varies along the program; where it ends, nothing is
  induction p generalizing owed with
  | done a =>
    rw [show owed = none from hFirst]
    exact hThen a
  | fail e => exact hFirst
  | call c next ih => exact ⟨hFirst.1, fun answer => ih answer (hFirst.2 answer)⟩
  | announce e next ih => exact ⟨hFirst.1, ih hFirst.2⟩
  | poll next ih => exact ⟨hFirst.1, fun cancelled => ih cancelled (hFirst.2 cancelled)⟩

theorem TellsChanges.attempt {p : Program α} (h : p.TellsChanges owed) :
    p.attempt.TellsChanges owed := by
  induction p generalizing owed with
  | done a => exact h
  | fail e => exact h
  | call c next ih => exact ⟨h.1, fun answer => ih answer (h.2 answer)⟩
  | announce e next ih => exact ⟨h.1, ih h.2⟩
  | poll next ih => exact ⟨h.1, fun cancelled => ih cancelled (h.2 cancelled)⟩

theorem pure_tells (a : α) : (pure a : Program α).TellsChanges none := rfl

theorem ofExcept_tells (x : Except OperationError α) : (ofExcept x).TellsChanges none := by
  cases x <;> rfl

theorem isCancelled_tells : isCancelled.TellsChanges none := ⟨rfl, fun _ => rfl⟩

/-- A call that makes no change leaves nothing to announce. -/
theorem ask_tells {c : RepositoryCall} (hQuiet : ∀ answer, c.change? answer = none) :
    (ask c).TellsChanges none := by
  refine ⟨rfl, fun answer => ?_⟩
  rw [hQuiet]
  exact ofExcept_tells answer

end Program

namespace Assigning

open Program

theorem requireRepresentative_tells (id : Int) : (requireRepresentative id).TellsChanges none := by
  refine (ask_tells (c := .representative id) fun _ => rfl).bind fun found => ?_
  cases found <;> rfl

theorem reportHolder_tells (sectionId representativeId : Int) (role : Role) :
    (reportHolder sectionId representativeId role).TellsChanges none := by
  refine (ask_tells (c := .findSlot sectionId role) fun _ => rfl).bind fun occupant => ?_
  cases occupant with
  | some existing => exact ofExcept_tells _
  | none => rfl

/-- What was inserted is announced at once; a refused insertion leaves nothing to announce. -/
theorem insertInto_tells (sectionId representativeId : Int) (role : Role) :
    (insertInto sectionId representativeId role).TellsChanges none := by
  refine ⟨rfl, fun answer => ?_⟩
  cases answer with
  | ok a => exact ⟨rfl, rfl⟩
  | error e =>
    cases e with
    | slotOccupied => exact reportHolder_tells sectionId representativeId role
    | _ => rfl

theorem fillSlot_tells (sectionId representativeId : Int) (role : Role) :
    (fillSlot sectionId representativeId role).TellsChanges none := by
  refine (ofExcept_tells _).bind fun _ => ?_
  refine (ask_tells (c := .sectionExists sectionId) fun _ => rfl).bind fun known => ?_
  cases known with
  | false => rfl
  | true =>
    refine (ask_tells (c := .findSlot sectionId role) fun _ => rfl).bind fun occupant => ?_
    cases occupant with
    | some existing => exact ofExcept_tells _
    | none => exact insertInto_tells sectionId representativeId role

theorem assign_tells (sectionId representativeId : Int) (role : Role) :
    (assign sectionId representativeId role).TellsChanges none := by
  refine isCancelled_tells.bind fun cancelled => ?_
  cases cancelled with
  | true => rfl
  | false =>
    refine (ofExcept_tells _).bind fun _ => ?_
    refine (requireRepresentative_tells representativeId).bind fun _ => ?_
    exact fillSlot_tells sectionId representativeId role

theorem remove_tells (assignmentId : Int) : (remove assignmentId).TellsChanges none := by
  refine isCancelled_tells.bind fun cancelled => ?_
  cases cancelled with
  | true => rfl
  | false =>
    refine (ofExcept_tells _).bind fun _ => ⟨rfl, fun answer => ?_⟩
    -- the deletion makes a change exactly if it answers what it took away
    cases answer with
    | ok removed => exact ⟨rfl, rfl⟩
    | error e => rfl

theorem fillNext_tells (representativeId : Int) (role : Role) (sectionId : Int) :
    (fillNext representativeId role sectionId).TellsChanges none := by
  refine isCancelled_tells.bind fun cancelled => ?_
  cases cancelled with
  | true => rfl
  | false =>
    -- an outcome that ends the batch does so after what it changed was told
    exact (fillSlot_tells sectionId representativeId role).attempt.bind fun _ => ofExcept_tells _

theorem fillSlots_tells (representativeId : Int) (role : Role) (sectionIds : List Int) :
    (fillSlots representativeId role sectionIds).TellsChanges none := by
  induction sectionIds with
  | nil => rfl
  | cons sectionId rest ih =>
    refine (fillNext_tells representativeId role sectionId).bind fun _ => ?_
    exact ih.bind fun _ => pure_tells _

theorem bulkAssign_tells (representativeId : Int) (sectionIds : List Int) (role : Role) :
    (bulkAssign representativeId sectionIds role).TellsChanges none := by
  rw [bulkAssign]
  split
  · rfl
  · refine (ofExcept_tells _).bind fun _ => ?_
    refine (ofExcept_tells _).bind fun _ => ?_
    refine (requireRepresentative_tells representativeId).bind fun _ => ?_
    exact (fillSlots_tells representativeId role _).bind fun _ => pure_tells _

end Assigning

theorem Command.execute_tells (command : Command) : command.execute.TellsChanges none := by
  cases command with
  | assign sectionId representativeId role =>
    exact (Assigning.assign_tells sectionId representativeId role).bind fun _ => rfl
  | remove assignmentId => exact (Assigning.remove_tells assignmentId).bind fun _ => rfl
  | bulkAssign representativeId sectionIds role =>
    exact (Assigning.bulkAssign_tells representativeId sectionIds role).bind fun _ => rfl
  | invalidateCache scope => exact ⟨rfl, rfl⟩

/-! ## What happens -/

/-- Something that happens while the store is at work. -/
inductive Happening (ρ : Type) where
  /-- A call was answered by a repository, which became this one. -/
  | called (left : ρ)
  /-- The listeners were told of an event. -/
  | told (e : Event)
  /-- An operation has returned, with an answer or a failure. -/
  | returned

namespace Happening

/-- What the listeners were told of. -/
def told? : Happening ρ → Option Event
  | .told e => some e
  | .called _ | .returned => none

/-- What a repository has become. -/
def after (r : ρ) : Happening ρ → ρ
  | .called left => left
  | .told _ | .returned => r

/-- The events that were told, in order. -/
def events (happened : List (Happening ρ)) : List Event := happened.filterMap told?

/-- The repository when all this has happened. -/
def present (r : ρ) (happened : List (Happening ρ)) : ρ := happened.foldl after r

/-- What has changed in the stored assignments, call by call. -/
def stored (ledger : ρ → Ledger) (r : ρ) : List (Happening ρ) → List Event
  | [] => []
  | .called left :: rest =>
    changes (ledger r).assignments (ledger left).assignments ++ stored ledger left rest
  | _ :: rest => stored ledger r rest

/-- Whether events are a log of what has happened from `r` on: who knew the assignments at the start
has those stored at the end, and each stored change is among the events once, in order. -/
structure IsLog (ledger : ρ → Ledger) (r : ρ) (happened : List (Happening ρ))
    (events : List Event) : Prop where
  replayed : replay events (ledger r).assignments = (ledger (present r happened)).assignments
  once : events.filterMap Event.change? = stored ledger r happened

/-! ## Changes that are told at once -/

/-- Whether each stored change is told right after the call that made it, and no other change is
told. `owed` is the change that has still to be told. -/
def AllTold (ledger : ρ → Ledger) : Option Event → ρ → List (Happening ρ) → Prop
  | owed, _, [] => owed = none
  | owed, r, .called left :: rest =>
    owed = none ∧ ∃ change : Option Event,
      changes (ledger r).assignments (ledger left).assignments = change.toList ∧
      (ledger left).assignments = replay change.toList (ledger r).assignments ∧
      AllTold ledger change left rest
  | owed, r, .told e :: rest => e.change? = owed ∧ AllTold ledger none r rest
  | owed, r, .returned :: rest => owed = none ∧ AllTold ledger none r rest

section AllTold

variable {ledger : ρ → Ledger} {owed : Option Event} {r : ρ}

theorem AllTold.append {xs ys : List (Happening ρ)} (hFirst : AllTold ledger owed r xs)
    (hThen : AllTold ledger none (present r xs) ys) : AllTold ledger owed r (xs ++ ys) := by
  induction xs generalizing owed r with
  | nil =>
    rw [show owed = none from hFirst]
    exact hThen
  | cons x xs ih =>
    cases x with
    | called left =>
      obtain ⟨hNone, change, hChanges, hReplay, hRest⟩ := hFirst
      exact ⟨hNone, change, hChanges, hReplay, ih hRest hThen⟩
    | told e => exact ⟨hFirst.1, ih hFirst.2 hThen⟩
    | returned => exact ⟨hFirst.1, ih hFirst.2 hThen⟩

/-- At every moment what was told and what is owed are together a log. -/
theorem AllTold.split {before after : List (Happening ρ)}
    (h : AllTold ledger owed r (before ++ after)) {known : List Assignment}
    (hKnown : (ledger r).assignments = replay owed.toList known) :
    ∃ owed', AllTold ledger owed' (present r before) after ∧
      (ledger (present r before)).assignments = replay (events before ++ owed'.toList) known ∧
      owed.toList ++ stored ledger r before =
        (events before).filterMap Event.change? ++ owed'.toList := by
  -- what a listener knows lags behind by what is owed, so both vary along the chronicle
  induction before generalizing owed r known with
  | nil => exact ⟨owed, h, hKnown, List.append_nil _⟩
  | cons x before ih =>
    cases x with
    | called left =>
      obtain ⟨rfl, change, hChanges, hReplay, hRest⟩ := h
      rw [hKnown] at hReplay
      obtain ⟨owed', hAfter, hNow, hOnce⟩ := ih hRest hReplay
      refine ⟨owed', hAfter, hNow, ?_⟩
      rw [stored, hChanges]
      exact hOnce
    | told e =>
      obtain ⟨rfl, hRest⟩ := h
      rw [Event.replay_change?] at hKnown
      obtain ⟨owed', hAfter, hNow, hOnce⟩ := ih hRest hKnown
      refine ⟨owed', hAfter, hNow, ?_⟩
      change e.change?.toList ++ stored ledger r before = _
      rw [show stored ledger r before = _ from hOnce]
      cases e <;> rfl
    | returned =>
      obtain ⟨rfl, hRest⟩ := h
      exact ih hRest hKnown

/-- Nothing is owed, or what is owed is told next. -/
theorem AllTold.next {after : List (Happening ρ)} {change : Event}
    (h : AllTold ledger (some change) r after) : ∃ rest, after = .told change :: rest := by
  cases after with
  | nil => cases h
  | cons x rest =>
    cases x with
    | told e =>
      obtain rfl := Event.eq_of_change? h.1
      exact ⟨rest, rfl⟩
    | _ => cases h.1

/-- **Moments of a chronicle.** If all changes are told, then at every moment the events are a log,
or they will be with the event that is told next. -/
theorem AllTold.isLog {before after : List (Happening ρ)}
    (h : AllTold ledger none r (before ++ after)) :
    IsLog ledger r before (events before) ∨
      ∃ e rest, after = .told e :: rest ∧ IsLog ledger r before (events before ++ [e]) := by
  have hStart : (ledger r).assignments = replay [] (ledger r).assignments := rfl
  obtain ⟨owed, hAfter, hNow, hOnce⟩ := h.split hStart
  cases owed with
  | none =>
    rw [Option.toList_none, List.append_nil] at hNow hOnce
    exact .inl ⟨hNow.symm, hOnce.symm⟩
  | some change =>
    obtain ⟨rest, rfl⟩ := hAfter.next
    refine .inr ⟨change, rest, rfl, hNow.symm, ?_⟩
    rw [List.filterMap_append, List.filterMap_cons, hAfter.1]
    exact hOnce.symm

end AllTold

end Happening

/-! ## What happens while a program runs -/

/-- Whether a repository answers for a ledger. A call is answered by the ledger or meets a fault;
then the ledger stays as it is, and the answer tells of no change. -/
def Fronts [Repository ρ] (ledger : ρ → Ledger) : Prop :=
  ∀ (c : RepositoryCall) (r : ρ),
    ((Repository.answer c r).1 = ((ledger r).answer c).1 ∧
      ledger (Repository.answer c r).2 = ((ledger r).answer c).2) ∨
    (ledger (Repository.answer c r).2 = ledger r ∧ c.change? (Repository.answer c r).1 = none)

theorem Ledger.fronts : Fronts fun l : Ledger => l := fun _ _ => .inl ⟨rfl, rfl⟩

/-- Missed look-ups and failed insertions tell of no change. -/
theorem UnreliableLedger.fronts : Fronts UnreliableLedger.ledger := by
  intro c u
  cases c with
  | findSlot sectionId role =>
    rcases u.answer_cases (.findSlot sectionId role) with ⟨hKept, -⟩ | hAnswered
    · exact .inr ⟨hKept, rfl⟩
    · exact .inl hAnswered
  | insert sectionId representativeId role =>
    rcases u.answer_cases (.insert sectionId representativeId role) with ⟨hKept, hNone⟩ | hAnswered
    -- an insertion that fails answers no assignment
    · refine .inr ⟨hKept, ?_⟩
      change RepositoryCall.change? _ (u.answer _).1 = none
      cases hAnswer : (u.answer (.insert sectionId representativeId role)).1 with
      | ok a =>
        rw [hAnswer] at hNone
        cases hNone
      | error e => rfl
    · exact .inl hAnswered
  | _ => exact .inl ⟨rfl, rfl⟩

/-- A call of a repository that fronts an orderly ledger changes what its answer tells. -/
theorem Fronts.changes_answer [Repository ρ] {ledger : ρ → Ledger} (hFronts : Fronts ledger) {r : ρ}
    (hOrderly : (ledger r).Orderly) (c : RepositoryCall) :
    (ledger (Repository.answer c r).2).Orderly ∧
    changes (ledger r).assignments (ledger (Repository.answer c r).2).assignments =
      (c.change? (Repository.answer c r).1).toList ∧
    (ledger (Repository.answer c r).2).assignments =
      replay (c.change? (Repository.answer c r).1).toList (ledger r).assignments := by
  rcases hFronts c r with ⟨hAnswer, hLeft⟩ | ⟨hKept, hNone⟩
  · rw [hAnswer, hLeft]
    exact ⟨hOrderly.answer c, hOrderly.changes_answer c⟩
  · rw [hKept, hNone]
    exact ⟨hOrderly, changes_self _, rfl⟩

namespace Program

/-- What happens while a program runs, in order. -/
def history [Repository ρ] (stop : Cancellation) (now : Moment) : Program α → ρ → List (Happening ρ)
  | .done _, _ => []
  | .fail _, _ => []
  | .call c next, r =>
    .called (Repository.answer c r).2 ::
      (next (Repository.answer c r).1).history stop now (Repository.answer c r).2
  | .announce e next, r => .told e :: next.history stop (now.announced e) r
  | .poll next, r => (next (stop.isRaised now)).history stop now.looked r

section History

variable [Repository ρ] {stop : Cancellation} {now : Moment} {r : ρ}

/-- The history of a run has its events and ends with its repository. -/
theorem history_run (p : Program α) (stop : Cancellation) (now : Moment) (r : ρ) :
    Happening.events (p.history stop now r) = (p.run stop now r).events ∧
      Happening.present r (p.history stop now r) = (p.run stop now r).repository := by
  induction p generalizing now r with
  | done a => exact ⟨rfl, rfl⟩
  | fail e => exact ⟨rfl, rfl⟩
  | call c next ih => exact ih _ now _
  | announce e next ih =>
    obtain ⟨hEvents, hPresent⟩ := ih (now.announced e) r
    exact ⟨congrArg (e :: ·) hEvents, hPresent⟩
  | poll next ih => exact ih _ now.looked r

variable {ledger : ρ → Ledger}

theorem orderly_run (hFronts : Fronts ledger) (p : Program α) (hOrderly : (ledger r).Orderly) :
    (ledger (p.run stop now r).repository).Orderly :=
  p.run_keeps (P := fun r => (ledger r).Orderly)
    (fun c _ h => (hFronts.changes_answer h c).1) hOrderly

/-- In the history of a program that tells its changes, all changes are told. -/
theorem TellsChanges.allTold_history (hFronts : Fronts ledger) {p : Program α}
    {owed : Option Event} (h : p.TellsChanges owed) (hOrderly : (ledger r).Orderly) :
    Happening.AllTold ledger owed r (p.history stop now r) := by
  induction p generalizing owed now r with
  | done a => exact h
  | fail e => exact h
  | call c next ih =>
    -- the change that the answer tells of is owed from here on
    obtain ⟨hLeft, hChanges, hReplay⟩ := hFronts.changes_answer hOrderly c
    exact ⟨h.1, _, hChanges, hReplay, ih _ (h.2 _) hLeft⟩
  | announce e next ih => exact ⟨h.1, ih h.2 hOrderly⟩
  | poll next ih =>
    rw [show owed = none from h.1]
    exact ih _ (h.2 _) hOrderly

end History

end Program

/-! ## Operations of the store -/

/-- What is asked of the store. -/
inductive StoreOperation where
  | assign (sectionId representativeId : Int) (role : Role)
  | remove (assignmentId : Int)
  | bulkAssign (representativeId : Int) (sectionIds : List Int) (role : Role)
  | invalidateCache (scope : Scope)
  | execute (command : Command)

namespace StoreOperation

/-- The program of an operation, without its answer. -/
def program : StoreOperation → Program Unit
  | .assign sectionId representativeId role =>
    Assigning.assign sectionId representativeId role >>= fun _ => pure ()
  | .remove assignmentId => Assigning.remove assignmentId >>= fun _ => pure ()
  | .bulkAssign representativeId sectionIds role =>
    Assigning.bulkAssign representativeId sectionIds role >>= fun _ => pure ()
  | .invalidateCache scope => Program.tell (.invalidated scope)
  | .execute command => command.execute >>= fun _ => pure ()

/-- Carries out operations one after another, each with its own moment of cancellation: the events
and the repository that they leave. -/
def performAll [Repository ρ] : List (StoreOperation × Cancellation) → ρ → List Event × ρ
  | [], r => ([], r)
  | (operation, stop) :: rest, r =>
    let t := operation.program.run stop 0 r
    let (events, left) := performAll rest t.repository
    (t.events ++ events, left)

/-- All that happens while they are carried out. -/
def chronicle [Repository ρ] : List (StoreOperation × Cancellation) → ρ → List (Happening ρ)
  | [], _ => []
  | (operation, stop) :: rest, r =>
    operation.program.history stop 0 r ++
      .returned :: chronicle rest (operation.program.run stop 0 r).repository

theorem program_tells (operation : StoreOperation) : operation.program.TellsChanges none := by
  cases operation with
  | assign sectionId representativeId role =>
    exact (Assigning.assign_tells sectionId representativeId role).bind fun _ => rfl
  | remove assignmentId => exact (Assigning.remove_tells assignmentId).bind fun _ => rfl
  | bulkAssign representativeId sectionIds role =>
    exact (Assigning.bulkAssign_tells representativeId sectionIds role).bind fun _ => rfl
  | invalidateCache scope => exact ⟨rfl, rfl⟩
  | execute command => exact command.execute_tells.bind fun _ => rfl

section Chronicle

variable [Repository ρ]

theorem chronicle_performAll (operations : List (StoreOperation × Cancellation)) (r : ρ) :
    Happening.events (chronicle operations r) = (performAll operations r).1 ∧
      Happening.present r (chronicle operations r) = (performAll operations r).2 := by
  induction operations generalizing r with
  | nil => exact ⟨rfl, rfl⟩
  | cons first rest ih =>
    obtain ⟨operation, stop⟩ := first
    obtain ⟨hEvents, hPresent⟩ := operation.program.history_run stop 0 r
    obtain ⟨hRestEvents, hRestPresent⟩ := ih (operation.program.run stop 0 r).repository
    constructor
    · rw [Happening.events, chronicle, List.filterMap_append]
      exact congrArg₂ (· ++ ·) hEvents hRestEvents
    · rw [Happening.present, chronicle, List.foldl_append]
      change Happening.present (Happening.present r _) _ = _
      rw [hPresent]
      exact hRestPresent

variable {ledger : ρ → Ledger}

theorem allTold_chronicle (hFronts : Fronts ledger)
    (operations : List (StoreOperation × Cancellation)) {r : ρ} (hOrderly : (ledger r).Orderly) :
    Happening.AllTold ledger none r (chronicle operations r) := by
  induction operations generalizing r with
  | nil => rfl
  | cons first rest ih =>
    obtain ⟨operation, stop⟩ := first
    refine Happening.AllTold.append
      (operation.program_tells.allTold_history hFronts hOrderly) ⟨rfl, ?_⟩
    rw [(operation.program.history_run stop 0 r).2]
    exact ih (operation.program.orderly_run hFronts hOrderly)

/-- **The events are a log.** Over every sequence of operations, with any arguments, cancellations
and faults, the listeners who knew the assignments at the start know at every moment those that are
stored, and each stored change was told to them once; or a change was stored by the last call, and
the event that completes the log comes next, before the operation returns. -/
theorem events_log_changes (hFronts : Fronts ledger) {r : ρ} (hReachable : (ledger r).Reachable)
    (operations : List (StoreOperation × Cancellation)) :
    Happening.events (chronicle operations r) = (performAll operations r).1 ∧
    Happening.present r (chronicle operations r) = (performAll operations r).2 ∧
    ∀ before after, chronicle operations r = before ++ after →
      Happening.IsLog ledger r before (Happening.events before) ∨
      ∃ e rest, after = .told e :: rest ∧
        Happening.IsLog ledger r before (Happening.events before ++ [e]) := by
  obtain ⟨hEvents, hPresent⟩ := chronicle_performAll operations r
  -- nothing is owed at the start, whatever has been done to the repository before
  refine ⟨hEvents, hPresent, fun before after hSplit => ?_⟩
  have hTold := allTold_chronicle hFronts operations hReachable.orderly
  rw [hSplit] at hTold
  exact hTold.isLog

end Chronicle

/-! ## A batch that fails on its way -/

/-- The village behind a connection that misses who holds the second section and then fails to write
to the third. -/
def faultyVillage : UnreliableLedger where
  ledger := .village
  misses := [false, true]
  failures := [none, none, some "disk full"]

/-- A batch, a removal and two operations that come to nothing. -/
def villageOperations : List (StoreOperation × Cancellation) :=
  [(.bulkAssign 1 [1, 2, 3] .primary, none), (.invalidateCache .root, none),
    (.execute (.remove 1), none), (.remove 7, none), (.assign 4 1 .primary, some 0)]

/-- Of the batch one assignment is stored and told, and later Bruno's is taken away. -/
theorem events_log_changes_village :
    Fronts UnreliableLedger.ledger ∧ faultyVillage.ledger.Reachable ∧
    faultyVillage.ledger.assignments = [⟨1, 2, 2, .primary⟩] ∧
    (performAll villageOperations faultyVillage).1 =
      [.assigned ⟨2, 1, 1, .primary⟩, .invalidated .root, .removed ⟨1, 2, 2, .primary⟩] ∧
    (performAll villageOperations faultyVillage).2.ledger.assignments = [⟨2, 1, 1, .primary⟩] ∧
    replay (performAll villageOperations faultyVillage).1 faultyVillage.ledger.assignments =
      (performAll villageOperations faultyVillage).2.ledger.assignments := by
  have hReachable : faultyVillage.ledger.Reachable := Ledger.reachable_village
  obtain ⟨hEvents, hPresent, hMoments⟩ :=
    events_log_changes UnreliableLedger.fronts hReachable villageOperations
  refine ⟨UnreliableLedger.fronts, hReachable, rfl, rfl, rfl, ?_⟩
  rcases hMoments (chronicle villageOperations faultyVillage) [] (List.append_nil _).symm with
    hLog | ⟨e, rest, hNil, -⟩
  · rw [← hEvents, ← hPresent]
    exact hLog.replayed
  · cases hNil

end StoreOperation

end PollRoster
