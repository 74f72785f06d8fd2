import PollRoster.Proofs.Program
import PollRoster.Service

/-!
# Requests that only read

Most requests make no call but such as read. They leave the database of an engine as it is, whatever
they are answered and whatever the cache holds; what they change is the cache and the log.

Main results:

* `onlyReads_perform` — a program that asks for nothing but readings.
* `onlyReads_apply` — navigating over a source that only reads.
* `onlyReads_handle` — every request of the service that asks for no change.
-/

namespace PollRoster

/-- Whether a call asks for no change. -/
def RepositoryCall.IsReading : RepositoryCall → Prop
  | .insert _ _ _ | .delete _ => False
  | _ => True

theorem Database.answer_of_reading {c : RepositoryCall} (h : c.IsReading) (db : Database) :
    (Repository.answer c db).2 = db := by
  cases c with
  | insert sectionId representativeId role => exact h.elim
  | delete id => exact h.elim
  | _ => rfl

theorem Snapshot.load_reads : load.Asks RepositoryCall.IsReading :=
  (Program.asks_ask trivial).bind fun _ => (Program.asks_ask trivial).bind fun _ =>
    (Program.asks_ask trivial).bind fun _ => Program.asks_pure _

/-- Whether an action leaves the database of an engine as it is. -/
def OnlyReads (x : Action (Engine Database) ε α) : Prop :=
  ∀ e, (x e).2.repository = e.repository

section Actions

variable {ε ε' α β : Type} {x : Action (Engine Database) ε α}

theorem onlyReads_pure (a : α) : OnlyReads (pure a : Action (Engine Database) ε α) := fun _ => rfl

theorem onlyReads_fail (err : ε) : OnlyReads (.fail err : Action (Engine Database) ε α) :=
  fun _ => rfl

theorem onlyReads_ofExcept (a : Except ε α) :
    OnlyReads (.ofExcept a : Action (Engine Database) ε α) := fun _ => rfl

theorem OnlyReads.bind {f : α → Action (Engine Database) ε β} (hFirst : OnlyReads x)
    (hThen : ∀ a, OnlyReads (f a)) : OnlyReads (x >>= f) := by
  intro e
  have hSame := hFirst e
  rw [Action.bind_apply]
  rcases hx : x e with ⟨answer, e'⟩
  rw [hx] at hSame
  cases answer with
  | ok a => exact (hThen a e').trans hSame
  | error err => exact hSame

theorem OnlyReads.mapError (h : OnlyReads x) (f : ε → ε') : OnlyReads (x.mapError f) := by
  intro e
  have hSame := h e
  rw [Action.mapError]
  rcases hx : x e with ⟨answer, e'⟩
  rw [hx] at hSame
  cases answer <;> exact hSame

end Actions

/-! ## The engine -/

namespace Engine

theorem onlyReads_perform {p : Program α} (h : p.Asks RepositoryCall.IsReading)
    (stop : Cancellation) : OnlyReads (perform p stop : Step Database α) := by
  intro e
  refine h.run_keeps (P := fun db => db = e.repository) (fun c db hReading hSame => ?_) rfl
  rw [Database.answer_of_reading hReading]
  exact hSame

theorem onlyReads_view (scope : Scope) : OnlyReads (view scope : Step Database View) :=
  (onlyReads_perform Snapshot.load_reads none).bind fun _ _ => rfl

theorem onlyReads_search (scope : Scope) (filter : Option String) :
    OnlyReads (search scope filter : Step Database (List RepresentativeSummary)) :=
  (onlyReads_perform Snapshot.load_reads none).bind fun _ => onlyReads_ofExcept _

theorem onlyReads_analyze (representativeId : Int) (text : Option String) :
    OnlyReads (analyze representativeId text : Step Database PreferenceMatch) :=
  (onlyReads_perform Snapshot.load_reads none).bind fun _ => onlyReads_ofExcept _

theorem onlyReads_invalidate (scope : Scope) :
    OnlyReads (invalidate scope : Step Database Unit) :=
  onlyReads_perform (p := Program.tell _) trivial none

end Engine

/-! ## Navigating -/

namespace Navigator

variable {source : ViewSource (Engine Database)} (hSource : ∀ scope, OnlyReads (source scope))
include hSource

theorem onlyReads_skipAhead (steps : Nat) (visited : List Scope) (v : View) :
    OnlyReads (skipAhead source steps visited v) := by
  induction steps generalizing visited v with
  | zero => exact onlyReads_pure v
  | succ steps ih =>
    rw [skipAhead]
    split
    · exact onlyReads_pure v
    · split
      · exact onlyReads_pure v
      · exact (hSource _).bind fun next => ih _ next

theorem onlyReads_refresh (n : Navigator) : OnlyReads (refresh source n) :=
  (hSource _).bind fun _ => (onlyReads_skipAhead hSource _ _ _).bind fun _ => onlyReads_pure _

theorem onlyReads_climb (path : Scope) (ancestors : List Scope) :
    OnlyReads (climb source path ancestors) := by
  induction ancestors generalizing path with
  | nil => exact hSource path
  | cons ancestor above ih =>
    refine (hSource path).bind fun v => ?_
    split
    · exact ih ancestor
    · exact onlyReads_pure v

theorem onlyReads_back? (n : Navigator) : OnlyReads (back? source n) := by
  rw [back?]
  split
  · exact onlyReads_pure none
  · exact (onlyReads_climb hSource _ _).bind fun _ => onlyReads_pure _

/-- Every movement asks its source and nothing else. -/
theorem onlyReads_apply (action : NavigationAction) (n : Navigator) :
    OnlyReads (n.apply source action) := by
  cases action with
  | refresh => exact onlyReads_refresh hSource n
  | drillDown scope =>
    rw [apply, drillDown]
    split
    · exact onlyReads_fail _
    · exact onlyReads_refresh hSource _
  | back =>
    refine (onlyReads_back? hSource n).bind fun found => ?_
    cases found with
    | some n => exact onlyReads_pure n
    | none => exact onlyReads_refresh hSource n

end Navigator

/-! ## The service -/

namespace Service

/-- Whether a request asks for no change of the database. -/
def Request.IsReading : Request → Prop
  | .create _ _ _ | .delete _ | .bulkAssign _ _ _ _ | .loadFixture _ => False
  | _ => True

/-- **Reading.** A request that asks for no change makes none. -/
theorem onlyReads_handle {request : Request} (h : request.IsReading) (maxAutoSkip : Nat)
    (stop : Cancellation) : OnlyReads (handle maxAutoSkip stop request) := by
  have hReply : ∀ {α : Type} {x : Step Database α} (reply : α → Reply), OnlyReads x →
      OnlyReads (x >>= fun a => pure (reply a)) := fun reply hx => hx.bind fun _ => onlyReads_pure _
  -- what was sent is checked, and then the engine is asked
  have hChecked : ∀ {α β : Type} (x : Except ServiceError α) {f : α → Step Database β},
      (∀ a, OnlyReads (f a)) → OnlyReads (Action.ofExcept x >>= f) :=
    fun x _ hf => (onlyReads_ofExcept x).bind hf
  cases request with
  | hierarchy scope => exact hReply _ (hChecked _ fun s => (Engine.onlyReads_view s).mapError _)
  | representatives scope filter =>
    exact hReply _ (hChecked _ fun s => (Engine.onlyReads_search s filter).mapError _)
  | invalidate scope =>
    exact hReply _ (hChecked _ fun s => ((Engine.onlyReads_invalidate s).mapError _).bind fun _ =>
      onlyReads_pure s)
  | analyze representativeId text =>
    exact hReply _ (hChecked _ fun _ => (Engine.onlyReads_analyze _ text).mapError _)
  | navigate path action =>
    exact hReply _ (hChecked _ fun _ =>
      (Navigator.onlyReads_apply Engine.onlyReads_view action _).mapError _)
  | _ => exact h.elim

end Service

end PollRoster
