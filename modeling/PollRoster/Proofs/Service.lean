import PollRoster.Proofs.Navigator
import PollRoster.Service

/-!
# The service and its cache

Between two requests all counters in the cache are fresh. A change puts counters out of date only
where it touches a place, and the service drops what is related to the touched places before it
answers; when a batch fails in the middle it drops everything.

Main results:

* `yields_invalidateTouched` — the announcements after a change make all counters fresh again.
* `leads_create`, `leads_delete`, `leads_navigate` — the requests but those for a batch leave fresh
  counters, and show no view but the one shown without a cache.
-/

namespace PollRoster.Service

open Engine (Knowledge Yields Leads yields_pure yields_fail yields_ofExcept leads_check
  yields_perform yields_perform_idle)

variable {k : Knowledge} {α β : Type}

/-! ## Views in answers -/

/-- The view that a failure carries along. -/
def errorView? : ServiceError → Option View
  | .partialFailure answer => answer.view
  | _ => none

/-- The view that a reply carries along. -/
def Reply.view? : Reply → Option View
  | .view v => some v
  | .bulk answer => answer.view
  | .moved n => n.view
  | _ => none

/-- The view that is shown with an answer or a failure. -/
def shown? (view? : α → Option View) : Except ServiceError α → Option View
  | .ok a => view? a
  | .error e => errorView? e

/-- What holds once a request is answered: all counters are fresh, and a view in the answer is the
one shown without a cache. -/
structure Settled (view? : α → Option View) (answer : Except ServiceError α) (k : Knowledge) :
    Prop where
  atRest : k.AtRest
  shows : ∀ v ∈ shown? view? answer, k.Shows v

/-- Whether a check fails without showing a view. -/
def IsPlain (x : Except ServiceError α) : Prop := ∀ e, x = .error e → errorView? e = none

/-- What holds once a request is answered over a database: it is settled, and a failure has left the
database as it was, unless it reports a batch in part. -/
structure Concluded (view? : α → Option View) (before : Knowledge) (answer : Except ServiceError α)
    (k : Knowledge) : Prop extends Settled view? answer k where
  spares : ∀ e, answer = .error e → (∀ report, e ≠ .partialFailure report) →
    k.database = before.database

theorem Concluded.of_error {view? : α → Option View} {before : Knowledge} {e : ServiceError}
    (hRest : k.AtRest) (hPlain : errorView? e = none) (hSame : k.database = before.database) :
    Concluded view? before (.error e) k where
  atRest := hRest
  shows := by
    intro v hv
    rw [shown?, hPlain] at hv
    exact nomatch hv
  spares := fun _ _ _ => hSame

theorem Concluded.of_ok {view? : α → Option View} {before : Knowledge} {a : α} (hRest : k.AtRest)
    (hShows : ∀ v ∈ view? a, k.Shows v) : Concluded view? before (.ok a) k :=
  ⟨⟨hRest, hShows⟩, fun _ h => (nomatch h)⟩

theorem Concluded.of_unseen {before : Knowledge} {a : α} (hRest : k.AtRest) :
    Concluded (fun _ => none) before (.ok a) k :=
  .of_ok hRest fun _ hv => (nomatch hv)

/-- A failure concludes alike whatever else might have been answered. -/
theorem Concluded.error {view? : α → Option View} {view?' : β → Option View} {before : Knowledge}
    {e : ServiceError} (h : Concluded view? before (.error e) k) :
    Concluded view?' before (.error e) k :=
  ⟨⟨h.atRest, h.shows⟩, fun e' he => h.spares e' (congrArg Except.error (Except.error.inj he))⟩

theorem errorView?_ofOperation (e : OperationError) : errorView? (.ofOperation e) = none := by
  cases e with
  | ruleBreach error => cases error <;> rfl
  | _ => rfl

theorem errorView?_ofStorage (e : StorageError) : errorView? (.ofStorage e) = none := by
  cases e <;> rfl

/-! ## Checks -/

/-- Whether a failure blames a field of the request. -/
def IsInvalidInput (e : ServiceError) : Prop := ∃ field reason, e = .invalidInput field reason

/-- Whether a check fails with invalid input if it fails. -/
def IsInputCheck (check : Except ServiceError α) : Prop :=
  ∀ error, check = .error error → IsInvalidInput error

theorem IsInputCheck.isPlain {check : Except ServiceError α} (h : IsInputCheck check) :
    IsPlain check := by
  intro e he
  obtain ⟨field, reason, rfl⟩ := h e he
  rfl

theorem IsInputCheck.bind {x : Except ServiceError α} {f : α → Except ServiceError β}
    (hx : IsInputCheck x) (hf : ∀ a, IsInputCheck (f a)) : IsInputCheck (x >>= f) := by
  intro error h
  cases x with
  | ok a => exact hf a error h
  | error first => exact hx error (congrArg Except.error (Except.error.inj h))

theorem isInputCheck_ok (a : α) : IsInputCheck (.ok a) := fun _ h => (nomatch h)

theorem isInputCheck_checkId (field : String) (value : Int) :
    IsInputCheck (checkId field value) := by
  intro error h
  rw [checkId, checkIdentifier] at h
  by_cases hRefused : value ≤ 0
  · rw [if_pos hRefused] at h
    exact ⟨_, _, (Except.error.inj h).symm⟩
  · rw [if_neg hRefused] at h
    cases h

theorem isInputCheck_checkId? (field : String) (value : Option Int) :
    IsInputCheck (checkId? field value) := by
  cases value with
  | none => exact isInputCheck_ok _
  | some value => exact isInputCheck_checkId field value

/-- A scope is refused for its district or for an identifier. -/
theorem isInputCheck_checkScope (s : Scope) : IsInputCheck (checkScope s) := by
  refine IsInputCheck.bind ?_ fun _ => (isInputCheck_checkId? _ _).bind fun _ =>
    (isInputCheck_checkId? _ _).bind fun _ => (isInputCheck_checkId? _ _).bind fun _ =>
    isInputCheck_ok _
  rw [require]
  split
  · exact isInputCheck_ok _
  · exact fun error h => ⟨_, _, (Except.error.inj h).symm⟩

theorem isInputCheck_readRole (text : String) : IsInputCheck (readRole text) := by
  intro error h
  rw [readRole, Role.ofText] at h
  split at h
  · cases h
  · exact ⟨_, _, (Except.error.inj h).symm⟩

theorem isInputCheck_checkIds (field : String) (ids : List Int) :
    IsInputCheck (ids.forM (checkId field)) := by
  induction ids with
  | nil => exact isInputCheck_ok _
  | cons id rest ih => exact (isInputCheck_checkId field id).bind fun _ => ih

/-- A check before the rest of a request. -/
theorem leads_plain {x : Except ServiceError α} {f : α → Step Database β}
    {view? : β → Option View} (hPlain : IsPlain x) (hRest : k.AtRest)
    (hOk : ∀ a, x = .ok a → Leads (f a) k (Concluded view? k)) :
    Leads (Action.ofExcept x >>= f) k (Concluded view? k) :=
  leads_check (fun e he => .of_error hRest (hPlain e he) rfl) hOk

/-! ## Dropping counters -/

theorem yields_run {x : Engine.Step Database α} {answer : Except OperationError α} {k' : Knowledge}
    (h : Yields x k answer k') : Yields (run x) k (answer.mapError ServiceError.ofOperation) k' :=
  h.mapError _

/-- The places of known sections are found. -/
theorem yields_placesOf (sectionIds : List Int)
    (hKnown : ∀ id ∈ sectionIds, (k.ledger.territory.section? id).isSome) :
    ∃ places, Yields (placesOf sectionIds) k (.ok places) k ∧
      ∀ x ∈ k.ledger.territory.sections, x.id ∈ sectionIds → ∃ p ∈ places,
        k.ledger.territory.resolve (.ofPlace x.municipalityId x.district) = .ok p := by
  induction sectionIds with
  | nil => exact ⟨[], yields_pure [] k, fun _ _ hId => (List.not_mem_nil hId).elim⟩
  | cons id rest ih =>
    obtain ⟨p, hPlace, hResolve⟩ := Engine.yields_scopeOfSection (hKnown id List.mem_cons_self)
    obtain ⟨places, hPlaces, hFound⟩ := ih fun other hOther =>
      hKnown other (List.mem_cons_of_mem _ hOther)
    refine ⟨p :: places, (yields_run hPlace).bind (hPlaces.bind (yields_pure _ k)), ?_⟩
    intro x hx hId
    rcases List.mem_cons.mp hId with hSame | hOther
    · exact ⟨p, List.mem_cons_self, hResolve x hx hSame⟩
    · obtain ⟨q, hq, hAt⟩ := hFound x hx hOther
      exact ⟨q, List.mem_cons_of_mem _ hq, hAt⟩

theorem yields_invalidateAll (ps : List Scope) (k : Knowledge) :
    Yields (invalidateAll ps) k (.ok ()) (k.dropped ps) := by
  induction ps generalizing k with
  | nil =>
    refine (yields_pure () k).forget fun q hq => hq.resolve_right ?_
    rintro ⟨p, hp, -⟩
    exact List.not_mem_nil hp
  | cons p rest ih =>
    have hAll : Yields (invalidateAll (p :: rest)) k (.ok ()) ((k.dropped [p]).dropped rest) :=
      (yields_run (Engine.yields_invalidate p k)).bind (ih (k.dropped [p]))
    refine hAll.forget fun q hq => ?_
    rcases hq with hFresh | ⟨p', hMem, hRelated⟩
    · exact .inl (.inl hFresh)
    · rcases List.mem_cons.mp hMem with rfl | hMem
      · exact .inl (.inr ⟨p', List.mem_cons_self, hRelated⟩)
      · exact .inr ⟨p', hMem, hRelated⟩

/-- **After a change.** When nothing but what is related to a touched place is out of date, all
counters are fresh once the touched places are dropped. -/
theorem yields_invalidateTouched {sectionIds : List Int} {representativeId : Int}
    (hSections : ∀ id ∈ sectionIds, (k.ledger.territory.section? id).isSome)
    (hRepresentative : (k.ledger.representative? representativeId).isSome)
    (hFresh : ∀ q, (∀ p, k.ledger.Touches sectionIds representativeId p →
      q.isRelated p = false) → k.fresh q) :
    Yields (invalidateTouched sectionIds representativeId) k (.ok ())
      (k.withFresh fun _ => True) := by
  obtain ⟨places, hPlaces, hFound⟩ := yields_placesOf sectionIds hSections
  obtain ⟨declared, hDeclared, hResolve⟩ := Engine.yields_scopeOfRepresentative hRepresentative
  have hAll : Yields (invalidateTouched sectionIds representativeId) k (.ok ())
      (k.dropped (distinct (places ++ [declared]))) :=
    hPlaces.bind ((yields_run hDeclared).bind (yields_invalidateAll _ k))
  refine hAll.forget fun q _ => ?_
  -- what is related to a dropped place is fresh anyway, all else is related to no touched place
  by_cases hRelated : ∃ p ∈ distinct (places ++ [declared]), q.isRelated p
  · exact .inr hRelated
  · refine .inl (hFresh q fun p hTouches => ?_)
    -- the place of the change is among the dropped ones
    have hMem : p ∈ distinct (places ++ [declared]) := by
      rw [mem_distinct, List.mem_append, List.mem_singleton]
      rcases hTouches with ⟨x, hx, hId, hAt⟩ | ⟨-, r, hr, hId, hAt⟩
      · obtain ⟨p', hp', hAt'⟩ := hFound x hx hId
        obtain rfl := Except.ok.inj (hAt'.symm.trans hAt)
        exact .inl hp'
      · exact .inr (Except.ok.inj (hAt.symm.trans (hResolve r hr hId)))
    exact Bool.eq_false_iff.mpr fun h => hRelated ⟨p, hMem, h⟩

/-! ## Reading -/

section Reading

variable (hRest : k.AtRest)
include hRest

/-- A view of an engine at rest is the one shown without a cache. -/
theorem leads_view (scope : Scope) :
    Leads (Engine.view scope) k (Navigator.Offering k k.Shows) :=
  (Engine.yields_view fun _ _ q _ => hRest q).leads
    ⟨rfl, fun _ hv => (Snapshot.scope_of_view hv).2⟩

theorem leads_hierarchy (scope : Scope) : Leads (hierarchy scope) k (Concluded some k) := by
  refine leads_plain (isInputCheck_checkScope scope).isPlain hRest fun scope _ => ?_
  obtain ⟨answer, k', hYields, rfl, hShows⟩ := leads_view hRest scope
  refine (yields_run hYields).leads ?_
  cases answer with
  | error e => exact .of_error hRest (errorView?_ofOperation e) rfl
  | ok v =>
    refine .of_ok hRest fun v' hv => ?_
    rw [← Option.some.inj (show some v = some v' from hv)]
    exact hShows v rfl

theorem leads_navigate (path : Scope) (action : NavigationAction) (maxAutoSkip : Nat) :
    Leads (navigate path action maxAutoSkip) k (Concluded Navigator.view k) := by
  refine leads_plain (isInputCheck_checkScope path).isPlain hRest fun path _ => ?_
  obtain ⟨answer, k', hYields, rfl, hShows⟩ :=
    Navigator.leads_apply (leads_view hRest) action (.startAt path maxAutoSkip)
  refine (yields_run hYields).leads ?_
  cases answer with
  | error e => exact .of_error hRest (errorView?_ofOperation e) rfl
  | ok n => exact .of_ok hRest (hShows n rfl)

/-- What is read without the cache settles nothing and unsettles nothing. -/
theorem leads_unseen {x : Engine.Step Database α} {answer : Except OperationError α}
    (h : Yields x k answer k) : Leads (run x) k (Concluded (fun _ => none) k) := by
  refine (yields_run h).leads ?_
  cases answer with
  | error e => exact .of_error hRest (errorView?_ofOperation e) rfl
  | ok a => exact .of_unseen hRest

theorem leads_representatives (scope : Scope) (filter : Option String) :
    Leads (representatives scope filter) k (Concluded (fun _ => none) k) :=
  leads_plain (isInputCheck_checkScope scope).isPlain hRest fun scope _ =>
    leads_unseen hRest (Engine.yields_search scope filter k)

theorem leads_analyze (representativeId : Int) (text : Option String) :
    Leads (analyze representativeId text) k (Concluded (fun _ => none) k) :=
  leads_plain (isInputCheck_checkId _ representativeId).isPlain hRest fun _ _ =>
    leads_unseen hRest (Engine.yields_analyze representativeId text k)

theorem leads_invalidate (scope : Scope) :
    Leads (invalidate scope) k (Concluded (fun _ => none) k) := by
  refine leads_plain (isInputCheck_checkScope scope).isPlain hRest fun scope _ => ?_
  refine (yields_run (Engine.yields_invalidate scope k)).leads_bind ?_
  exact (yields_pure scope _).leads (.of_unseen fun q => .inl (hRest q))

/-! ## Changing assignments -/

/-- A program that changes one representative's assignments to some sections leaves fresh what is
related to no place that it touches. -/
theorem exists_yields_change {p : Program α} {post : α → Prop}
    (hCareful : p.IsCareful k.ledger post) {stop : Cancellation} {t : Trace Ledger α}
    (hRun : p.run stop 0 k.ledger = t) (hChanges : ∀ event ∈ t.events, event.IsChange)
    {sectionIds : List Int} {representativeId : Int}
    (hDiffers : k.ledger.DiffersAt sectionIds representativeId t.repository) :
    ∃ k', k'.ledger = t.repository ∧
      (∀ q, (∀ p, k'.ledger.Touches sectionIds representativeId p → q.isRelated p = false) →
        k'.fresh q) ∧
      Yields (Engine.perform p stop) k t.result k' := by
  obtain ⟨k', hLedger, hFresh, hYields⟩ := yields_perform hCareful stop hRun hChanges
    fun c hc => (hc.mono fun q _ => hRest q).of_differsAt hDiffers k.healthy.sound
  refine ⟨k', hLedger, fun q hFar => ?_, hYields⟩
  rw [hFresh]
  intro p hTouches
  refine hFar p ?_
  rw [hLedger]
  exact hDiffers.like.touches_iff.mpr hTouches

/-- A change that is followed by the announcements of the places that it touches. -/
theorem exists_yields_touched {p : Program α} {post : α → Prop}
    (hCareful : p.IsCareful k.ledger post) {stop : Cancellation} {a : α} {events : List Event}
    {l : Ledger} {finish : Moment} (hRun : p.run stop 0 k.ledger = ⟨.ok a, events, l, finish⟩)
    (hChanges : ∀ event ∈ events, event.IsChange) {sectionIds : List Int} {representativeId : Int}
    (hDiffers : k.ledger.DiffersAt sectionIds representativeId l)
    (hSections : ∀ id ∈ sectionIds, (k.ledger.territory.section? id).isSome)
    (hRepresentative : (k.ledger.representative? representativeId).isSome) :
    ∃ k', Yields (run (Engine.perform p stop)) k (.ok a) k' ∧
      Yields (invalidateTouched sectionIds representativeId) k' (.ok ())
        (k'.withFresh fun _ => True) := by
  obtain ⟨k', hLedger, hFresh, hYields⟩ :=
    exists_yields_change hRest hCareful hRun hChanges hDiffers
  refine ⟨k', yields_run hYields, yields_invalidateTouched (fun id hId => ?_) ?_ hFresh⟩
  · rw [hLedger, hDiffers.like.1]
    exact hSections id hId
  · rw [Ledger.representative?, hLedger, hDiffers.like.2]
    exact hRepresentative

theorem leads_create (sectionId representativeId : Int) (role : String) (stop : Cancellation) :
    Leads (create sectionId representativeId role stop) k (Concluded (fun _ => none) k) := by
  refine leads_plain (isInputCheck_checkId _ sectionId).isPlain hRest fun _ _ => ?_
  refine leads_plain (isInputCheck_checkId _ representativeId).isPlain hRest fun _ _ => ?_
  refine leads_plain (isInputCheck_readRole role).isPlain hRest fun role _ => ?_
  have hCareful : (Assigning.assign sectionId representativeId role).IsCareful k.ledger _ :=
    Assigning.assign_careful sectionId representativeId role
  rcases Assigning.assign_cases sectionId representativeId role stop 0 k.ledger with
    ⟨x, finish, hx, hRun⟩ | ⟨hSection, hRepresentative, -, finish, hRun⟩
  -- nothing was created: the service announces nothing
  · have hYields := yields_run (yields_perform_idle hCareful stop hRun)
    cases x with
    | error e => exact hYields.bind_error.leads (.of_error hRest (errorView?_ofOperation e) rfl)
    | ok outcome =>
      cases outcome with
      | created a => exact (hx a rfl).elim
      | unchanged a => exact hYields.leads_bind ((yields_pure _ k).leads (.of_unseen hRest))
  · obtain ⟨k', hAssigned, hDropped⟩ := exists_yields_touched hRest hCareful hRun
      (List.forall_mem_singleton.mpr trivial)
      (k.ledger.differsAt_add sectionId representativeId role)
      (List.forall_mem_singleton.mpr hSection) hRepresentative
    refine hAssigned.leads_bind (hDropped.leads_bind ?_)
    exact (yields_pure _ _).leads (.of_unseen fun _ => trivial)

theorem leads_delete (assignmentId : Int) (stop : Cancellation) :
    Leads (delete assignmentId stop) k (Concluded (fun _ => none) k) := by
  refine leads_plain (isInputCheck_checkId _ assignmentId).isPlain hRest fun _ _ => ?_
  have hCareful : (Assigning.remove assignmentId).IsCareful k.ledger _ :=
    Assigning.remove_careful assignmentId
  rcases Assigning.remove_cases assignmentId stop 0 k.ledger with
    ⟨e, finish, hRun⟩ | ⟨a, hFound, finish, hRun⟩
  · have hYields := yields_run (yields_perform_idle hCareful stop hRun)
    exact hYields.bind_error.leads (.of_error hRest (errorView?_ofOperation e) rfl)
  -- what was taken away stood between a known section and a known representative
  · have hOrderly := k.healthy.sound.orderly
    obtain ⟨hSection, hRepresentative⟩ :=
      k.healthy.sound.grounded a ((Ledger.assignment?_eq_some_iff hOrderly).mp hFound).1
    obtain ⟨k', hRemoved, hDropped⟩ := exists_yields_touched hRest hCareful hRun
      (List.forall_mem_singleton.mpr trivial) (Ledger.differsAt_without hOrderly hFound)
      (List.forall_mem_singleton.mpr hSection) hRepresentative
    refine hRemoved.leads_bind (hDropped.leads_bind ?_)
    exact (yields_pure _ _).leads (.of_unseen fun _ => trivial)

end Reading

end PollRoster.Service
