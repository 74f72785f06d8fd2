import PollRoster.Proofs.Following

/-!
# Malformed requests

A request is malformed if it names an identifier that is not positive or a district with the number
zero. What stands in a request is checked before anything is done, so a malformed one is turned away
as invalid input and leaves the engine as it is, over whatever database. One scope is not checked:
the target of a movement. A malformed target is turned away only by chance, when it is not below the
path or does not fit together; otherwise it is looked up like any other.

Main results:

* `turnsAway_of_isFlawed` — requests that are malformed where they are checked.
* `keeps_of_isMalformed` — no malformed request changes the database.
* `turned_away_iff` — which malformed requests are turned away.
* `malformed_target_is_shown` — a region that is shown although its identifier is zero.
-/

namespace PollRoster

/-- Whether a scope names positive identifiers only, and no district with the number zero. -/
def Scope.IsAcceptable (s : Scope) : Prop := s.HasPositiveIds ∧ s.district ≠ some 0

instance (s : Scope) : Decidable s.IsAcceptable := inferInstanceAs (Decidable (_ ∧ _))

/-- Whether a scope lies below another one. -/
def Scope.IsBelow (s path : Scope) : Prop := path.depth < s.depth ∧ path.contains s

namespace Service

/-! ## Malformed requests -/

/-- The identifiers of a request outside of scopes. -/
def Request.ids : Request → List Int
  | .create sectionId representativeId _ => [sectionId, representativeId]
  | .delete assignmentId => [assignmentId]
  | .bulkAssign representativeId sectionIds _ _ => representativeId :: sectionIds
  | .analyze representativeId _ => [representativeId]
  | _ => []

/-- The scopes of a request, without the target of a movement. -/
def Request.scopes : Request → List Scope
  | .hierarchy scope | .representatives scope _ | .invalidate scope => [scope]
  | .bulkAssign _ _ _ scope => scope.toList
  | .navigate path _ => [path]
  | _ => []

/-- The target of a movement. -/
def Request.target? : Request → Option Scope
  | .navigate _ (.drillDown target) => some target
  | _ => none

/-- Whether a request is malformed elsewhere than in a target. -/
def Request.IsFlawed (r : Request) : Prop :=
  (∃ id ∈ r.ids, id ≤ 0) ∨ ∃ scope ∈ r.scopes, ¬scope.IsAcceptable

/-- Whether a request is malformed anywhere. -/
def Request.IsMalformed (r : Request) : Prop :=
  r.IsFlawed ∨ ∃ target ∈ r.target?, ¬target.IsAcceptable

/-! ## Turning away -/

/-- Whether an action fails with invalid input and leaves the engine as it is. -/
def TurnsAway (x : Step Database α) (e : Engine Database) : Prop :=
  ∃ error, IsInvalidInput error ∧ x e = (.error error, e)

variable {e : Engine Database}

theorem TurnsAway.bind {x : Step Database α} (h : TurnsAway x e) (f : α → Step Database β) :
    TurnsAway (x >>= f) e := by
  obtain ⟨error, hInvalid, hx⟩ := h
  exact ⟨error, hInvalid, Action.bind_of_error hx f⟩

/-- A reply is made of an answer only. -/
theorem turnsAway_reply_iff {x : Step Database α} {reply : α → Reply} :
    TurnsAway (x >>= fun a => pure (reply a)) e ↔ TurnsAway x e := by
  refine ⟨fun ⟨error, hInvalid, h⟩ => ?_, fun h => h.bind _⟩
  rw [Action.bind_apply] at h
  rcases hx : x e with ⟨answer, e'⟩
  rw [hx] at h
  cases answer with
  | ok a => exact nomatch congrArg Prod.fst h
  | error first =>
    obtain rfl : first = error := Except.error.inj (congrArg Prod.fst h)
    obtain rfl : e' = e := congrArg Prod.snd h
    exact ⟨first, hInvalid, hx⟩

/-- What turns away at once or after a check that is passed. -/
theorem turnsAway_check {check : Except ServiceError α} {f : α → Step Database β}
    (hCheck : IsInputCheck check) (hThen : ∀ a, check = .ok a → TurnsAway (f a) e) :
    TurnsAway (Action.ofExcept check >>= f) e := by
  cases hPassed : check with
  | ok a => exact hThen a hPassed
  | error error => exact ⟨error, hCheck error hPassed, rfl⟩

/-! ## Checks -/

theorem pos_of_checkId {field : String} {id : Int} {u : Unit} (h : checkId field id = .ok u) :
    0 < id := by
  rw [checkId, checkIdentifier] at h
  by_cases hRefused : id ≤ 0
  · rw [if_pos hRefused] at h
    cases h
  · exact Int.not_le.mp hRefused

theorem isAcceptable_of_checkScope {s s' : Scope} (h : checkScope s = .ok s') :
    s.IsAcceptable := by
  have hDistrict : s.district ≠ some 0 := by
    intro hZero
    rw [checkScope, hZero] at h
    cases h
  refine ⟨?_, hDistrict⟩
  rw [checkScope_eq hDistrict] at h
  split at h
  next hNone => exact Scope.unacceptable?_eq_none_iff.mp hNone
  · cases h

theorem checkScope_of_isAcceptable {s : Scope} (h : s.IsAcceptable) : checkScope s = .ok s := by
  rw [checkScope_eq h.2, Scope.unacceptable?_eq_none_iff.mpr h.1]

/-- A scope that is not acceptable is turned away, whatever was to be done with it. -/
theorem turnsAway_scope {s : Scope} (h : ¬s.IsAcceptable) (f : Scope → Step Database α) :
    TurnsAway (Action.ofExcept (checkScope s) >>= f) e :=
  turnsAway_check (isInputCheck_checkScope s) fun _ hPassed =>
    (h (isAcceptable_of_checkScope hPassed)).elim

/-! ## Requests -/

/-- **At the door.** What is malformed where requests are checked is turned away, over every
database. -/
theorem turnsAway_of_isFlawed {request : Request} (h : request.IsFlawed) (maxAutoSkip : Nat)
    (stop : Cancellation) (e : Engine Database) :
    TurnsAway (handle maxAutoSkip stop request) e := by
  -- where several things are checked, not all of them are passed
  cases request with
  | hierarchy scope | representatives scope filter | invalidate scope | navigate scope action =>
    have hScope : ¬scope.IsAcceptable := by
      simpa [Request.IsFlawed, Request.ids, Request.scopes] using h
    exact (turnsAway_scope hScope _).bind _
  | create sectionId representativeId role =>
    have hIds : sectionId ≤ 0 ∨ representativeId ≤ 0 := by
      simpa [Request.IsFlawed, Request.ids, Request.scopes] using h
    refine TurnsAway.bind ?_ _
    refine turnsAway_check (isInputCheck_checkId _ _) fun _ hSection => ?_
    refine turnsAway_check (isInputCheck_checkId _ _) fun _ hRepresentative => ?_
    have hPositive := pos_of_checkId hSection
    have hPositive' := pos_of_checkId hRepresentative
    omega
  | delete assignmentId =>
    have hId : assignmentId ≤ 0 := by simpa [Request.IsFlawed, Request.ids, Request.scopes] using h
    refine TurnsAway.bind ?_ _
    exact turnsAway_check (isInputCheck_checkId _ _) fun _ hPassed =>
      absurd (pos_of_checkId hPassed) (Int.not_lt.mpr hId)
  | analyze representativeId text =>
    have hId : representativeId ≤ 0 := by
      simpa [Request.IsFlawed, Request.ids, Request.scopes] using h
    refine TurnsAway.bind ?_ _
    exact turnsAway_check (isInputCheck_checkId _ _) fun _ hPassed =>
      absurd (pos_of_checkId hPassed) (Int.not_lt.mpr hId)
  | bulkAssign representativeId sectionIds role scope =>
    refine TurnsAway.bind ?_ _
    refine turnsAway_check (isInputCheck_checkId _ _) fun _ hRepresentative => ?_
    refine turnsAway_check (isInputCheck_readRole _) fun _ _ => ?_
    refine turnsAway_check (isInputCheck_checkScope _) fun _ hScope => ?_
    refine turnsAway_check (isInputCheck_checkIds _ _) fun _ hSections => ?_
    have hPositive := pos_of_checkId hRepresentative
    have hAcceptable := isAcceptable_of_checkScope hScope
    rcases h with ⟨id, hMem, hId⟩ | ⟨s, hMem, hFlawed⟩
    · rcases List.mem_cons.mp hMem with rfl | hMem
      · omega
      · have hPassed := pos_of_checkId (forM_eq_ok.mp hSections id hMem)
        omega
    · -- without a scope the root is checked in its place
      cases scope with
      | none => exact (List.not_mem_nil hMem).elim
      | some scope =>
        obtain rfl := List.mem_singleton.mp hMem
        exact (hFlawed hAcceptable).elim
  | loadFixture text => simp [Request.IsFlawed, Request.ids, Request.scopes] at h

/-! ## Targets -/

section Target

variable {path target : Scope} {maxAutoSkip : Nat}

/-- Past the check of the path, a movement is the navigator's. -/
theorem handle_of_accepted (hPath : path.IsAcceptable) (action : NavigationAction)
    (maxAutoSkip : Nat) (stop : Cancellation) :
    handle maxAutoSkip stop (.navigate path action) =
      (run ((Navigator.startAt path maxAutoSkip).apply Engine.view action) >>= fun n =>
        pure (.moved n)) := by
  rw [handle, navigate_of_accepted (checkScope_of_isAcceptable hPath)]

/-- A target that is not below the path is turned away. -/
theorem turnsAway_of_not_isBelow (h : ¬target.IsBelow path) (maxAutoSkip : Nat)
    (e : Engine Database) :
    TurnsAway (run ((Navigator.startAt path maxAutoSkip).apply Engine.view (.drillDown target)))
      e := by
  have hNot : (decide (target.depth ≤ path.depth) || !path.contains target) = true := by
    rw [Bool.or_eq_true, decide_eq_true_eq, Bool.not_eq_true', ← Bool.not_eq_true]
    exact (Decidable.not_and_iff_or_not.mp h).imp_left Nat.not_lt.mp
  have hInvalid : IsInvalidInput (.ofOperation Navigator.notBelow) := ⟨_, _, rfl⟩
  refine ⟨_, hInvalid, ?_⟩
  rw [run, Action.mapError, Navigator.apply, Navigator.drillDown, Navigator.startAt, if_pos hNot]
  rfl

/-- A target below the path is shown as a path of its own is. -/
theorem apply_of_isBelow (h : target.IsBelow path) (maxAutoSkip : Nat) :
    (Navigator.startAt path maxAutoSkip).apply Engine.view (.drillDown target) =
      Navigator.refresh (σ := Engine Database) Engine.view (.startAt target maxAutoSkip) := by
  have hBelow : (decide (target.depth ≤ path.depth) || !path.contains target) = false := by
    rw [Bool.or_eq_false_iff, decide_eq_false_iff_not, h.2]
    exact ⟨Nat.not_le.mpr h.1, rfl⟩
  rw [Navigator.apply, Navigator.drillDown, Navigator.startAt, if_neg (by rw [hBelow]; decide)]
  rfl

/-- What is not found in the territory fails without a trace. -/
theorem refresh_of_unresolved {t : Territory} (hHosts : e.Hosts t) {reason : RuleError}
    (hResolve : t.resolve target = .error reason) (maxAutoSkip : Nat) :
    Navigator.refresh Engine.view (.startAt target maxAutoSkip) e =
      (.error (.ofScope reason), e) := by
  obtain ⟨l, hl, rfl⟩ := hHosts.healthy
  have hSnapshot : l.snapshot.view target e.cache = (.error (.ofScope reason), e.cache) := by
    have hFails : l.snapshot.territory.resolve target = .error reason := hResolve
    simp only [Snapshot.view, hFails]
  have hView : Engine.view target e = (.error (.ofScope reason), e) := by
    rw [Engine.view_of_kept hl.keeps.isKeptBy, hSnapshot]
  exact Action.bind_of_error hView _

end Target

/-! ## Which malformed requests are turned away -/

/-- The failure of a scope that does not resolve is one of the input, unless a record is missing. -/
theorem isInvalidInput_ofScope {reason : RuleError} :
    IsInvalidInput (.ofOperation (.ofScope reason)) ↔
      ∀ level id, reason ≠ .nodeNotFound level id := by
  cases reason with
  | nodeNotFound level id => exact ⟨fun ⟨_, _, h⟩ => (nomatch h), fun h => (h level id rfl).elim⟩
  | _ => exact ⟨fun _ _ _ h => (nomatch h), fun _ => ⟨_, _, rfl⟩⟩

/-- Whether the target of a movement is refused although it is not checked: it is not below the
path, or its parts do not fit together. A target that names a missing record is not refused but not
found. -/
def Request.HasMisfit (t : Territory) : Request → Prop
  | .navigate path (.drillDown target) => ¬target.IsBelow path ∨
    ∃ reason, t.resolve target = .error reason ∧ ∀ level id, reason ≠ .nodeNotFound level id
  | _ => False

theorem turnsAway_drillDown_iff {t : Territory} (hHosts : e.Hosts t) {path : Scope}
    (hPath : path.IsAcceptable) (target : Scope) (maxAutoSkip : Nat) (stop : Cancellation) :
    TurnsAway (handle maxAutoSkip stop (.navigate path (.drillDown target))) e ↔
      (Request.navigate path (.drillDown target)).HasMisfit t := by
  rw [handle_of_accepted hPath, turnsAway_reply_iff]
  by_cases hBelow : target.IsBelow path
  · rw [apply_of_isBelow hBelow, Request.HasMisfit, or_iff_right (not_not_intro hBelow), run]
    cases hResolve : t.resolve target with
    | error reason =>
      have hFails := refresh_of_unresolved hHosts hResolve maxAutoSkip
      constructor
      · rintro ⟨error, hInvalid, h⟩
        rw [Action.mapError, hFails] at h
        rw [← Except.error.inj (congrArg Prod.fst h)] at hInvalid
        exact ⟨reason, rfl, isInvalidInput_ofScope.mp hInvalid⟩
      · rintro ⟨reason', hSame, hMisfit⟩
        rw [← Except.error.inj hSame] at hMisfit
        exact ⟨_, isInvalidInput_ofScope.mpr hMisfit, by rw [Action.mapError, hFails]⟩
    | ok k =>
      -- what resolves is shown
      obtain ⟨n, e', hShown, -⟩ := (Engine.charts_hosted t).exists_refresh hHosts.wellFormed
        (Engine.answers_hosted t) (n := .startAt target maxAutoSkip) hResolve hHosts
      constructor
      · rintro ⟨error, -, h⟩
        rw [Action.mapError, hShown] at h
        cases congrArg Prod.fst h
      · rintro ⟨reason, h, -⟩
        cases h
  · exact iff_of_true (turnsAway_of_not_isBelow hBelow maxAutoSkip e) (.inl hBelow)

/-- **No malformed request** changes the database. -/
theorem keeps_of_isMalformed {request : Request} (h : request.IsMalformed) (maxAutoSkip : Nat)
    (stop : Cancellation) (e : Engine Database) :
    (handle maxAutoSkip stop request e).2.repository = e.repository := by
  rcases h with hFlawed | ⟨target, hTarget, -⟩
  · obtain ⟨error, -, hAway⟩ := turnsAway_of_isFlawed hFlawed maxAutoSkip stop e
    rw [hAway]
  · -- only movements have a target, and they read
    have hReading : request.IsReading := by
      cases request with
      | navigate path action => trivial
      | _ => exact nomatch hTarget
    exact onlyReads_handle hReading maxAutoSkip stop e

/-- **Malformed requests.** Over every database, a request that is malformed where requests are
checked is turned away, and no malformed request changes the database. Over a database that requests
and calls have led to, a malformed request is turned away exactly if it is malformed where requests
are checked or its target is a misfit. -/
theorem turned_away_iff {request : Request} (hMalformed : request.IsMalformed) (maxAutoSkip : Nat)
    (stop : Cancellation) (e : Engine Database) :
    (request.IsFlawed → TurnsAway (handle maxAutoSkip stop request) e) ∧
      (handle maxAutoSkip stop request e).2.repository = e.repository ∧
      ∀ t, e.Hosts t → (TurnsAway (handle maxAutoSkip stop request) e ↔
        request.IsFlawed ∨ request.HasMisfit t) := by
  have hFlawed : request.IsFlawed → TurnsAway (handle maxAutoSkip stop request) e :=
    fun h => turnsAway_of_isFlawed h maxAutoSkip stop e
  refine ⟨hFlawed, keeps_of_isMalformed hMalformed maxAutoSkip stop e, fun t hHosts => ?_⟩
  by_cases h : request.IsFlawed
  · exact iff_of_true (hFlawed h) (.inl h)
  -- only the target is malformed then, so there is one and the path is accepted
  · obtain ⟨target, hTarget, -⟩ := hMalformed.resolve_left h
    rw [or_iff_right h]
    match request, hTarget with
    | .navigate path (.drillDown target), rfl =>
      have hPath : path.IsAcceptable := by
        by_contra hNot
        exact h (.inr ⟨path, List.mem_singleton_self path, hNot⟩)
      exact turnsAway_drillDown_iff hHosts hPath target maxAutoSkip stop

/-- A batch with a section zero is turned away, and so is, by chance, a target with a district zero:
it names no municipality. -/
theorem turned_away_iff_twoRegions :
    (Request.bulkAssign 1 [4, 0, 5] "RDL" none).IsMalformed ∧
      TurnsAway (handle 8 none (.bulkAssign 1 [4, 0, 5] "RDL" none)) twoRegionsEngine ∧
      (Request.navigate .root (.drillDown ⟨none, none, none, some 0⟩)).IsMalformed ∧
      ∃ t, twoRegionsEngine.Hosts t ∧
        TurnsAway (handle 8 none (.navigate .root (.drillDown ⟨none, none, none, some 0⟩)))
          twoRegionsEngine := by
  have hSections : (Request.bulkAssign 1 [4, 0, 5] "RDL" none).IsFlawed :=
    .inl ⟨0, by decide, Int.le_refl 0⟩
  have hTarget : (Request.navigate .root (.drillDown ⟨none, none, none, some 0⟩)).IsMalformed :=
    .inr ⟨_, rfl, by decide⟩
  obtain ⟨t, hHosts⟩ := (Database.Reachable.seed twoRegionsData .empty).hosts
  have hMisfit : (Request.navigate .root (.drillDown ⟨none, none, none, some 0⟩)).HasMisfit t :=
    .inr ⟨_, rfl, fun _ _ h => nomatch h⟩
  refine ⟨.inl hSections, ?_, hTarget, t, hHosts, ?_⟩
  · exact (turned_away_iff (.inl hSections) 8 none twoRegionsEngine).1 hSections
  · exact ((turned_away_iff hTarget 8 none twoRegionsEngine).2.2 t hHosts).mpr (.inr hMisfit)

/-- **A malformed target.** The region zero is refused as a path and shown as a target, and its
counters are kept; a region with a negative identifier is looked for. -/
theorem malformed_target_is_shown :
    (Request.navigate .root (.drillDown (.ofRegion 0))).IsMalformed ∧
      ¬TurnsAway (handle 8 none (.navigate .root (.drillDown (.ofRegion 0)))) twoRegionsEngine ∧
      (handle 8 none (.navigate .root (.drillDown (.ofRegion 0))) twoRegionsEngine).2.cache ≠
        twoRegionsEngine.cache ∧
      TurnsAway (handle 8 none (.navigate (.ofRegion 0) .refresh)) twoRegionsEngine ∧
      (Request.navigate .root (.drillDown (.ofRegion (-1)))).IsMalformed ∧
      handle 8 none (.navigate .root (.drillDown (.ofRegion (-1)))) twoRegionsEngine =
        (.error (.resourceNotFound "Region" "Region -1 does not exist"), twoRegionsEngine) := by
  obtain ⟨n, e, hShown, hKept⟩ : ∃ n e,
      handle 8 none (.navigate .root (.drillDown (.ofRegion 0))) twoRegionsEngine =
        (.ok (.moved n), e) ∧ e.cache.size = 1 := ⟨_, _, rfl, rfl⟩
  refine ⟨.inr ⟨_, rfl, by decide⟩, ?_, ?_, ?_, .inr ⟨_, rfl, by decide⟩, rfl⟩
  · rintro ⟨error, -, h⟩
    rw [hShown] at h
    exact nomatch congrArg Prod.fst h
  · rw [hShown]
    intro hSame
    have hEmpty : twoRegionsEngine.cache.size = 0 := rfl
    rw [← hSame, hKept] at hEmpty
    exact nomatch hEmpty
  · exact turnsAway_of_isFlawed (.inr ⟨_, List.mem_singleton_self _, by decide⟩) 8 none _

end Service

end PollRoster
