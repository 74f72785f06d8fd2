import PollRoster.Proofs.Fixture
import PollRoster.Proofs.Hosting
import PollRoster.Proofs.Return

/-!
# Following links

The answers of the service name scopes, and each of them may be sent back to be shown or navigated.
By then the service may have been used, bypassed and restarted, but the paths of the territory are
still there. What may be in the way is the check of what was sent: a request is refused if it names
an identifier that is not positive, whereas a load takes any identifiers. So the records with such
identifiers are listed, and cannot be asked for.

Main results:

* `checkScope_eq` — which scopes are refused unseen, and for which identifier.
* `follows_iff`, `refuses_of_not_positive` — which paths can be followed, and how the others are
  refused.
* `links_followed` — what becomes of the links of every answer, and for which data all of them can
  be followed.
-/

namespace PollRoster

/-! ## Identifiers -/

namespace Scope

/-- The identifiers that a scope names, outermost first, with the fields in which they stand. -/
def ids (s : Scope) : List (String × Int) :=
  s.region.toList.map ("region", ·) ++ s.province.toList.map ("province", ·) ++
    s.municipality.toList.map ("municipality", ·)

def HasPositiveIds (s : Scope) : Prop := ∀ x ∈ s.ids, 0 < x.2

instance (s : Scope) : Decidable s.HasPositiveIds := List.decidableBAll _ _

/-- The first identifier of a scope that is not positive. -/
def unacceptable? (s : Scope) : Option (String × Int) := s.ids.find? (·.2 ≤ 0)

theorem unacceptable?_eq_none_iff {s : Scope} : s.unacceptable? = none ↔ s.HasPositiveIds := by
  rw [unacceptable?, List.find?_eq_none]
  simp only [decide_eq_true_eq, Int.not_le]
  rfl

theorem hasPositiveIds_iff {s : Scope} : s.HasPositiveIds ↔ (∀ id ∈ s.region, 0 < id) ∧
    (∀ id ∈ s.province, 0 < id) ∧ ∀ id ∈ s.municipality, 0 < id := by
  obtain ⟨region, province, municipality, district⟩ := s
  cases region <;> cases province <;> cases municipality <;> simp [HasPositiveIds, ids]

theorem hasPositiveIds_root : root.HasPositiveIds := by decide

end Scope

/-- Whether all identifiers of records that a scope can name are positive. -/
structure TerritoryData.HasPositiveIds (data : TerritoryData) : Prop where
  regions : ∀ r ∈ data.regions, 0 < r.id
  provinces : ∀ p ∈ data.provinces, 0 < p.id
  municipalities : ∀ m ∈ data.municipalities, 0 < m.id

/-- The order of the records makes no difference. -/
theorem Territory.SameRecords.hasPositiveIds_iff {t u : Territory} (h : t.SameRecords u) :
    t.data.HasPositiveIds ↔ u.data.HasPositiveIds := by
  constructor
  · rintro ⟨hRegions, hProvinces, hMunicipalities⟩
    exact ⟨fun r hr => hRegions r (h.regions.mem_iff.mpr hr),
      fun p hp => hProvinces p (h.provinces.mem_iff.mpr hp),
      fun m hm => hMunicipalities m (h.municipalities.mem_iff.mpr hm)⟩
  · rintro ⟨hRegions, hProvinces, hMunicipalities⟩
    exact ⟨fun r hr => hRegions r (h.regions.mem_iff.mp hr),
      fun p hp => hProvinces p (h.provinces.mem_iff.mp hp),
      fun m hm => hMunicipalities m (h.municipalities.mem_iff.mp hm)⟩

namespace Territory

variable {t : Territory} {k : Scope}

/-- A path names the identifiers of records. -/
theorem IsPath.hasPositiveIds (hk : t.IsPath k) (h : t.data.HasPositiveIds) :
    k.HasPositiveIds := by
  refine Scope.hasPositiveIds_iff.mpr ⟨fun id hId => ?_, fun id hId => ?_, fun id hId => ?_⟩
  · obtain ⟨r, hr, rfl⟩ := region?_isSome.mp (hk.region id hId)
    exact h.regions r hr
  · obtain ⟨p, hp, -⟩ := hk.province id hId
    obtain ⟨hMem, rfl⟩ := province?_eq_some hp
    exact h.provinces p hMem
  · obtain ⟨m, hm, -⟩ := hk.municipality id hId
    obtain ⟨hMem, rfl⟩ := municipality?_eq_some hm
    exact h.municipalities m hMem

/-- If the children of every path with positive identifiers have positive identifiers too, then so
do all records. -/
theorem hasPositiveIds_of_children (hWell : t.WellFormed)
    (hChildren : ∀ k, t.IsPath k → k.HasPositiveIds → ∀ child ∈ (t.below k).2,
      child.scope.HasPositiveIds) : t.data.HasPositiveIds := by
  -- level by level, since a record is listed below its parent only
  have hRegion : ∀ r ∈ t.regions,
      t.IsPath (.ofRegion r.id) ∧ (Scope.ofRegion r.id).HasPositiveIds := by
    intro r hr
    have hChild : ⟨.ofRegion r.id, r.id, r.name⟩ ∈ (t.below .root).2 := List.mem_map_of_mem hr
    exact ⟨IsPath.root.below hWell hChild,
      hChildren _ .root Scope.hasPositiveIds_root _ hChild⟩
  have hProvince : ∀ p ∈ t.provinces, t.IsPath ⟨some p.regionId, some p.id, none, none⟩ ∧
      (⟨some p.regionId, some p.id, none, none⟩ : Scope).HasPositiveIds := by
    intro p hp
    obtain ⟨r, hr, hAbove⟩ := hWell.region_of p hp
    obtain ⟨hPath, hPositive⟩ := hRegion r hr
    have hOf : p ∈ t.provincesOf r.id := List.mem_filter.mpr ⟨hp, decide_eq_true hAbove.symm⟩
    have hChild : ⟨⟨some r.id, some p.id, none, none⟩, p.id, p.name⟩ ∈
        (t.below (.ofRegion r.id)).2 := List.mem_map_of_mem hOf
    rw [← hAbove]
    exact ⟨hPath.below hWell hChild, hChildren _ hPath hPositive _ hChild⟩
  refine ⟨fun r hr => ?_, fun p hp => ?_, fun m hm => ?_⟩
  · exact (Scope.hasPositiveIds_iff.mp (hRegion r hr).2).1 r.id rfl
  · exact (Scope.hasPositiveIds_iff.mp (hProvince p hp).2).2.1 p.id rfl
  · obtain ⟨p, hp, hAbove⟩ := hWell.province_of m hm
    obtain ⟨hPath, hPositive⟩ := hProvince p hp
    have hOf : m ∈ t.municipalitiesOf p.id := List.mem_filter.mpr ⟨hm, decide_eq_true hAbove.symm⟩
    have hChild : ⟨⟨some p.regionId, some p.id, some m.id, none⟩, m.id, m.name⟩ ∈
        (t.below ⟨some p.regionId, some p.id, none, none⟩).2 := List.mem_map_of_mem hOf
    have hBelow := hChildren _ hPath hPositive _ hChild
    exact (Scope.hasPositiveIds_iff.mp hBelow).2.2 m.id rfl

end Territory

namespace Service

/-! ## What is sent -/

/-- Identifiers are refused for the first of them that is not positive. -/
theorem forM_checkId (xs : List (String × Int)) :
    xs.forM (fun x => checkId x.1 x.2) = match xs.find? (·.2 ≤ 0) with
      | none => .ok ()
      | some (field, id) => .error (.ofRule (.invalidIdentifier field id)) := by
  induction xs with
  | nil => rfl
  | cons x xs ih =>
    rw [List.forM, List.find?_cons, checkId, checkIdentifier]
    by_cases hRefused : x.2 ≤ 0
    · rw [if_pos hRefused, decide_eq_true hRefused]
      rfl
    · rw [if_neg hRefused, decide_eq_false hRefused]
      exact ih

/-- The identifiers of a scope are checked in order. -/
theorem checkScope_eq_forM {s : Scope} (hDistrict : s.district ≠ some 0) :
    checkScope s = (s.ids.forM fun x => checkId x.1 x.2) >>= fun _ => .ok s := by
  have hNumber : (s.district != some 0) = true := bne_iff_ne.mpr hDistrict
  obtain ⟨region, province, municipality, district⟩ := s
  rw [checkScope, hNumber]
  cases region <;> cases province <;> cases municipality <;>
    simp [Scope.ids, checkId?, require] <;> rfl

/-- **What is refused unseen.** A scope is refused for the first of its identifiers that is not
positive, if its district may be asked for at all. -/
theorem checkScope_eq {s : Scope} (hDistrict : s.district ≠ some 0) :
    checkScope s = match s.unacceptable? with
      | none => .ok s
      | some (field, id) => .error (.ofRule (.invalidIdentifier field id)) := by
  rw [checkScope_eq_forM hDistrict, forM_checkId, Scope.unacceptable?]
  cases s.ids.find? (·.2 ≤ 0) <;> rfl

/-- No path names a district with the number zero. -/
theorem district_ne_zero {t : Territory} {e : Engine Database} (h : e.Hosts t) {k : Scope}
    (hk : t.IsPath k) : k.district ≠ some 0 := by
  intro hZero
  cases hMunicipality : k.municipality with
  | none =>
    rw [hk.district hMunicipality] at hZero
    cases hZero
  | some id =>
    obtain ⟨_, -, -, hFound⟩ := hk.municipality id hMunicipality
    obtain ⟨x, hx, -, hNumber⟩ := Territory.district?_isSome.mp (hFound 0 hZero).2
    have hPositive := Database.Hosts.districts_positive h x hx
    omega

/-! ## Following a link -/

/-- Whether a scope that is sent back is answered: a request shows it as itself, and a navigator
that is refreshed there stands in it. -/
structure Follows (e : Engine Database) (k : Scope) : Prop where
  shown : ∃ v, (hierarchy k e).1 = .ok v ∧ v.scope = k
  refreshed : ∀ maxAutoSkip, ∃ n, (navigate k .refresh maxAutoSkip e).1 = .ok n ∧
    k.contains n.state.path

/-- Whether a scope that is sent back is refused without a look at the database. -/
def Refuses (e : Engine Database) (k : Scope) (error : ServiceError) : Prop :=
  hierarchy k e = (.error error, e) ∧
    ∀ maxAutoSkip, navigate k .refresh maxAutoSkip e = (.error error, e)

theorem Follows.not_refuses {e : Engine Database} {k : Scope} {error : ServiceError}
    (h : Follows e k) : ¬Refuses e k error := by
  rintro ⟨hRefused, -⟩
  obtain ⟨v, hShown, -⟩ := h.shown
  rw [hRefused] at hShown
  cases hShown

theorem navigate_of_accepted {path : Scope} (hAccepted : checkScope path = .ok path)
    (action : NavigationAction) (maxAutoSkip : Nat) :
    (navigate path action maxAutoSkip : Step Database Navigator) =
      run ((Navigator.startAt path maxAutoSkip).apply Engine.view action) := by
  rw [navigate, hAccepted]
  rfl

theorem refuses_of_error {k : Scope} {error : ServiceError} (hRefused : checkScope k = .error error)
    (e : Engine Database) : Refuses e k error := by
  refine ⟨?_, fun maxAutoSkip => ?_⟩
  · rw [hierarchy, hRefused]
    rfl
  · rw [navigate, hRefused]
    rfl

section Following

variable {t : Territory} {e : Engine Database} {k : Scope} (hHosts : e.Hosts t) (hk : t.IsPath k)
include hHosts hk

/-- **Paths that cannot be followed** are refused for the first identifier that is not positive. -/
theorem refuses_of_not_positive {field : String} {id : Int}
    (hUnacceptable : k.unacceptable? = some (field, id)) :
    Refuses e k (.ofRule (.invalidIdentifier field id)) := by
  refine refuses_of_error ?_ e
  rw [checkScope_eq (district_ne_zero hHosts hk), hUnacceptable]

/-- **Paths that can be followed** are those with positive identifiers. -/
theorem follows_iff : Follows e k ↔ k.HasPositiveIds := by
  constructor
  · intro hFollows
    rw [← Scope.unacceptable?_eq_none_iff, Option.eq_none_iff_forall_ne_some]
    rintro ⟨field, id⟩ hUnacceptable
    exact hFollows.not_refuses (refuses_of_not_positive hHosts hk hUnacceptable)
  · intro hPositive
    -- past the check, what is asked is asked of an engine that charts the territory
    have hAccepted : checkScope k = .ok k := by
      rw [checkScope_eq (district_ne_zero hHosts hk), Scope.unacceptable?_eq_none_iff.mpr hPositive]
    have hCharts := Engine.charts_hosted t
    have hAnswers := Engine.answers_hosted t
    refine ⟨?_, fun maxAutoSkip => ?_⟩
    · obtain ⟨v, e', hView, -, -, hScope⟩ := hCharts.shown hAnswers hk.resolve_eq hHosts
      exact ⟨v, hierarchy_eq_ok.mpr ⟨hAccepted, by rw [hView]⟩, hScope⟩
    · obtain ⟨n, e', hRefresh, hReached⟩ := hCharts.exists_refresh hHosts.wellFormed hAnswers
        (n := .startAt k maxAutoSkip) hk.resolve_eq hHosts
      refine ⟨n, ?_, hReached.inside⟩
      rw [navigate_of_accepted hAccepted, run, Action.mapError, Navigator.apply, hRefresh]

end Following

/-! ## Links of all answers -/

/-- Whether some request is answered with a link. -/
def HandsOut (e : Engine Database) (k : Scope) : Prop :=
  ∃ (c : Call) (reply : Reply), (c.run e).1 = .ok reply ∧ k ∈ reply.links

/-- What is handed out is a path. -/
theorem HandsOut.isPath {t : Territory} {e : Engine Database} (hHosts : e.Hosts t) {k : Scope}
    (h : HandsOut e k) : t.IsPath k := by
  obtain ⟨⟨maxAutoSkip, stop, request⟩, reply, hReply, hk⟩ := h
  by_cases hLoad : ∃ text, request = .loadFixture text
  · obtain ⟨text, rfl⟩ := hLoad
    rw [Call.run, handle_loadFixture] at hReply
    -- what answers a load names no scope
    obtain ⟨d, -, rfl⟩ := map_eq_ok.mp hReply
    exact (List.not_mem_nil hk).elim
  · have hNoLoad : ∀ text, request ≠ .loadFixture text := fun text hText => hLoad ⟨text, hText⟩
    exact (ensures_handle hHosts.wellFormed hNoLoad maxAutoSkip stop e hHosts).2 reply hReply k hk

/-- The children of a path that can be followed are handed out. -/
theorem Follows.handsOut {t : Territory} {e : Engine Database} (hHosts : e.Hosts t) {k : Scope}
    (h : Follows e k) {child : Territory.Child} (hChild : child ∈ (t.below k).2) :
    HandsOut e child.scope := by
  obtain ⟨v, hShown, rfl⟩ := h.shown
  have hFaithful : v.IsFaithful t := (ensures_hierarchy v.scope e hHosts).2 v hShown
  refine ⟨⟨0, none, .hierarchy v.scope⟩, .view v, ?_, ?_⟩
  · change ((hierarchy v.scope >>= fun v => pure (Reply.view v)) e).1 = _
    rw [Action.bind_pure_apply, hShown]
    rfl
  · refine List.mem_cons_of_mem _ (List.mem_append_left _ ?_)
    rw [hFaithful.scopes]
    exact List.mem_map_of_mem hChild

/-- **All links** can be followed exactly if all identifiers are positive. -/
theorem forall_follows_iff {t : Territory} {e : Engine Database} (hHosts : e.Hosts t) :
    (∀ k, HandsOut e k → Follows e k) ↔ t.data.HasPositiveIds := by
  constructor
  · intro hAll
    -- from the root on, what is listed is handed out
    refine Territory.hasPositiveIds_of_children hHosts.wellFormed ?_
    intro k hk hPositive child hChild
    have hFollows : Follows e k := (follows_iff hHosts hk).mpr hPositive
    have hPath := hk.below hHosts.wellFormed hChild
    exact (follows_iff hHosts hPath).mp (hAll _ (hFollows.handsOut hHosts hChild))
  · intro hPositive k hOut
    have hPath := hOut.isPath hHosts
    exact (follows_iff hHosts hPath).mpr (hPath.hasPositiveIds hPositive)

/-- A load that is answered is a load of the database. -/
theorem seed_of_loadFixture {text : String} {d : ReferenceData} {e e' : Engine Database}
    (h : loadFixture text e = (.ok d, e')) :
    Database.seed d e.repository = (.ok (), e'.repository) := by
  rw [loadFixture] at h
  cases hText : ReferenceData.ofText? text with
  | none =>
    rw [hText] at h
    cases h
  | some data =>
    rw [hText] at h
    dsimp only at h
    rcases hSeed : Database.seed data e.repository with ⟨answer, db⟩
    rw [hSeed] at h
    cases answer with
    | error reason => cases h
    | ok u =>
      cases h
      exact hSeed

/-- **Links are followed.** Reference data is loaded into an empty database, and other things happen
then and afterwards. A scope that some answer names can be sent back, to be shown as itself and to
be navigated, exactly if the identifiers that it names are positive; otherwise it is refused for the
first one that is not. So all links can be followed exactly if all identifiers stored are positive,
and these are the ones loaded, unless there were none. -/
theorem links_followed {text : String} {d : ReferenceData} {e₀ : Engine Database}
    (hLoad : loadFixture text (Engine.start .empty) = (.ok d, e₀)) (before : List Deed) :
    let e := after e₀ before
    (∀ k, HandsOut e k → ∀ later,
      (Follows (after e later) k ↔ k.HasPositiveIds) ∧
      ∀ field id, k.unacceptable? = some (field, id) →
        Refuses (after e later) k (.ofRule (.invalidIdentifier field id))) ∧
    ((∀ k, HandsOut e k → Follows e k) ↔
      ∃ data, e.repository.territoryData = .ok data ∧ data.HasPositiveIds) ∧
    (d.territory.regions ≠ [] →
      ((∀ k, HandsOut e k → Follows e k) ↔ d.territory.HasPositiveIds)) := by
  intro e
  have hSeed : Database.seed d .empty = (.ok (), e₀.repository) := seed_of_loadFixture hLoad
  have hReachable : Database.Reachable (Database.seed d .empty).2 := .seed d .empty
  obtain ⟨t₀, hFirst⟩ := hReachable.hosts
  rw [hSeed] at hFirst
  obtain ⟨t, hHosts, hSame⟩ := after_hosts (e := e₀) hFirst before
  refine ⟨fun k hOut later => ?_, ?_, fun hRegions => ?_⟩
  · -- a link is a path when it is handed out, and remains one
    obtain ⟨t', hLater, hLasts⟩ := after_hosts hHosts later
    have hPath : t'.IsPath k := (hOut.isPath hHosts).lasts hLasts
    exact ⟨follows_iff hLater hPath, fun field id => refuses_of_not_positive hLater hPath⟩
  · rw [forall_follows_iff hHosts]
    obtain ⟨data, hData, rfl⟩ := hHosts.data
    rw [(Territory.sameRecords_given data).hasPositiveIds_iff]
    refine ⟨fun hPositive => ⟨data, hData, hPositive⟩, ?_⟩
    rintro ⟨data', hData', hPositive⟩
    rwa [Except.ok.inj (hData.symm.trans hData')]
  · -- what was loaded is still there, in the order of display
    have hBlank : Database.empty.IsBlank := rfl
    obtain ⟨-, hRestores⟩ := hBlank.restores_of_seed (d := d) (by rw [hSeed])
    rw [hSeed] at hRestores
    obtain ⟨data, hData, hRecords, -⟩ := hRestores.territory
    obtain ⟨data', hData', rfl⟩ := hFirst.data
    obtain rfl := Except.ok.inj (hData.symm.trans hData')
    have hShown := Territory.sameRecords_given data
    obtain rfl : t = .ofData data := by
      refine hSame.resolve_right fun hNone => hRegions ?_
      have hAll := hShown.regions.trans hRecords.regions
      exact List.nil_perm.mp (hNone ▸ hAll)
    rw [forall_follows_iff hHosts, hShown.hasPositiveIds_iff, hRecords.hasPositiveIds_iff]

/-! ## A region with the identifier zero -/

/-- The text of two regions, one of which has the identifier zero. -/
def twoRegions : String :=
  "\x7b\"regions\":[\x7b\"id\":1,\"name\":\"Lazio\"\x7d,\x7b\"id\":0,\"name\":\"Umbria\"\x7d]," ++
  "\"provinces\":[],\"municipalities\":[],\"districts\":[],\"sections\":[]\x7d"

/-- The data of that text. -/
def twoRegionsData : ReferenceData where
  territory :=
    { regions := [⟨1, "Lazio"⟩, ⟨0, "Umbria"⟩]
      provinces := []
      municipalities := []
      districts := []
      sections := [] }
  representatives := []

/-- An engine that has loaded them. -/
def twoRegionsEngine : Engine Database := .start (Database.seed twoRegionsData .empty).2

theorem loadFixture_twoRegions :
    loadFixture twoRegions (Engine.start .empty) = (.ok twoRegionsData, twoRegionsEngine) :=
  loadFixture_of_taken (by decide +kernel) rfl

/-- Both regions are listed below the root. -/
theorem handsOut_twoRegions (id : Int) (h : id = 0 ∨ id = 1) :
    HandsOut twoRegionsEngine (.ofRegion id) := by
  obtain ⟨v, hView, hLinks⟩ : ∃ v, ((⟨0, none, .hierarchy .root⟩ : Call).run twoRegionsEngine).1 =
      .ok (.view v) ∧ v.links = [.root, .ofRegion 1, .ofRegion 0, .root] := ⟨_, rfl, by decide⟩
  refine ⟨_, _, hView, ?_⟩
  change Scope.ofRegion id ∈ v.links
  rw [hLinks]
  rcases h with rfl | rfl <;> decide

/-- **A region that cannot be followed.** It is listed, and refused when it is asked for. -/
theorem zero_is_listed_and_refused :
    loadFixture twoRegions (Engine.start .empty) = (.ok twoRegionsData, twoRegionsEngine) ∧
      HandsOut twoRegionsEngine (.ofRegion 0) ∧
      (hierarchy (.ofRegion 0) twoRegionsEngine).1 =
        .error (.invalidInput "region_id" "Identifier must be positive, got 0") ∧
      ¬Follows twoRegionsEngine (.ofRegion 0) := by
  have hRefused : Refuses twoRegionsEngine (.ofRegion 0)
      (.invalidInput "region_id" "Identifier must be positive, got 0") :=
    refuses_of_error rfl _
  exact ⟨loadFixture_twoRegions, handsOut_twoRegions 0 (.inl rfl), congrArg Prod.fst hRefused.1,
    fun hFollows => hFollows.not_refuses hRefused⟩

/-- The other region is shown, also after a restart and a second load. -/
theorem links_followed_twoRegions :
    loadFixture twoRegions (Engine.start .empty) = (.ok twoRegionsData, twoRegionsEngine) ∧
      Follows (after twoRegionsEngine [.restart, .request ⟨8, none, .loadFixture twiceListed⟩])
        (.ofRegion 1) ∧
      ¬∀ k, HandsOut twoRegionsEngine k → Follows twoRegionsEngine k := by
  obtain ⟨hLinks, -, hAll⟩ := links_followed loadFixture_twoRegions []
  have hRegions : twoRegionsData.territory.regions ≠ [] := List.cons_ne_nil _ _
  have hOne : (Scope.ofRegion 1).HasPositiveIds := by decide
  refine ⟨loadFixture_twoRegions, ?_, fun hFollows => ?_⟩
  · exact (hLinks _ (handsOut_twoRegions 1 (.inr rfl)) _).1.mpr hOne
  · have hZero := ((hAll hRegions).mp hFollows).regions ⟨0, "Umbria"⟩ (by decide)
    exact absurd hZero (by decide)

end Service

end PollRoster
