import PollRoster.Proofs.Charting
import PollRoster.Proofs.Engine

/-!
# Going back up

A step back climbs over the ancestors of the path as it is given, while every view on the way shows
what its scope leads to. A path that names all its components is climbed level by level. One that
leaves some out skips the levels that it does not name, and so may miss the nearest one where there
is a choice.

Main results:

* `Scope.ancestors_eq_cuts`, `Territory.resolve_ancestors` — what the ancestors of a scope lead to.
* `Territory.landing_filter` — when the levels that are left out make no difference.
* `Charts.climb_lands` — where a climb ends, by induction on what is left to climb.
* `back_lands` — where a step back ends, over an engine.
-/

namespace PollRoster

/-! ## Scopes as they are given -/

namespace Scope

variable {s : Scope}

/-- Whether a scope names its component at a depth. At depth zero there is none to be named. -/
def names (s : Scope) : Nat → Bool
  | 0 => true
  | 1 => s.region.isSome
  | 2 => s.province.isSome
  | 3 => s.municipality.isSome
  | 4 => s.district.isSome
  | _ => false

/-- The depths above its own at which a scope names something, deepest first. -/
def depthsAbove (s : Scope) : List Nat := [3, 2, 1, 0].filter fun n => n < s.depth && s.names n

/-- **Ancestors** are what is left of a scope when it is cut off at the depths that it names. -/
theorem ancestors_eq_cuts (s : Scope) : s.ancestors = s.depthsAbove.map s.upTo := by
  have hDistrict : ∀ r v m d, (⟨r, v, m, some d⟩ : Scope).ancestors =
      ⟨r, v, m, none⟩ :: (⟨r, v, m, none⟩ : Scope).ancestors :=
    fun _ _ _ _ => ancestors_of_parent? rfl
  have hMunicipality : ∀ r v m, (⟨r, v, some m, none⟩ : Scope).ancestors =
      ⟨r, v, none, none⟩ :: (⟨r, v, none, none⟩ : Scope).ancestors :=
    fun _ _ _ => ancestors_of_parent? rfl
  have hProvince : ∀ r v, (⟨r, some v, none, none⟩ : Scope).ancestors =
      ⟨r, none, none, none⟩ :: (⟨r, none, none, none⟩ : Scope).ancestors :=
    fun _ _ => ancestors_of_parent? rfl
  -- by which of the four components are set
  obtain ⟨r, v, m, d⟩ := s
  cases d <;> cases m <;> cases v <;> cases r <;>
    simp [hDistrict, hMunicipality, hProvince, depthsAbove, depth, names, upTo, root]

/-- Below the root the last ancestor is the root. -/
theorem depthsAbove_eq_concat (h : s.depth ≠ 0) :
    s.depthsAbove = ([3, 2, 1].filter fun n => n < s.depth && s.names n) ++ [0] := by
  have hZero : (decide (0 < s.depth) && s.names 0) = true := by
    rw [decide_eq_true (Nat.pos_of_ne_zero h)]
    rfl
  have hSplit : ([3, 2, 1, 0] : List Nat) = [3, 2, 1] ++ [0] := rfl
  rw [depthsAbove, hSplit, List.filter_append, List.filter_singleton, hZero]
  rfl

/-- Without gaps a scope names what lies above its depth, and nothing else. -/
theorem Gapless.names_iff (hs : s.Gapless) {n : Nat} : s.names n ↔ n ≤ s.depth := by
  match n with
  | 0 | 1 | 2 | 3 | 4 => cases hs <;> simp [depth, names]
  | n + 5 =>
    have hFour : s.depth ≤ 4 := hs.depth_le
    exact iff_of_false Bool.false_ne_true (by omega)

theorem Gapless.depth_upTo (hs : s.Gapless) {n : Nat} (h : n ≤ s.depth) : (s.upTo n).depth = n := by
  match n, h with
  | 0, h | 1, h | 2, h | 3, h | 4, h => cases hs <;> simp_all [depth, upTo]
  | n + 5, h =>
    have hFour : s.depth ≤ 4 := hs.depth_le
    omega

theorem upTo_contains_upTo {p q : Scope} (h : p.contains q) (n : Nat) :
    (p.upTo n).contains (q.upTo n) := by
  simp only [contains, upTo, Bool.and_eq_true] at h ⊢
  obtain ⟨⟨⟨hRegion, hProvince⟩, hMunicipality⟩, hDistrict⟩ := h
  split_ifs <;> simp [*]

theorem depth_lt_of_mem_ancestors {k : Scope} (h : k ∈ s.ancestors) : k.depth < s.depth := by
  induction s using ancestors.induct with
  | case1 s hNone =>
    rw [ancestors_of_parent?_eq_none hNone] at h
    cases h
  | case2 s s' hSome ih =>
    have hLess : s'.depth < s.depth := depth_of_parent? hSome
    rw [ancestors_of_parent? hSome, List.mem_cons] at h
    rcases h with rfl | h
    · exact hLess
    · have hRest := ih h
      omega

end Scope

/-! ## What the ancestors lead to -/

namespace Territory

variable {t : Territory} {p q : Scope}

/-- Filling components in changes none that is named. -/
theorem province_of_resolve (h : t.resolve p = .ok q) (hNamed : p.province.isSome) :
    q.province = p.province := by
  have hContains := contains_of_resolve h
  simp only [Scope.contains, Bool.and_eq_true] at hContains
  obtain ⟨v, hv⟩ := Option.isSome_iff_exists.mp hNamed
  rw [hv] at hContains ⊢
  exact Scope.covers_some.mp hContains.1.1.2

theorem region_of_resolve (h : t.resolve p = .ok q) (hNamed : p.region.isSome) :
    q.region = p.region := by
  have hContains := contains_of_resolve h
  simp only [Scope.contains, Bool.and_eq_true] at hContains
  obtain ⟨r, hr⟩ := Option.isSome_iff_exists.mp hNamed
  rw [hr] at hContains ⊢
  exact Scope.covers_some.mp hContains.1.1.1

/-- A path names whatever is named by a scope that leads to it. -/
theorem names_of_resolve (h : t.resolve p = .ok q) {n : Nat} (hNames : p.names n) : q.names n := by
  match n, hNames with
  | 0, _ => rfl
  | 1, hNames =>
    rw [Scope.names, region_of_resolve h hNames]
    exact hNames
  | 2, hNames =>
    rw [Scope.names, province_of_resolve h hNames]
    exact hNames
  | 3, hNames =>
    rw [Scope.names, municipality_of_resolve h]
    exact hNames
  | 4, hNames =>
    rw [Scope.names, district_of_resolve h]
    exact hNames

/-- Filling components in leaves the deepest one where it is. -/
theorem depth_of_resolve (h : t.resolve p = .ok q) : q.depth = p.depth := by
  obtain ⟨hProvince, hRegion, -, -⟩ := resolve_eq_ok h
  rw [Scope.depth, Scope.depth, municipality_of_resolve h, district_of_resolve h]
  -- a component is filled in only above one that is given
  rcases resolveMunicipality_eq_ok hProvince with ⟨hNone, hNoDistrict, hSame⟩ | ⟨m, _, hSome, -⟩
  · rw [hNone, hNoDistrict, hSame]
    rcases resolveProvince_eq_ok hRegion with ⟨hNoProvince, hSameRegion⟩ | ⟨v, _, hProvinceSome, -⟩
    · rw [hSameRegion]
    · rw [← hSame, hProvinceSome]
      rfl
  · rw [hSome]
    rfl

/-- Cut off at a depth that it names, a scope leads to its path cut off there. -/
theorem resolve_upTo (h : t.resolve p = .ok q) {n : Nat} (hNames : p.names n) :
    t.resolve (p.upTo n) = .ok (q.upTo n) := by
  have hq : t.IsPath q := resolve_isPath h
  -- what the path has down to this depth is all there
  have hReached : n ≤ q.depth := hq.gapless.names_iff.mp (names_of_resolve h hNames)
  have hNamed : ∀ m ≤ n, q.names m :=
    fun m hm => hq.gapless.names_iff.mpr (Nat.le_trans hm hReached)
  refine (hq.upTo n).resolve_of_contains
    (Scope.upTo_contains_upTo (contains_of_resolve h) n) ?_ ?_ ?_ ?_
  · rw [Scope.upTo, Scope.upTo, municipality_of_resolve h]
  · rw [Scope.upTo, Scope.upTo, district_of_resolve h]
  -- without a municipality the cut is at the province, which is named, or above it
  · intro hNone
    rcases n with _ | _ | _ | n
    · rfl
    · rfl
    · exact (province_of_resolve h hNames).symm
    · have hSome : q.municipality.isSome := hNamed 3 (Nat.le_add_left 3 n)
      rw [Scope.upTo, if_pos (Nat.le_add_left 3 n)] at hNone
      rw [hNone] at hSome
      cases hSome
  · intro hNone
    rcases n with _ | _ | n
    · rfl
    · exact (region_of_resolve h hNames).symm
    · have hSome : q.province.isSome := hNamed 2 (Nat.le_add_left 2 n)
      rw [Scope.upTo, if_pos (Nat.le_add_left 2 n)] at hNone
      rw [hNone] at hSome
      cases hSome

/-- The ancestors of a path whose depth a scope names are its cuts at the depths that the scope
names. -/
theorem filter_ancestors (h : t.resolve p = .ok q) :
    (q.ancestors.filter fun k => p.names k.depth) = p.depthsAbove.map q.upTo := by
  have hq := (resolve_isPath h).gapless
  have hDepth : q.depth = p.depth := depth_of_resolve h
  have hNamed : q.depthsAbove.filter (fun n => p.names (q.upTo n).depth) = p.depthsAbove := by
    rw [Scope.depthsAbove, Scope.depthsAbove, List.filter_filter]
    refine List.filter_congr fun n _ => ?_
    rw [← hDepth]
    -- above its own depth a path names everything
    by_cases hAbove : n < q.depth
    · rw [hq.depth_upTo (by omega), hq.names_iff.mpr (by omega), decide_eq_true hAbove]
      simp
    · rw [decide_eq_false hAbove]
      simp
  rw [q.ancestors_eq_cuts, List.filter_map, ← hNamed]
  rfl

/-- A path names every level above it. -/
theorem IsPath.filter_ancestors (hq : t.IsPath q) :
    (q.ancestors.filter fun k => q.names k.depth) = q.ancestors := by
  rw [List.filter_eq_self]
  intro k hk
  exact hq.gapless.names_iff.mpr (Nat.le_of_lt (Scope.depth_lt_of_mem_ancestors hk))

/-- **Ancestors of a scope** lead to those ancestors of its path whose depth the scope names. -/
theorem resolve_ancestors (h : t.resolve p = .ok q) :
    List.Forall₂ (fun a k => t.resolve a = .ok k) p.ancestors
      (q.ancestors.filter fun k => p.names k.depth) := by
  rw [filter_ancestors h, p.ancestors_eq_cuts, List.forall₂_map_left_iff,
    List.forall₂_map_right_iff, List.forall₂_same]
  intro n hn
  have hNames := (List.mem_filter.mp hn).2
  rw [Bool.and_eq_true] at hNames
  exact resolve_upTo h hNames.2

/-- The last of them is the root, unless the scope leads to the root itself. -/
theorem getLast?_filter_ancestors (h : t.resolve p = .ok q) (hBelow : q ≠ .root) :
    (q.ancestors.filter fun k => p.names k.depth).getLast? = some .root := by
  have hDeep : p.depth ≠ 0 := by
    rw [← depth_of_resolve h]
    intro hZero
    cases (resolve_isPath h).gapless with
    | root => exact hBelow rfl
    | region | province | municipality | district => exact nomatch hZero
  rw [filter_ancestors h, Scope.depthsAbove_eq_concat hDeep, List.map_append]
  exact List.getLast?_concat

/-! ## Where there is a choice -/

/-- Whether there is exactly one child below a path. -/
def hasSoleChild (t : Territory) (k : Scope) : Bool := (t.below k).2.length = 1

/-- The first of these paths that has not a single child; the root if each of them has. -/
def landing (t : Territory) (ks : List Scope) : Scope :=
  (ks.find? fun k => !t.hasSoleChild k).getD .root

theorem landing_cons (t : Territory) (k : Scope) (ks : List Scope) :
    t.landing (k :: ks) = if t.hasSoleChild k then t.landing ks else k := by
  rw [landing, List.find?_cons]
  cases t.hasSoleChild k <;> rfl

/-- What is shared by all the paths and the root is shared by where they land. -/
theorem landing_of_forall {P : Scope → Prop} (hRoot : P .root) {ks : List Scope}
    (h : ∀ k ∈ ks, P k) : P (t.landing ks) := by
  induction ks with
  | nil => exact hRoot
  | cons k ks ih =>
    obtain ⟨hFirst, hRest⟩ := List.forall_mem_cons.mp h
    rw [landing_cons]
    split
    · exact ih hRest
    · exact hFirst

/-- **Leaving paths out** makes no difference exactly if the landing is not among them. -/
theorem landing_filter (keep : Scope → Bool) (hRoot : keep .root) (ks : List Scope) :
    t.landing (ks.filter keep) = t.landing ks ↔ keep (t.landing ks) := by
  induction ks with
  | nil => exact iff_of_true rfl hRoot
  | cons k ks ih =>
    rw [landing_cons]
    cases hSole : t.hasSoleChild k with
    | true =>
      rw [if_pos rfl, ← ih]
      cases hKeep : keep k with
      | true => rw [List.filter_cons_of_pos hKeep, landing_cons, hSole, if_pos rfl]
      | false => rw [List.filter_cons_of_neg (by rw [hKeep]; exact Bool.false_ne_true)]
    | false =>
      rw [if_neg Bool.false_ne_true]
      cases hKeep : keep k with
      | true =>
        rw [List.filter_cons_of_pos hKeep, landing_cons, hSole, if_neg Bool.false_ne_true]
        exact iff_of_true rfl rfl
      | false =>
        -- what was left out is not landed on
        rw [List.filter_cons_of_neg (by rw [hKeep]; exact Bool.false_ne_true)]
        refine iff_of_false (fun hEq => ?_) Bool.false_ne_true
        have hKept : keep (t.landing (ks.filter keep)) :=
          landing_of_forall (P := fun k => keep k) hRoot fun k hk => (List.mem_filter.mp hk).2
        rw [hEq, hKeep] at hKept
        exact Bool.false_ne_true hKept

end Territory

/-- A view is passed over exactly if its path has a single child. -/
theorem View.IsFaithful.autoSkip_eq {t : Territory} {v : View} (h : v.IsFaithful t) :
    v.autoSkip = t.hasSoleChild v.scope := by
  rw [h.autoSkip, Territory.hasSoleChild]
  by_cases hLast : v.level = .sectionList
  · have hNone : (t.below v.scope).2 = [] :=
      Territory.below_of_sectionList (h.level.symm.trans hLast)
    rw [hLast, hNone]
    rfl
  · have hContent := h.content
    rw [if_neg hLast] at hContent
    obtain ⟨ns, hns⟩ := hContent
    have hSize : v.content.size = (t.below v.scope).2.length := by
      have hScopes := congrArg List.length h.scopes
      rw [List.length_map, List.length_map] at hScopes
      rw [← hScopes, hns]
      rfl
    rw [hSize, decide_eq_true hLast, Bool.true_and]

/-! ## Climbing -/

namespace Navigator

variable {t : Territory} {I : σ → Prop} {source : ViewSource σ} {p q k : Scope}

/-- Whether a source shows every scope that leads to a path, as long as `I` holds. -/
def Answers (t : Territory) (I : σ → Prop) (source : ViewSource σ) : Prop :=
  ∀ scope k, t.resolve scope = .ok k → ∀ c, I c → ∃ v c', source scope c = (.ok v, c')

section Charts

variable (hCharts : Charts t I source) (hAnswers : Answers t I source)
include hCharts hAnswers

/-- A scope that leads to a path is shown as the path. -/
theorem Charts.shown (hResolve : t.resolve p = .ok k) {c : σ} (hI : I c) :
    ∃ v c', source p c = (.ok v, c') ∧ I c' ∧ v.IsFaithful t ∧ v.scope = k := by
  obtain ⟨v, c', hView⟩ := hAnswers p k hResolve c hI
  obtain ⟨hKept, hShown⟩ := hCharts p c hI
  rw [hView] at hKept hShown
  obtain ⟨hScope, hFaithful⟩ := hShown v rfl
  exact ⟨v, c', hView, hKept, hFaithful, Except.ok.inj (hScope.symm.trans hResolve)⟩

/-- **Climbing** over scopes of which the last one is the root ends at the first path that has not a
single child. -/
theorem Charts.climb_lands {above ks : List Scope} (hPath : t.resolve p = .ok k)
    (hAbove : List.Forall₂ (fun a k => t.resolve a = .ok k) above ks)
    (hRoot : (k :: ks).getLast? = some .root) {c : σ} (hI : I c) :
    ∃ v c', climb source p above c = (.ok v, c') ∧ v.IsFaithful t ∧
      v.scope = t.landing (k :: ks) := by
  -- along the scopes that are left to climb
  induction hAbove generalizing p k c with
  | nil =>
    obtain ⟨v, c', hView, -, hFaithful, hScope⟩ := hCharts.shown hAnswers hPath hI
    obtain rfl : k = .root := Option.some.inj hRoot
    refine ⟨v, c', hView, hFaithful, ?_⟩
    rw [hScope, Territory.landing_cons]
    split <;> rfl
  | @cons a k' above ks hNext hRest ih =>
    obtain ⟨v, c₁, hView, hKept, hFaithful, hScope⟩ := hCharts.shown hAnswers hPath hI
    have hSkip : v.autoSkip = t.hasSoleChild k := by rw [hFaithful.autoSkip_eq, hScope]
    rw [climb, Action.bind_of_ok hView, hSkip, Territory.landing_cons]
    cases t.hasSoleChild k with
    | true =>
      have hLast : (k' :: ks).getLast? = some .root := by rwa [List.getLast?_cons_cons] at hRoot
      exact ih hNext hLast hKept
    | false => exact ⟨v, c₁, rfl, hFaithful, hScope⟩

/-- **Going back** from a scope below the root succeeds, and lands among those levels above its path
that the scope names. -/
theorem Charts.back?_lands {n : Navigator} (hResolve : t.resolve n.state.path = .ok q)
    (hBelow : q ≠ .root) {c : σ} (hI : I c) :
    ∃ v c', back? source n c = (.ok (some (n.showing v)), c') ∧ v.IsFaithful t ∧
      v.scope = t.landing (q.ancestors.filter fun k => n.state.path.names k.depth) := by
  have hClimb := Territory.resolve_ancestors hResolve
  have hRoot := Territory.getLast?_filter_ancestors hResolve hBelow
  rw [back?]
  -- below the root there is a way back, since the root is at its end
  cases hAncestors : n.state.path.ancestors with
  | nil =>
    rw [hAncestors, List.forall₂_nil_left_iff] at hClimb
    rw [hClimb] at hRoot
    cases hRoot
  | cons a above =>
    rw [hAncestors] at hClimb
    obtain ⟨k, ks, hFirst, hRest, hPaths⟩ := List.forall₂_cons_left_iff.mp hClimb
    rw [hPaths] at hRoot ⊢
    obtain ⟨v, c', hView, hFaithful, hScope⟩ := hCharts.climb_lands hAnswers hFirst hRest hRoot hI
    exact ⟨v, c', Action.bind_of_ok hView _, hFaithful, hScope⟩

end Charts

/-! ## Over an engine -/

section Engine

variable {ρ : Type} [Repository ρ] {t : Territory}

/-- Whether an engine rests on a repository that keeps a ledger of a territory. -/
def RestsOn (t : Territory) (e : Engine ρ) : Prop :=
  ∃ l : Ledger, l.IsKeptBy e.repository ∧ l.territory = t

theorem engine_charts_kept (t : Territory) :
    Charts t (RestsOn t) (Engine.view : ViewSource (Engine ρ)) := by
  intro scope e hRests
  obtain ⟨l, hKept, rfl⟩ := hRests
  rw [Engine.view_of_kept hKept]
  refine ⟨⟨l, hKept, rfl⟩, fun v hv => ?_⟩
  exact ⟨(Snapshot.scope_of_view hv).1, Snapshot.isFaithful_of_view hv⟩

theorem engine_answers (t : Territory) :
    Answers t (RestsOn t) (Engine.view : ViewSource (Engine ρ)) := by
  intro scope k hResolve e hRests
  obtain ⟨l, hKept, rfl⟩ := hRests
  obtain ⟨v, hView⟩ := Snapshot.exists_view (s := l.snapshot) hResolve e.cache
  have hShown := Engine.view_of_kept hKept scope
  rw [hView] at hShown
  exact ⟨v, _, hShown⟩

/-- **Where a step back ends.** Over an engine of any kind, from a scope that leads to a path below
the root, a step back succeeds. It lands on the nearest level above the path where there is a
choice, of those that the scope names, or on the root if there is none. This is the nearest one of
all exactly if the scope names it, and so whenever the scope is a path itself. -/
theorem back_lands {e : Engine ρ} {l : Ledger} (hKept : l.IsKeptBy e.repository) {n : Navigator}
    {q : Scope} (hResolve : l.territory.resolve n.state.path = .ok q) (hBelow : q ≠ .root) :
    ∃ n' e', n.back? Engine.view e = (.ok (some n'), e') ∧ n'.Stands l.territory ∧
      n'.maxAutoSkip = n.maxAutoSkip ∧
      n'.state.path =
        l.territory.landing (q.ancestors.filter fun k => n.state.path.names k.depth) ∧
      (n'.state.path = l.territory.landing q.ancestors ↔
        n.state.path.names (l.territory.landing q.ancestors).depth) ∧
      (n.state.path = q → n'.state.path = l.territory.landing q.ancestors) := by
  have hRests : RestsOn l.territory e := ⟨l, hKept, rfl⟩
  obtain ⟨v, e', hBack, hFaithful, hScope⟩ :=
    (engine_charts_kept l.territory).back?_lands (engine_answers l.territory) hResolve hBelow hRests
  have hLands : v.scope = l.territory.landing q.ancestors ↔
      n.state.path.names (l.territory.landing q.ancestors).depth := by
    rw [hScope]
    exact Territory.landing_filter (fun k => n.state.path.names k.depth) rfl q.ancestors
  refine ⟨n.showing v, e', hBack, stands_showing n hFaithful, rfl, hScope, hLands, fun hPath => ?_⟩
  -- a path names every level above it
  have hq := (Territory.resolve_isPath hResolve).gapless
  refine hLands.mpr ?_
  rw [hPath]
  exact Territory.landing_of_forall (P := fun k => q.names k.depth) rfl
    fun k hk => hq.names_iff.mpr (Nat.le_of_lt (Scope.depth_lt_of_mem_ancestors hk))

end Engine

end Navigator

/-! ## A stretch of coast -/

/-- A province with two municipalities, one of them with a single district. -/
def Territory.coast : Territory :=
  .ofData
    { regions := [⟨1, "Lazio"⟩]
      provinces := [⟨1, 1, "Roma", "RM"⟩]
      municipalities := [⟨1, 1, "Ardea", true⟩, ⟨2, 1, "Nemi", false⟩]
      districts := [⟨1, 1, "Centro"⟩]
      sections := [⟨1, 1, "Scuola", "Via Roma 1", 1, some 1, true, 500⟩] }

namespace Navigator

/-- An engine over the coast in memory. -/
def coastEngine : Engine Ledger := .start (.start .coast [])

/-- The path of the only district. -/
def coastDistrict : Scope := ⟨some 1, some 1, some 1, some 1⟩

/-- From the district, given without its region, the way back leads past the municipality to the
province. -/
theorem back_lands_coast :
    Territory.coast.resolve ⟨none, some 1, some 1, some 1⟩ = .ok coastDistrict ∧
    coastDistrict ≠ .root ∧
    ∃ n e, (startAt ⟨none, some 1, some 1, some 1⟩ 8).back? Engine.view coastEngine =
        (.ok (some n), e) ∧ n.state.path = ⟨some 1, some 1, none, none⟩ := by
  have hResolve : Territory.coast.resolve ⟨none, some 1, some 1, some 1⟩ = .ok coastDistrict := by
    rfl
  have hBelow : coastDistrict ≠ .root := by decide
  have hLanding : Territory.coast.landing coastDistrict.ancestors =
      ⟨some 1, some 1, none, none⟩ := by
    rw [Scope.ancestors_eq_cuts]
    rfl
  obtain ⟨n, e, hBack, -, -, -, hLands, -⟩ := back_lands (e := coastEngine)
    (n := startAt ⟨none, some 1, some 1, some 1⟩ 8) (Ledger.isKeptBy_self _) hResolve hBelow
  rw [show coastEngine.repository.territory = .coast from rfl, hLanding] at hLands
  exact ⟨hResolve, hBelow, n, e, hBack, hLands.mpr rfl⟩

/-- **Overshooting.** Given by its municipality and number alone, the same district is left for the
root, which would lead straight down again, although the province lies between them and offers a
choice. From the path that the scope leads to, the step back does land there. -/
theorem back_overshoots :
    Territory.coast.validate = .ok () ∧ Territory.coast.HasDistinctDistricts ∧
    Territory.coast.resolve (.ofPlace 1 (some 1)) = .ok coastDistrict ∧ coastDistrict ≠ .root ∧
    Territory.coast.landing coastDistrict.ancestors = ⟨some 1, some 1, none, none⟩ ∧
    (∃ n e, (startAt (.ofPlace 1 (some 1)) 8).back? Engine.view coastEngine = (.ok (some n), e) ∧
      n.state.path = .root ∧ n.view.map View.autoSkip = some true) ∧
    ∃ n e, (startAt coastDistrict 8).back? Engine.view coastEngine = (.ok (some n), e) ∧
      n.state.path = ⟨some 1, some 1, none, none⟩ ∧ n.view.map View.autoSkip = some false := by
  have hDistinct : Territory.coast.HasDistinctDistricts := by
    rw [Territory.HasDistinctDistricts]
    decide
  have hLanding : Territory.coast.landing coastDistrict.ancestors =
      ⟨some 1, some 1, none, none⟩ := by
    rw [Scope.ancestors_eq_cuts]
    rfl
  have hPartial : (startAt (.ofPlace 1 (some 1)) 8).state.path.ancestors =
      [.ofMunicipality 1, .root] := by
    rw [Scope.ancestors_eq_cuts]
    rfl
  have hFull : (startAt coastDistrict 8).state.path.ancestors =
      [⟨some 1, some 1, some 1, none⟩, ⟨some 1, some 1, none, none⟩, ⟨some 1, none, none, none⟩,
        .root] := by
    rw [Scope.ancestors_eq_cuts]
    rfl
  refine ⟨by rfl, hDistinct, by rfl, by decide, hLanding, ?_, ?_⟩
  · rw [back?, hPartial]
    exact ⟨_, _, rfl, by rfl, by rfl⟩
  · rw [back?, hFull]
    exact ⟨_, _, rfl, by rfl, by rfl⟩

end Navigator

end PollRoster
