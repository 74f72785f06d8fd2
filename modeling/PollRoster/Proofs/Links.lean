import PollRoster.Proofs.Breadcrumbs
import PollRoster.Proofs.Counters
import PollRoster.Proofs.Listing

/-!
# Links of a view

A view names scopes: its own, those of its nodes and those of its breadcrumbs. They are read off the
territory, and the counters that come with them, kept or counted, have no part in that. Each of them
is a path, so whoever follows one of them is shown what it names.

Main results:

* `isFaithful_of_view` — which scopes a view names.
* `breadcrumbs_are_trail` — its breadcrumbs lead down to it, over any territory.
* `links_live` — following a link leads where it says.
-/

namespace PollRoster

/-! ## Views that show the territory as it is -/

/-- Whether a view names the scopes of a territory: a path, what lies below it and what is above it.
Nothing is said of its counters. -/
structure View.IsFaithful (t : Territory) (v : View) : Prop where
  isPath : t.IsPath v.scope
  level : v.level = (t.below v.scope).1
  /-- There is a list of sections on the last level, and there are nodes on the others. -/
  content : if v.level = .sectionList then ∃ bs, v.content = .sections bs
    else ∃ ns, v.content = .nodes ns
  scopes : v.content.nodeList.map Node.scope = (t.below v.scope).2.map Territory.Child.scope
  breadcrumbs : v.breadcrumbs = t.breadcrumbs v.scope
  autoSkip : v.autoSkip = (v.level ≠ .sectionList && v.content.size = 1)

namespace Snapshot

variable {s : Snapshot} {scope k : Scope} {c : CounterCache} {v : View}

/-- Whatever counters are kept, every child is listed. -/
theorem scopes_listNodes (s : Snapshot) (level : Level) (children : List Territory.Child)
    (c : CounterCache) :
    (s.listNodes level children c).1.map Node.scope = children.map Territory.Child.scope := by
  induction children generalizing c with
  | nil => rfl
  | cons child rest ih =>
    rw [listNodes]
    dsimp only
    rw [List.map_cons, List.map_cons, ih]

theorem content_of_sectionList (h : (s.territory.below k).1 = .sectionList) (c : CounterCache) :
    s.content k c = (.sectionList, .sections (s.listSections k), c) := by
  rw [content]
  cases hBelow : s.territory.below k with
  | mk level children =>
    obtain rfl : level = .sectionList := by rwa [hBelow] at h
    rfl

theorem content_of_nodes (h : (s.territory.below k).1 ≠ .sectionList) (c : CounterCache) :
    (s.content k c).1 = (s.territory.below k).1 ∧ (s.content k c).2.1 =
      .nodes (s.listNodes (s.territory.below k).1 (s.territory.below k).2 c).1 := by
  rw [content]
  cases hBelow : s.territory.below k with
  | mk level children =>
    rw [hBelow] at h
    cases level with
    | sectionList => exact (h rfl).elim
    | region | province | municipality | district => exact ⟨rfl, rfl⟩

theorem view_eq_ok (h : (s.view scope c).1 = .ok v) :
    s.territory.IsPath v.scope ∧ v.level = (s.content v.scope c).1 ∧
      v.content = (s.content v.scope c).2.1 ∧ v.breadcrumbs = s.territory.breadcrumbs v.scope ∧
      v.autoSkip = (v.level ≠ .sectionList && v.content.size = 1) := by
  rw [view] at h
  cases hResolve : s.territory.resolve scope with
  | error e =>
    rw [hResolve] at h
    cases h
  | ok k =>
    rw [hResolve] at h
    obtain rfl := Except.ok.inj h
    exact ⟨Territory.resolve_isPath hResolve, rfl, rfl, rfl, rfl⟩

/-- **Views are faithful.** A view names the scopes that the territory has there. -/
theorem isFaithful_of_view (h : (s.view scope c).1 = .ok v) : v.IsFaithful s.territory := by
  obtain ⟨hk, hLevel, hContent, hBreadcrumbs, hAutoSkip⟩ := view_eq_ok h
  by_cases hLast : (s.territory.below v.scope).1 = .sectionList
  · rw [content_of_sectionList hLast] at hLevel hContent
    refine ⟨hk, hLevel.trans hLast.symm, ?_, ?_, hBreadcrumbs, hAutoSkip⟩
    · rw [if_pos hLevel, hContent]
      exact ⟨_, rfl⟩
    · rw [hContent, Territory.below_of_sectionList hLast]
      rfl
  · rw [(content_of_nodes hLast c).1] at hLevel
    rw [(content_of_nodes hLast c).2] at hContent
    refine ⟨hk, hLevel, ?_, ?_, hBreadcrumbs, hAutoSkip⟩
    · rw [if_neg (by rwa [hLevel]), hContent]
      exact ⟨_, rfl⟩
    · rw [hContent]
      exact s.scopes_listNodes _ _ c

/-- A path is shown as itself, whatever the counters are. -/
theorem exists_view_of_isPath (hk : s.territory.IsPath k) (c : CounterCache) :
    ∃ w, (s.view k c).1 = .ok w ∧ w.scope = k := by
  obtain ⟨w, hw⟩ := exists_view hk.resolve_eq c
  have hScope : s.territory.resolve k = .ok w.scope := (scope_of_view hw).1
  rw [hk.resolve_eq] at hScope
  exact ⟨w, hw, (Except.ok.inj hScope).symm⟩

end Snapshot

/-! ## Breadcrumbs -/

/-- **Breadcrumbs lead down to the view**, whatever the territory holds: there is one for the root
and one for each component, each adds a component to the one before it, and it bears the name of the
record of that component. -/
theorem Snapshot.breadcrumbs_are_trail {s : Snapshot} {scope : Scope} {c : CounterCache} {v : View}
    (hView : (s.view scope c).1 = .ok v) :
    v.breadcrumbs.length = v.scope.depth + 1 ∧
    v.breadcrumbs.head?.map Breadcrumb.scope = some .root ∧
    v.breadcrumbs.getLast?.map Breadcrumb.scope = some v.scope ∧
    v.breadcrumbs.IsChain fun upper lower => lower.scope.parent? = some upper.scope ∧
      s.territory.name? lower.scope = some lower.label := by
  obtain ⟨hk, -, -, hCrumbs, -⟩ := view_eq_ok hView
  have hTrail : s.territory.IsTrail v.scope v.breadcrumbs := by
    rw [hCrumbs]
    exact hk.isTrail_breadcrumbs
  exact ⟨hTrail.length_eq hk, hTrail.head?_scope, hTrail.getLast?_scope, hTrail.isChain⟩

/-- A territory that no validation accepts: its municipalities share an identifier. The later one in
display order counts. -/
def Territory.namesakes : Territory :=
  .ofData
    { regions := [⟨1, "Lazio"⟩, ⟨2, "Umbria"⟩]
      provinces := [⟨1, 1, "Roma", "RM"⟩, ⟨2, 2, "Terni", "TR"⟩]
      municipalities := [⟨1, 2, "Stroncone", true⟩, ⟨1, 1, "Ardea", false⟩]
      districts := [⟨1, 4, "Coppe"⟩]
      sections := [] }

/-- The breadcrumbs of a district that was asked for by its municipality. -/
theorem Snapshot.breadcrumbs_are_trail_namesakes :
    Territory.namesakes.validate ≠ .ok () ∧
    ∃ v, ((Snapshot.mk .namesakes [] []).view (.ofPlace 1 (some 4)) .empty).1 = .ok v ∧
      v.breadcrumbs.map Breadcrumb.label = ["Italia", "Umbria", "Terni", "Stroncone", "Coppe"] ∧
      v.breadcrumbs.length = v.scope.depth + 1 ∧
      v.breadcrumbs.IsChain fun upper lower => lower.scope.parent? = some upper.scope ∧
        Territory.namesakes.name? lower.scope = some lower.label := by
  obtain ⟨v, hView, hLabels⟩ : ∃ v,
      ((Snapshot.mk .namesakes [] []).view (.ofPlace 1 (some 4)) .empty).1 = .ok v ∧
      v.breadcrumbs.map Breadcrumb.label = ["Italia", "Umbria", "Terni", "Stroncone", "Coppe"] :=
    ⟨_, rfl, by decide⟩
  obtain ⟨hLength, -, -, hChain⟩ := breadcrumbs_are_trail hView
  exact ⟨by decide, v, hView, hLabels, hLength, hChain⟩

/-! ## Following links -/

/-- Whether the scopes that a view names are told apart, lie where the view says, and are shown as
themselves by whoever reads the territory, with whatever representatives and assignments and from
whatever cache. -/
structure View.HasLiveLinks (t : Territory) (v : View) : Prop where
  resolves : t.resolve v.scope = .ok v.scope
  distinct : (v.content.nodeList.map Node.scope).Nodup
  parents : ∀ n ∈ v.content.nodeList, n.scope.parent? = some v.scope
  nodes : ∀ n ∈ v.content.nodeList, ∀ s : Snapshot, s.territory = t → ∀ c : CounterCache,
    ∃ w, (s.view n.scope c).1 = .ok w ∧ w.scope = n.scope ∧ v.level.rank < w.level.rank
  breadcrumbs : ∀ b ∈ v.breadcrumbs, ∀ s : Snapshot, s.territory = t → ∀ c : CounterCache,
    ∃ w, (s.view b.scope c).1 = .ok w ∧ w.scope = b.scope

namespace View.IsFaithful

variable {t : Territory} {v : View}

/-- The nodes of a view are listed below its path. -/
theorem mem_below (h : v.IsFaithful t) {n : Node} (hn : n ∈ v.content.nodeList) :
    n.scope ∈ (t.below v.scope).2.map Territory.Child.scope := by
  rw [← h.scopes]
  exact List.mem_map_of_mem hn

theorem isPath_of_mem_breadcrumbs (h : v.IsFaithful t) {b : Breadcrumb} (hb : b ∈ v.breadcrumbs) :
    t.IsPath b.scope := by
  have hScope : b.scope ∈ v.scope.ancestors.reverse ++ [v.scope] := by
    rw [← h.isPath.scopes_breadcrumbs, ← h.breadcrumbs]
    exact List.mem_map_of_mem hb
  rcases List.mem_append.mp hScope with hAbove | hSelf
  · exact h.isPath.of_mem_ancestors (List.mem_reverse.mp hAbove)
  · rw [List.mem_singleton.mp hSelf]
    exact h.isPath

end View.IsFaithful

/-- **Links are live.** Over a validated territory whose districts are told apart, every scope that
a view names can be followed. -/
theorem Snapshot.links_live {s : Snapshot} (hValid : s.territory.validate = .ok ())
    (hDistricts : s.territory.HasDistinctDistricts) {scope : Scope} {c : CounterCache} {v : View}
    (hView : (s.view scope c).1 = .ok v) : v.HasLiveLinks s.territory := by
  have ht := Territory.validate_unambiguous hValid hDistricts
  have hFaithful : v.IsFaithful s.territory := isFaithful_of_view hView
  have hk := hFaithful.isPath
  refine ⟨hk.resolve_eq, ?_, ?_, ?_, ?_⟩
  · rw [hFaithful.scopes]
    exact hk.nodup_below ht
  · intro n hn
    exact ((hk.mem_below_iff ht.toWellFormed).mp (hFaithful.mem_below hn)).2
  · intro n hn s' hSame c'
    -- where a path is listed, and on which level it is shown, is up to the territory alone
    have hMem := hFaithful.mem_below hn
    have hn : s.territory.IsPath n.scope := ((hk.mem_below_iff ht.toWellFormed).mp hMem).1
    have hDeeper := hk.rank_below_lt hn hMem
    rw [← hSame] at hn hDeeper hFaithful
    obtain ⟨w, hw, hScope⟩ := exists_view_of_isPath hn c'
    have hLevel : w.level = (s'.territory.below n.scope).1 := by
      rw [← hScope]
      exact (isFaithful_of_view hw).level
    refine ⟨w, hw, hScope, ?_⟩
    rw [hFaithful.level, hLevel]
    exact hDeeper
  · intro b hb s' hSame c'
    have hPath := hFaithful.isPath_of_mem_breadcrumbs hb
    rw [← hSame] at hPath
    exact exists_view_of_isPath hPath c'

/-- The links of the town, shown from a cache with counters that nobody counted. -/
theorem Snapshot.links_live_town :
    Territory.town.validate = .ok () ∧ Territory.town.HasDistinctDistricts ∧
    ∃ v, (town.view (.ofMunicipality 1) ⟨[(.root, ⟨9, 9, 9, 9⟩)]⟩).1 = .ok v ∧
      v.content.nodeList.length = 2 ∧ v.breadcrumbs.length = 4 ∧ v.HasLiveLinks .town := by
  have hValid := Territory.validate_town
  have hDistricts := Territory.hasDistinctDistricts_town
  obtain ⟨v, hView, hNodes, hCrumbs⟩ : ∃ v,
      (town.view (.ofMunicipality 1) ⟨[(.root, ⟨9, 9, 9, 9⟩)]⟩).1 = .ok v ∧
      v.content.nodeList.length = 2 ∧ v.breadcrumbs.length = 4 :=
    ⟨_, rfl, by decide, by decide⟩
  exact ⟨hValid, hDistricts, v, hView, hNodes, hCrumbs, links_live hValid hDistricts hView⟩

end PollRoster
