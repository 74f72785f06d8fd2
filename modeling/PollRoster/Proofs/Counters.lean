import PollRoster.Proofs.Counting
import PollRoster.Proofs.Listing

/-!
# Up-to-date counters

A cache keeps counters of paths only, since views ask for no others. `UpToDate` names the paths
whose counters can be trusted: all of them at rest, fewer between a change and the announcements
that follow it. `IsFreshOn` is less: it says nothing of what else is kept.

Main results:

* `UpToDate.invalidate` — what is related to a dropped scope can be trusted again.
* `UpToDate.of_differsAt` — after a change, what is related to no touched place can be trusted.
* `isFreshOn_invalidate` — whatever was kept before, a dropped scope and what is below it can be
  trusted.
* `view_of_fresh` — a view that asks for trusted counters only is the one shown without a cache.
* `showsCounted_of_view` — the one shown without a cache has the counters that are counted.
-/

namespace PollRoster

namespace CounterCache

/-- Whether a cache keeps counters of paths only, and for the `fresh` ones among them what the
snapshot counts. -/
def UpToDate (c : CounterCache) (s : Snapshot) (fresh : Scope → Prop) : Prop :=
  ∀ entry ∈ c.entries, s.territory.IsPath entry.1 ∧ (fresh entry.1 → entry.2 = s.count entry.1)

variable {c : CounterCache} {s : Snapshot} {fresh fresh' : Scope → Prop}

theorem upToDate_empty (s : Snapshot) (fresh : Scope → Prop) : empty.UpToDate s fresh :=
  fun _ hMem => (List.not_mem_nil hMem).elim

theorem UpToDate.mono (h : c.UpToDate s fresh) (hLess : ∀ k, fresh' k → fresh k) :
    c.UpToDate s fresh' :=
  fun entry hMem => ⟨(h entry hMem).1, fun hFresh => (h entry hMem).2 (hLess _ hFresh)⟩

/-! ## Counting -/

/-- Whatever is fetched, what is counted anew is counted right. -/
theorem UpToDate.fetch_upToDate (h : c.UpToDate s fresh) {k : Scope}
    (hPath : s.territory.IsPath k) : (c.fetch k s.count).2.UpToDate s fresh := by
  rw [CounterCache.fetch]
  cases c.get? k with
  | some kept => exact h
  | none =>
    intro entry hMem
    rcases List.mem_cons.mp hMem with rfl | hOld
    · exact ⟨hPath, fun _ => rfl⟩
    · exact h entry hOld

/-- An entry that is looked up is one that is kept. -/
theorem mem_of_get? {k : Scope} {kept : Counters} (h : c.get? k = some kept) :
    (k, kept) ∈ c.entries := by
  obtain ⟨before, after, hEntries, -⟩ := List.lookup_eq_some_iff.mp h
  rw [hEntries]
  exact List.mem_append_right _ List.mem_cons_self

/-- Fetching the counters of a fresh scope answers what is counted. -/
theorem UpToDate.fetch_eq (h : c.UpToDate s fresh) {k : Scope} (hFresh : fresh k) :
    (c.fetch k s.count).1 = s.count k := by
  rw [CounterCache.fetch]
  cases hKept : c.get? k with
  | some kept => exact (h _ (mem_of_get? hKept)).2 hFresh
  | none => rfl

/-! ## Changes -/

/-- What is left after scopes were dropped is what was there before, or related to none of them. -/
theorem UpToDate.invalidate (h : c.UpToDate s fresh) (p : Scope) :
    (c.invalidate p).UpToDate s fun k => fresh k ∨ k.isRelated p := by
  intro entry hMem
  obtain ⟨hOld, hKept⟩ := List.mem_filter.mp hMem
  refine ⟨(h entry hOld).1, fun hFresh => (h entry hOld).2 ?_⟩
  -- an entry that is related to `p` would have been dropped
  refine hFresh.resolve_right fun hRelated => ?_
  rw [hRelated] at hKept
  exact nomatch hKept

/-- A change leaves the counters that are related to no place that it touches. -/
theorem UpToDate.of_differsAt {l l' : Ledger} {sectionIds : List Int} {representativeId : Int}
    (h : c.UpToDate l.snapshot fun _ => True)
    (hDiffers : l.DiffersAt sectionIds representativeId l') (hSound : l.Sound) :
    c.UpToDate l'.snapshot fun k =>
      ∀ p, l.Touches sectionIds representativeId p → k.isRelated p = false := by
  intro entry hMem
  obtain ⟨hPath, hCount⟩ := h entry hMem
  constructor
  · change l'.territory.IsPath entry.1
    rw [hDiffers.like.1]
    exact hPath
  · intro hFar
    rw [hDiffers.count_eq hSound hPath hFar]
    exact hCount trivial

/-- Over the same reference data nothing but paths is kept, whatever has changed. -/
theorem UpToDate.of_isLike {l l' : Ledger} (h : c.UpToDate l.snapshot fresh) (hLike : l.IsLike l') :
    c.UpToDate l'.snapshot fun _ => False := by
  intro entry hMem
  refine ⟨?_, False.elim⟩
  change l'.territory.IsPath entry.1
  rw [hLike.1]
  exact (h entry hMem).1

/-! ## Fresh counters -/

/-- Nothing that is related to a dropped scope is kept. -/
theorem get?_invalidate (c : CounterCache) (s p : Scope) :
    (c.invalidate s).get? p = if p.isRelated s then none else c.get? p := by
  have hFilter := lookup_filter_key (fun k : Scope => !k.isRelated s) p c.entries
  rw [get?, invalidate, hFilter, get?]
  cases p.isRelated s <;> rfl

/-- Whether what is kept for the `fresh` scopes, if anything, is what the snapshot counts. -/
def IsFreshOn (c : CounterCache) (fresh : Scope → Prop) (s : Snapshot) : Prop :=
  ∀ k kept, fresh k → c.get? k = some kept → kept = s.count k

theorem isFreshOn_empty (fresh : Scope → Prop) (s : Snapshot) : empty.IsFreshOn fresh s :=
  fun _ _ _ hKept => (nomatch hKept)

/-- Whatever was kept before, nothing is kept within a scope that was dropped. -/
theorem isFreshOn_invalidate (c : CounterCache) (p : Scope) (s : Snapshot) :
    (c.invalidate p).IsFreshOn (fun k => p.contains k) s := by
  intro k kept hWithin hKept
  have hRelated : k.isRelated p := by rw [Scope.isRelated, hWithin, Bool.or_true]
  rw [get?_invalidate, if_pos hRelated] at hKept
  cases hKept

theorem UpToDate.isFreshOn (h : c.UpToDate s fresh) : c.IsFreshOn fresh s :=
  fun _ _ hFresh hKept => (h _ (mem_of_get? hKept)).2 hFresh

theorem IsFreshOn.mono (h : c.IsFreshOn fresh s) (hLess : ∀ k, fresh' k → fresh k) :
    c.IsFreshOn fresh' s :=
  fun k kept hFresh => h k kept (hLess k hFresh)

/-- Fetching the counters of a fresh scope answers what is counted, and keeps what is fresh. -/
theorem IsFreshOn.fetch (h : c.IsFreshOn fresh s) {k : Scope} (hFresh : fresh k) :
    (c.fetch k s.count).1 = s.count k ∧ (c.fetch k s.count).2.IsFreshOn fresh s := by
  rw [CounterCache.fetch]
  cases hKept : c.get? k with
  | some kept => exact ⟨h k kept hFresh hKept, h⟩
  | none =>
    -- what is counted is kept for the scope itself, and hides nothing of what is kept for others
    refine ⟨rfl, fun q kept hq hFound => ?_⟩
    by_cases hSame : q = k
    · subst hSame
      rw [get?, List.lookup_cons_self] at hFound
      exact (Option.some.inj hFound).symm
    · rw [get?, lookup_cons_of_ne hSame] at hFound
      exact h q kept hq hFound

end CounterCache

/-! ## Views -/

/-- Whether every counter of a view is the one that a snapshot counts. -/
structure View.ShowsCounted (s : Snapshot) (v : View) : Prop where
  summary : v.summary = s.count v.scope
  nodes : ∀ n ∈ v.content.nodeList, n.counters = s.count n.scope

namespace Snapshot

variable {c : CounterCache} {s : Snapshot} {fresh : Scope → Prop}

/-- A child with the counters that are counted for it. -/
def node (s : Snapshot) (level : Level) (child : Territory.Child) : Node :=
  ⟨level, child.scope, child.id, child.name, s.count child.scope⟩

theorem listNodes_upToDate (h : c.UpToDate s fresh) (level : Level)
    {children : List Territory.Child}
    (hChildren : ∀ child ∈ children, s.territory.IsPath child.scope) :
    (s.listNodes level children c).2.UpToDate s fresh := by
  induction children generalizing c with
  | nil => exact h
  | cons child rest ih =>
    obtain ⟨hPath, hRest⟩ := List.forall_mem_cons.mp hChildren
    rw [listNodes]
    exact ih (h.fetch_upToDate hPath) hRest

theorem listNodes_of_fresh (h : c.IsFreshOn fresh s) (level : Level)
    {children : List Territory.Child} (hChildren : ∀ child ∈ children, fresh child.scope) :
    (s.listNodes level children c).1 = children.map (s.node level) ∧
      (s.listNodes level children c).2.IsFreshOn fresh s := by
  -- each child is counted with the cache that those before it have left
  induction children generalizing c with
  | nil => exact ⟨rfl, h⟩
  | cons child rest ih =>
    obtain ⟨hFresh, hRest⟩ := List.forall_mem_cons.mp hChildren
    obtain ⟨hCounters, hKept⟩ := h.fetch hFresh
    obtain ⟨hNodes, hAfter⟩ := ih hKept hRest
    rw [listNodes]
    dsimp only
    rw [hCounters, hNodes]
    exact ⟨rfl, hAfter⟩

/-- What there is below a path, with the counters that are counted for it. -/
def plainContent (s : Snapshot) (k : Scope) : Level × Content :=
  match s.territory.below k with
  | (.sectionList, _) => (.sectionList, .sections (s.listSections k))
  | (level, children) => (level, .nodes (children.map (s.node level)))

theorem content_upToDate (hWell : s.territory.WellFormed) (h : c.UpToDate s fresh) {k : Scope}
    (hk : s.territory.IsPath k) : (s.content k c).2.2.UpToDate s fresh := by
  have hChildren : ∀ child ∈ (s.territory.below k).2, s.territory.IsPath child.scope :=
    fun child hChild => hk.below hWell hChild
  rw [content]
  cases hBelow : s.territory.below k with
  | mk level children =>
    rw [hBelow] at hChildren
    cases level with
    | sectionList => exact h
    | _ => exact listNodes_upToDate h _ hChildren

theorem content_of_fresh {k : Scope} (h : c.IsFreshOn (fun q => k.contains q) s)
    (hk : s.territory.IsPath k) :
    (s.content k c).1 = (s.plainContent k).1 ∧ (s.content k c).2.1 = (s.plainContent k).2 ∧
      (s.content k c).2.2.IsFreshOn (fun q => k.contains q) s := by
  have hChildren : ∀ child ∈ (s.territory.below k).2, k.contains child.scope :=
    fun child hChild => hk.contains_below hChild
  rw [content, plainContent]
  cases hBelow : s.territory.below k with
  | mk level children =>
    rw [hBelow] at hChildren
    cases level with
    | sectionList => exact ⟨rfl, rfl, h⟩
    | region | province | municipality | district =>
      obtain ⟨hNodes, hAfter⟩ := listNodes_of_fresh h _ hChildren
      exact ⟨rfl, congrArg Content.nodes hNodes, hAfter⟩

theorem counters_of_plainContent {k : Scope} {n : Node}
    (hn : n ∈ (s.plainContent k).2.nodeList) : n.counters = s.count n.scope := by
  rw [plainContent] at hn
  split at hn
  · cases hn
  · obtain ⟨child, -, rfl⟩ := List.mem_map.mp hn
    rfl

/-- A scope is shown with the summary that is counted, if that is fresh, whatever the counters of
its children are. -/
theorem summary_of_fresh (hWell : s.territory.WellFormed) (h : c.UpToDate s fresh) {scope k : Scope}
    (hResolve : s.territory.resolve scope = .ok k) (hFresh : fresh k) :
    ∃ v, (s.view scope c).1 = .ok v ∧ v.scope = k ∧ v.summary = s.count k := by
  rw [view, hResolve]
  have hKept := content_upToDate hWell h (Territory.resolve_isPath hResolve)
  exact ⟨_, rfl, rfl, hKept.fetch_eq hFresh⟩

/-- A view whose counters are fresh, in terms of the snapshot alone. -/
theorem view_of_path {scope k : Scope} (hResolve : s.territory.resolve scope = .ok k)
    (h : c.IsFreshOn (fun q => k.contains q) s) :
    (s.view scope c).1 = .ok
      { scope := k
        level := (s.plainContent k).1
        content := (s.plainContent k).2
        summary := s.count k
        breadcrumbs := s.territory.breadcrumbs k
        autoSkip := (s.plainContent k).1 ≠ .sectionList && (s.plainContent k).2.size = 1 } := by
  obtain ⟨hLevel, hContent, hKept⟩ := content_of_fresh h (Territory.resolve_isPath hResolve)
  have hSummary := (hKept.fetch k.contains_self).1
  rw [view, hResolve]
  dsimp only
  rw [hLevel, hContent, hSummary]

/-- **Views do without the cache.** A view that asks for trusted counters only is the one shown
without a cache. -/
theorem view_of_fresh {scope : Scope} (h : ∀ k, s.territory.resolve scope = .ok k →
    c.IsFreshOn (fun q => k.contains q) s) : (s.view scope c).1 = (s.view scope .empty).1 := by
  cases hResolve : s.territory.resolve scope with
  | error e => rw [view, view, hResolve]
  | ok k =>
    rw [view_of_path hResolve (h k hResolve),
      view_of_path hResolve (CounterCache.isFreshOn_empty _ s)]

/-- The counters of a view that is shown without a cache are counted. -/
theorem showsCounted_of_view {scope : Scope} {v : View} (hView : (s.view scope .empty).1 = .ok v) :
    v.ShowsCounted s := by
  cases hResolve : s.territory.resolve scope with
  | error e =>
    rw [view, hResolve] at hView
    cases hView
  | ok k =>
    rw [view_of_path hResolve (CounterCache.isFreshOn_empty _ s)] at hView
    obtain rfl := Except.ok.inj hView
    exact ⟨rfl, fun n hn => counters_of_plainContent hn⟩

/-- A view that asks for trusted counters only leaves the cache as trusted as it was. -/
theorem view_of_upToDate (hWell : s.territory.WellFormed) (h : c.UpToDate s fresh) {scope : Scope}
    (hFresh : ∀ k, s.territory.resolve scope = .ok k → ∀ k', k.contains k' → fresh k') :
    (s.view scope c).1 = (s.view scope .empty).1 ∧ (s.view scope c).2.UpToDate s fresh := by
  refine ⟨view_of_fresh fun k hResolve => h.isFreshOn.mono (hFresh k hResolve), ?_⟩
  rw [view]
  cases hResolve : s.territory.resolve scope with
  | error e => exact h
  | ok k =>
    have hk := Territory.resolve_isPath hResolve
    exact (content_upToDate hWell h hk).fetch_upToDate hk

/-- A scope that resolves is shown. -/
theorem exists_view {scope k : Scope} (hResolve : s.territory.resolve scope = .ok k)
    (c : CounterCache) : ∃ v, (s.view scope c).1 = .ok v := by
  rw [view, hResolve]
  exact ⟨_, rfl⟩

/-- The scope of a view is the path of the scope asked for, and is shown like it. -/
theorem scope_of_view {scope : Scope} {v : View} (h : (s.view scope c).1 = .ok v) :
    s.territory.resolve scope = .ok v.scope ∧ (s.view v.scope c).1 = .ok v := by
  rw [view] at h
  cases hResolve : s.territory.resolve scope with
  | error e =>
    rw [hResolve] at h
    exact nomatch h
  | ok k =>
    rw [hResolve] at h
    have hScope : k = v.scope := congrArg View.scope (Except.ok.inj h)
    refine ⟨congrArg Except.ok hScope, ?_⟩
    rw [view, ← hScope, (Territory.resolve_isPath hResolve).resolve_eq]
    exact h

end Snapshot

end PollRoster
