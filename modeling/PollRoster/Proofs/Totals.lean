import Mathlib.Algebra.GroupWithZero.Nat
import PollRoster.Proofs.Links
import PollRoster.Proofs.Rows

/-!
# Counters that add up

The counters of a scope are counted over the whole of it, and those of its children over each of
them again. Since the children divide what lies below a path, their counters sum up to those of the
path but for what is recorded right at it. Only in a municipality with districts there may be
something: sections without a district, and representatives who declared none.

Main results:

* `Snapshot.count_eq_sum_add` — the counters of a path and of its children.
* `Snapshot.matchRows` — the counters of a path and its list of sections.
* `Snapshot.view_addsUp` — the numbers of a view.
-/

namespace PollRoster

/-! ## Sums of counters -/

namespace Counters

instance : Zero Counters := ⟨⟨0, 0, 0, 0⟩⟩

/-- Counters are added one by one. -/
instance : Add Counters where
  add a b := ⟨a.total + b.total, a.assigned + b.assigned, a.unassigned + b.unassigned,
    a.available + b.available⟩

theorem add_zero (c : Counters) : c + 0 = c := rfl

/-- Whether each section is counted as assigned or as unassigned. -/
def IsBalanced (c : Counters) : Prop := c.assigned + c.unassigned = c.total

/-- Whether counters agree with a list of sections: with its rows, and with the tallies of its
buildings, each of which agrees with its own rows. -/
structure MatchRows (c : Counters) (bs : List BuildingView) : Prop where
  total : c.total = (bs.flatMap BuildingView.rows).length
  assigned : c.assigned = (bs.flatMap BuildingView.rows).countP (·.primary.isSome)
  unassigned : c.unassigned = (bs.flatMap BuildingView.rows).countP (·.primary.isNone)
  primaryFilled : c.assigned = (bs.map BuildingView.primaryFilled).sum
  buildings : ∀ b ∈ bs, b.IsTallied

end Counters

namespace Snapshot

variable {s : Snapshot} {k : Scope}

/-! ## Counting over lists -/

/-- Whether somebody is assigned to the primary slot of a section. -/
def hasPrimary (s : Snapshot) (x : PollingSection) : Bool :=
  s.assignments.any fun a => a.sectionId = x.id && a.role = .primary

/-- Whether a representative has no assignment. -/
def isFree (s : Snapshot) (r : Representative) : Bool :=
  s.assignments.all fun a => a.representativeId ≠ r.id

/-- Counters over given sections and representatives. -/
def tally (s : Snapshot) (xs : List PollingSection) (rs : List Representative) : Counters where
  total := xs.length
  assigned := xs.countP s.hasPrimary
  unassigned := xs.countP fun x => ¬s.hasPrimary x
  available := rs.countP s.isFree

/-- The representatives who declared a place in a scope. -/
def declaredIn (s : Snapshot) (k : Scope) : List Representative :=
  s.representatives.filter fun r => s.territory.placeInScope r.municipalityId r.district k

theorem occupant?_isSome_eq_hasPrimary (x : PollingSection) :
    (s.slots.occupant? x.id .primary).isSome = s.hasPrimary x := by
  rw [Bool.eq_iff_iff, slots, SlotTable.occupant?_isSome, hasPrimary, List.any_eq_true]
  simp only [Bool.and_eq_true, decide_eq_true_eq]

theorem heldBy_isEmpty_eq_isFree (r : Representative) :
    (s.slots.heldBy r.id).isEmpty = s.isFree r := by
  rw [Bool.eq_iff_iff, slots, SlotTable.heldBy_isEmpty, isFree, List.all_eq_true]
  simp only [decide_eq_true_eq]

theorem isBalanced_tally (xs : List PollingSection) (rs : List Representative) :
    (s.tally xs rs).IsBalanced := (List.length_eq_countP_add_countP s.hasPrimary).symm

/-- The counters of a scope are those over what lies in it. -/
theorem count_eq_tally (s : Snapshot) (k : Scope) :
    s.count k = s.tally (s.activeSections k) (s.declaredIn k) := by
  have hAssigned : ((s.activeSections k).filter fun x =>
      (s.slots.occupant? x.id .primary).isSome).length =
      (s.activeSections k).countP s.hasPrimary := by
    simp only [occupant?_isSome_eq_hasPrimary, List.countP_eq_length_filter]
  have hAvailable : (s.representatives.filter fun r =>
      s.territory.placeInScope r.municipalityId r.district k &&
        (s.slots.heldBy r.id).isEmpty).length = (s.declaredIn k).countP s.isFree := by
    rw [declaredIn, List.countP_filter, List.countP_eq_length_filter]
    simp only [heldBy_isEmpty_eq_isFree, Bool.and_comm]
  have hAll := List.length_eq_countP_add_countP s.hasPrimary (l := s.activeSections k)
  rw [count, hAssigned, hAvailable, tally]
  congr 1
  omega

theorem tally_append (xs ys : List PollingSection) (rs qs : List Representative) :
    s.tally (xs ++ ys) (rs ++ qs) = s.tally xs rs + s.tally ys qs := by
  simp only [tally, List.length_append, List.countP_append]
  rfl

/-- The order of the lists does not matter. -/
theorem tally_perm {xs ys : List PollingSection} {rs qs : List Representative} (hxs : xs.Perm ys)
    (hrs : rs.Perm qs) : s.tally xs rs = s.tally ys qs := by
  rw [tally, tally, hxs.length_eq, hxs.countP_eq, hxs.countP_eq, hrs.countP_eq]

theorem tally_flatMap (cs : List Scope) (f : Scope → List PollingSection)
    (g : Scope → List Representative) :
    s.tally (cs.flatMap f) (cs.flatMap g) = (cs.map fun c => s.tally (f c) (g c)).sum := by
  induction cs with
  | nil => rfl
  | cons c cs ih =>
    rw [List.flatMap_cons, List.flatMap_cons, tally_append, ih, List.map_cons, List.sum_cons]

/-! ## The counters of a path and of its children -/

/-- Counters over what is recorded right at a scope. -/
def countAt (s : Snapshot) (k : Scope) : Counters :=
  s.tally ((s.territory.sections.filter (·.isActive)).filter fun x =>
      k.isPlace x.municipalityId x.district)
    (s.representatives.filter fun r => k.isPlace r.municipalityId r.district)

/-- **Sums.** The counters of the children of a path sum up to its own, but for those over what is
recorded right at it. -/
theorem count_eq_sum_add (ht : s.territory.Unambiguous)
    (hPlaces : ∀ r ∈ s.representatives, s.territory.HasPlace r.municipalityId r.district)
    (hk : s.territory.IsPath k) :
    s.count k = (((s.territory.below k).2.map Territory.Child.scope).map s.count).sum +
      s.countAt k := by
  have hRecorded : ∀ x ∈ s.territory.sections.filter (·.isActive),
      s.territory.HasPlace x.municipalityId x.district :=
    fun x hx => ht.sections x (List.mem_filter.mp hx).1
  have hSections := hk.perm_children ht
    (fun x : PollingSection => (x.municipalityId, x.district)) hRecorded
  have hRepresentatives := hk.perm_children ht
    (fun r : Representative => (r.municipalityId, r.district)) hPlaces
  have hCount : s.count = fun k => s.tally (s.activeSections k) (s.declaredIn k) :=
    funext s.count_eq_tally
  -- both sides are now tallies, of lists that differ in their order
  rw [hCount, ← tally_flatMap, countAt, ← tally_append]
  refine tally_perm ?_ hRepresentatives
  rw [funext s.activeSections_eq]
  exact hSections

/-- Counters over what is recorded in a municipality and in no district of it: its active sections
without a district, and the representatives who declared none. -/
def countUndistricted (s : Snapshot) (municipalityId : Int) : Counters :=
  s.tally (s.territory.sections.filter fun x =>
      x.isActive && x.municipalityId = municipalityId && x.district.isNone)
    (s.representatives.filter fun r => r.municipalityId = municipalityId && r.district.isNone)

/-- Nothing is recorded right at a scope above the municipalities. -/
theorem countAt_of_municipality_eq_none (h : k.municipality = none) : s.countAt k = 0 := by
  have hNone : ∀ municipalityId district, k.isPlace municipalityId district = false := by
    intro municipalityId district
    rw [Scope.isPlace, h]
    rfl
  simp only [countAt, hNone, List.filter_false]
  rfl

theorem countAt_of_municipality {m : Int} (hm : k.municipality = some m) (hd : k.district = none) :
    s.countAt k = s.countUndistricted m := by
  have hPlace : ∀ municipalityId district, k.isPlace municipalityId district =
      (municipalityId = m && district.isNone) := by
    intro municipalityId district
    have hId : some m = some municipalityId ↔ municipalityId = m := by
      rw [Option.some.injEq, eq_comm]
    rw [Scope.isPlace, hm, hd]
    cases district <;> simp [hId]
  -- the same three conditions, asked for in another order
  have hSections : ∀ x : PollingSection,
      (k.isPlace x.municipalityId x.district && x.isActive) =
        (x.isActive && x.municipalityId = m && x.district.isNone) := by
    intro x
    rw [hPlace, Bool.and_comm, Bool.and_assoc]
  rw [countAt, countUndistricted, List.filter_filter]
  simp only [hSections]
  simp only [hPlace]

/-! ## The counters of a path and its list of sections -/

/-- **Lists of sections.** The counters of a scope agree with the sections that it lists. -/
theorem matchRows (hWell : s.territory.WellFormed) (k : Scope) :
    (s.count k).MatchRows (s.listSections k) := by
  have hRows := rows_listSections hWell k
  have hPrimary : ∀ x, (s.sectionRow s.detector x).primary.isSome = s.hasPrimary x :=
    fun x => (primary_sectionRow x).trans (occupant?_isSome_eq_hasPrimary x)
  have hAssigned : (s.count k).assigned =
      ((s.listSections k).flatMap BuildingView.rows).countP (·.primary.isSome) := by
    rw [count_eq_tally, hRows.countP_eq, List.countP_map]
    exact List.countP_congr fun x _ => by rw [Function.comp, hPrimary]
  have hTallied : ∀ b ∈ s.listSections k, b.IsTallied := fun b => isTallied_of_mem_listSections
  refine ⟨?_, hAssigned, ?_, ?_, hTallied⟩
  · rw [count_eq_tally, hRows.length_eq, List.length_map]
    rfl
  · rw [count_eq_tally, hRows.countP_eq, List.countP_map]
    refine List.countP_congr fun x _ => ?_
    simp [← hPrimary]
  · rw [hAssigned, List.countP_flatMap]
    refine congrArg List.sum (List.map_congr_left fun b hb => ?_)
    exact (hTallied b hb).primaryFilled.symm

end Snapshot

/-! ## The numbers of a view -/

/-- Whether the numbers of a view add up: each counter with its complement, and the counters of the
nodes, or the rows and buildings, with the summary. -/
structure View.AddsUp (s : Snapshot) (v : View) : Prop where
  summary : v.summary.IsBalanced
  nodes : ∀ n ∈ v.content.nodeList, n.counters.IsBalanced
  /-- Above the districts the nodes make up the summary. -/
  above : v.level = .region ∨ v.level = .province ∨ v.level = .municipality →
    v.summary = (v.content.nodeList.map Node.counters).sum
  /-- Districts do so together with what is recorded in no district. -/
  districts : v.level = .district → ∃ m, v.scope.municipality = some m ∧
    v.summary = (v.content.nodeList.map Node.counters).sum + s.countUndistricted m
  sections : v.level = .sectionList → ∃ bs, v.content = .sections bs ∧ v.summary.MatchRows bs

namespace Snapshot

variable {s : Snapshot} {scope k : Scope} {v : View}

section FromScratch

variable (ht : s.territory.Unambiguous) (hView : (s.view scope .empty).1 = .ok v)
include ht hView

/-- The nodes of a view from an empty cache have the counters of their scopes. -/
theorem counters_of_view (hNodes : v.level ≠ .sectionList) :
    v.content.nodeList.map Node.counters =
      ((s.territory.below v.scope).2.map Territory.Child.scope).map s.count := by
  obtain ⟨hk, -, hContent, -⟩ := view_eq_ok hView
  rw [(isFaithful_of_view hView).level] at hNodes
  have hEmpty := CounterCache.isFreshOn_empty s.territory.IsPath s
  have hChildren : ∀ child ∈ (s.territory.below v.scope).2, s.territory.IsPath child.scope :=
    fun child hChild => hk.below ht.toWellFormed hChild
  rw [hContent, (content_of_nodes hNodes _).2, (listNodes_of_fresh hEmpty _ hChildren).1,
    Content.nodeList, List.map_map, List.map_map]
  rfl

theorem isBalanced_of_mem_nodes {n : Node} (hn : n ∈ v.content.nodeList) :
    n.counters.IsBalanced := by
  have hFaithful := isFaithful_of_view hView
  have hNodes : v.level ≠ .sectionList := by
    intro hLast
    rw [hFaithful.level] at hLast
    -- a list of sections has no nodes
    have hScope := hFaithful.mem_below hn
    rw [Territory.below_of_sectionList hLast] at hScope
    exact List.not_mem_nil hScope
  have hMem := List.mem_map_of_mem (f := Node.counters) hn
  rw [counters_of_view ht hView hNodes] at hMem
  obtain ⟨c, -, hc⟩ := List.mem_map.mp hMem
  rw [← hc, count_eq_tally]
  exact isBalanced_tally _ _

/-- The summary of nodes is their sum and what is recorded right at the scope. -/
theorem summary_eq_sum_add
    (hPlaces : ∀ r ∈ s.representatives, s.territory.HasPlace r.municipalityId r.district)
    (hSummary : v.summary = s.count v.scope) (hNodes : v.level ≠ .sectionList) :
    v.summary = (v.content.nodeList.map Node.counters).sum + s.countAt v.scope := by
  rw [hSummary, counters_of_view ht hView hNodes]
  exact count_eq_sum_add ht hPlaces (isFaithful_of_view hView).isPath

end FromScratch

/-- **Numbers add up.** Over validated reference data whose districts are told apart, every scope
that resolves is shown, and from an empty cache with numbers that add up. -/
theorem view_addsUp (hValid : s.territory.validate = .ok ())
    (hDistricts : s.territory.HasDistinctDistricts)
    (hRepresentatives : ∀ r ∈ s.representatives, s.territory.validateRepresentative r = .ok ())
    (hResolve : s.territory.resolve scope = .ok k) :
    ∃ v, (s.view scope .empty).1 = .ok v ∧ v.scope = k ∧ v.AddsUp s := by
  have ht := Territory.validate_unambiguous hValid hDistricts
  have hPlaces : ∀ r ∈ s.representatives, s.territory.HasPlace r.municipalityId r.district :=
    fun r hr => Territory.validateRepresentative_eq_ok ht.toWellFormed (hRepresentatives r hr)
  obtain ⟨v, hView, rfl, hSummary⟩ := summary_of_fresh ht.toWellFormed
    (CounterCache.upToDate_empty s fun _ => True) hResolve trivial
  have hLevel := (isFaithful_of_view hView).level
  have hSum := summary_eq_sum_add ht hView hPlaces hSummary
  refine ⟨v, hView, rfl, ?_, fun n hn => isBalanced_of_mem_nodes ht hView hn, ?_, ?_, ?_⟩
  · rw [hSummary, count_eq_tally]
    exact isBalanced_tally _ _
  -- the level tells whether anything can be recorded right at the scope
  · intro hAbove
    rcases (isFaithful_of_view hView).isPath.level_cases with
      ⟨-, hNodes, hNone⟩ | ⟨hDistrict, -⟩ | hLast
    · rw [← hLevel] at hNodes
      rw [hSum hNodes, countAt_of_municipality_eq_none hNone, Counters.add_zero]
    · simp [hLevel, hDistrict] at hAbove
    · simp [hLevel, hLast] at hAbove
  · intro hHere
    rcases (isFaithful_of_view hView).isPath.level_cases with
      ⟨hNot, -⟩ | ⟨-, m, hm, hd⟩ | hLast
    · exact (hNot (hLevel.symm.trans hHere)).elim
    · have hNodes : v.level ≠ .sectionList := by
        rw [hHere]
        exact Level.noConfusion
      exact ⟨m, hm, by rw [hSum hNodes, countAt_of_municipality hm hd]⟩
    · exact Level.noConfusion (hHere.symm.trans (hLevel.trans hLast))
  · intro hLast
    rw [hLevel] at hLast
    refine ⟨s.listSections v.scope, ?_, ?_⟩
    · rw [(view_eq_ok hView).2.2.1, content_of_sectionList hLast]
    · rw [hSummary]
      exact matchRows ht.toWellFormed _

end Snapshot

/-- The numbers of the town. Its second section and its second representative belong to no district,
so the districts alone do not make up the summary. -/
theorem Snapshot.view_addsUp_town :
    Territory.town.validate = .ok () ∧ Territory.town.HasDistinctDistricts ∧
    (∀ r ∈ town.representatives, Territory.town.validateRepresentative r = .ok ()) ∧
    Territory.town.resolve (.ofMunicipality 1) = .ok ⟨some 1, some 1, some 1, none⟩ ∧
    ∃ v, (town.view (.ofMunicipality 1) .empty).1 = .ok v ∧ v.level = .district ∧
      v.summary = ⟨3, 1, 2, 1⟩ ∧ (v.content.nodeList.map Node.counters).sum = ⟨2, 1, 1, 0⟩ ∧
      v.AddsUp town := by
  have hValid := Territory.validate_town
  have hDistricts := Territory.hasDistinctDistricts_town
  have hRepresentatives : ∀ r ∈ town.representatives,
      Territory.town.validateRepresentative r = .ok () := by decide
  have hResolve : Territory.town.resolve (.ofMunicipality 1) =
      .ok ⟨some 1, some 1, some 1, none⟩ := by rfl
  obtain ⟨v, hView, -, hAddsUp⟩ :=
    view_addsUp (s := town) hValid hDistricts hRepresentatives hResolve
  obtain ⟨w, hShown, hLevel, hSummary, hNodes⟩ : ∃ w,
      (town.view (.ofMunicipality 1) .empty).1 = .ok w ∧ w.level = .district ∧
      w.summary = ⟨3, 1, 2, 1⟩ ∧ (w.content.nodeList.map Node.counters).sum = ⟨2, 1, 1, 0⟩ :=
    ⟨_, rfl, rfl, rfl, rfl⟩
  obtain rfl : v = w := Except.ok.inj (hView.symm.trans hShown)
  exact ⟨hValid, hDistricts, hRepresentatives, hResolve, v, hView, hLevel, hSummary, hNodes,
    hAddsUp⟩

end PollRoster
