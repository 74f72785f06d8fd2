import PollRoster.Proofs.Listing
import PollRoster.Proofs.Links
import PollRoster.Proofs.Relisting

/-!
# Who is found where

Two rules say where a representative belongs. The counters go by the declared place alone; a search
also lists who declared no district under every district of the municipality. The rules agree on all
scopes but districts, and there they differ in just those representatives. So a search over a path
finds what the searches over its children find, each representative once, or under every district.

Main results:

* `mem_found` — who is found.
* `placeInScope_eq_declaredWithin` — how the two rules differ.
* `declaredWithin_below`, `countP_declaredWithin` — under which children somebody is found.
* `search_agrees` — searches, their order, the searches over children and the counter of those who
  hold nothing.
-/

namespace PollRoster

/-- Whether one summary is listed before another: by name in lower case, then by identifier. -/
def RepresentativeSummary.Precedes (x y : RepresentativeSummary) : Prop :=
  Text.toLower x.representative.fullName < Text.toLower y.representative.fullName ∨
    Text.toLower x.representative.fullName = Text.toLower y.representative.fullName ∧
      x.representative.id < y.representative.id

namespace Snapshot

variable {s : Snapshot} {scope k c : Scope} {r : Representative} {x : RepresentativeSummary}

/-! ## Who is found -/

/-- What a search finds in a scope that is resolved already. -/
def found (s : Snapshot) (k : Scope) (filter : Option String) : List RepresentativeSummary :=
  sortBy compareSummaries ((s.representatives.filter fun r =>
    s.declaredWithin k r && (needle? filter).all r.matchesText).map (s.summary s.slots))

theorem search_of_resolve (h : s.territory.resolve scope = .ok k) (filter : Option String) :
    s.search scope filter = .ok (s.found k filter) := by
  rw [search, h]
  rfl

/-- **Who is found**: whoever is declared within the scope and meets the filter, with what the
assignments say. -/
theorem mem_found {filter : Option String} :
    x ∈ s.found k filter ↔ s.declaredWithin k x.representative ∧
      x.representative ∈ s.representatives ∧ (needle? filter).all x.representative.matchesText ∧
      s.summary s.slots x.representative = x := by
  rw [found, mem_sortBy, List.mem_map]
  constructor
  · rintro ⟨r, hr, rfl⟩
    rw [List.mem_filter, Bool.and_eq_true] at hr
    exact ⟨hr.2.1, hr.1, hr.2.2, rfl⟩
  · rintro ⟨hWithin, hMem, hFilter, hSummary⟩
    refine ⟨x.representative, List.mem_filter.mpr ⟨hMem, ?_⟩, hSummary⟩
    rw [hWithin, hFilter]
    rfl

/-! ## Order -/

theorem precedes_of_isLE {x y : RepresentativeSummary} (hSorted : (compareSummaries x y).isLE)
    (hIds : x.representative.id ≠ y.representative.id) : x.Precedes y := by
  have hLess : compareSummaries x y = .lt := by
    rcases Ordering.isLE_iff_eq_lt_or_eq_eq.mp hSorted with hLess | hEq
    · exact hLess
    · exact absurd (id_eq_of_compareSummaries hEq) hIds
  -- the name decides, and where the names are the same the identifier does
  rw [compareSummaries, compareLex, compareOn, compareOn, Ordering.then_eq_lt,
    compare_string_eq_lt] at hLess
  rcases hLess with hName | ⟨hName, hId⟩
  · exact .inl hName
  · exact .inr ⟨Std.LawfulEqCmp.eq_of_compare hName, Int.compare_eq_lt.mp hId⟩

/-- **Order.** Who is found is listed in order, and once. -/
theorem found_pairwise (hIds : (s.representatives.map Representative.id).Nodup) (k : Scope)
    (filter : Option String) : (s.found k filter).Pairwise RepresentativeSummary.Precedes := by
  have hSorted : (s.found k filter).Pairwise fun x y => (compareSummaries x y).isLE :=
    sortBy_pairwise _
  have hDistinct : (s.found k filter).Pairwise fun x y =>
      x.representative.id ≠ y.representative.id := by
    rw [← List.pairwise_map (f := fun x : RepresentativeSummary => x.representative.id)]
    refine ((sortBy_perm _ _).map _).nodup_iff.mpr ?_
    rw [List.map_map]
    exact (List.filter_sublist.map _).nodup hIds
  exact (hSorted.and hDistinct).imp fun h => precedes_of_isLE h.1 h.2

/-! ## Sections held -/

/-- Over known sections each slot held is listed. -/
theorem sectionsHeld_eq
    (hSections : ∀ a ∈ s.assignments, (s.territory.section? a.sectionId).isSome)
    (r : Representative) :
    (s.summary s.slots r).sectionsHeld = (s.summary s.slots r).held.length := by
  refine (List.filterMap_length_eq_length.mpr fun a ha => ?_).symm
  rw [slots, SlotTable.heldBy_ofAssignments] at ha
  rw [Option.isSome_map]
  exact hSections a (List.mem_filter.mp ha).1

/-! ## Where somebody is found -/

/-- Without a district in the scope, or with one that was declared, the declared place decides. -/
theorem declaredWithin_eq_placeInScope (h : k.district = none ∨ r.district ≠ none) :
    s.declaredWithin k r = s.territory.placeInScope r.municipalityId r.district k := by
  rw [declaredWithin]
  split
  next hNone =>
    have hSame : { k with district := none } = k := by
      rw [← h.resolve_right fun hSome => hSome (Option.isNone_iff_eq_none.mp hNone)]
    rw [hSame]
  · rfl

/-- **The two rules** differ in districts, by who declared none. -/
theorem placeInScope_eq_declaredWithin (hk : s.territory.IsPath k) (r : Representative) :
    s.territory.placeInScope r.municipalityId r.district k =
      (s.declaredWithin k r && (k.district = none || r.district = k.district)) := by
  cases hDistrict : k.district with
  | none =>
    rw [declaredWithin_eq_placeInScope (.inl hDistrict)]
    simp
  | some d =>
    -- a district stands in a municipality, and the two of them decide
    obtain ⟨m, hm⟩ : ∃ m, k.municipality = some m := by
      rw [← Option.ne_none_iff_exists']
      intro hNone
      rw [hk.district hNone] at hDistrict
      cases hDistrict
    have hPlace : ∀ district, s.territory.placeInScope r.municipalityId district k =
        (m = r.municipalityId && some d == district) := by
      intro district
      rw [Territory.placeInScope, hm, hDistrict]
      rfl
    cases hDeclared : r.district with
    | none =>
      rw [hPlace]
      simp
    | some e =>
      have hSome : r.district ≠ none := by
        rw [hDeclared]
        exact Option.some_ne_none e
      rw [declaredWithin_eq_placeInScope (.inr hSome), hDeclared, hPlace, Bool.and_assoc]
      by_cases hSame : d = e
      · simp [hSame]
      · simp [hSame, Ne.symm hSame]

/-! ## Under which children -/

/-- Above the municipalities no child names a district. -/
theorem district_of_child (hc : c.Gapless) (hParent : c.parent? = some k)
    (hAbove : k.municipality = none) : c.district = none := by
  cases hc with
  | root | region r | province r v | municipality r v m => rfl
  | district r v m d =>
    rw [← Option.some.inj hParent] at hAbove
    cases hAbove

/-- In a municipality a child names a district of it and nothing else. -/
theorem withoutDistrict_of_child (hc : c.Gapless) (hParent : c.parent? = some k) {m : Int}
    (hm : k.municipality = some m) : { c with district := none } = k := by
  cases hc with
  | root => cases hParent
  | region r | province r v | municipality r v m =>
    rw [← Option.some.inj hParent] at hm
    cases hm
  | district r v m d => exact Option.some.inj hParent

section Children

variable (ht : s.territory.Unambiguous) (hk : s.territory.IsPath k)
include ht hk

/-- **Undeclared districts.** In a municipality with districts, who declared none is found under
each of them. -/
theorem declaredWithin_below (hLevel : (s.territory.below k).1 = .district)
    (hNone : r.district = none) (hc : c ∈ (s.territory.below k).2.map Territory.Child.scope) :
    s.declaredWithin c r = s.declaredWithin k r := by
  obtain ⟨hPath, hParent⟩ := (hk.mem_below_iff ht.toWellFormed).mp hc
  obtain ⟨m, hm, hd⟩ : ∃ m, k.municipality = some m ∧ k.district = none := by
    rcases hk.level_cases with ⟨hNot, -⟩ | ⟨-, hHere⟩ | hLast
    · exact absurd hLevel hNot
    · exact hHere
    · rw [hLevel] at hLast
      cases hLast
  have hBare : { c with district := none } = k := withoutDistrict_of_child hPath.gapless hParent hm
  rw [declaredWithin_eq_placeInScope (.inl hd), declaredWithin, hNone]
  rw [hBare, Option.isNone_none, if_pos rfl]

/-- **Elsewhere** somebody is found under just one child. -/
theorem countP_declaredWithin (hNodes : (s.territory.below k).1 ≠ .sectionList)
    (hPlace : s.territory.HasPlace r.municipalityId r.district)
    (hElsewhere : (s.territory.below k).1 = .district → r.district ≠ none) :
    ((s.territory.below k).2.map Territory.Child.scope).countP (s.declaredWithin · r) =
      if s.declaredWithin k r then 1 else 0 := by
  -- there the place decides, of the path itself and of every child
  have hPlain : k.district = none ∧ k.isPlace r.municipalityId r.district = false ∧
      ∀ c ∈ (s.territory.below k).2.map Territory.Child.scope,
        c.district = none ∨ r.district ≠ none := by
    rw [Scope.isPlace, Bool.and_eq_false_iff, decide_eq_false_iff_not, decide_eq_false_iff_not]
    rcases hk.level_cases with ⟨-, -, hAbove⟩ | ⟨hLevel, m, -, hd⟩ | hLast
    · refine ⟨hk.district hAbove, .inl ?_, fun c hc => .inl ?_⟩
      · rw [hAbove]
        exact (Option.some_ne_none _).symm
      · obtain ⟨hPath, hParent⟩ := (hk.mem_below_iff ht.toWellFormed).mp hc
        exact district_of_child hPath.gapless hParent hAbove
    · have hDeclared := hElsewhere hLevel
      refine ⟨hd, .inr ?_, fun _ _ => .inr hDeclared⟩
      rw [hd]
      exact hDeclared.symm
    · exact absurd hLast hNodes
  obtain ⟨hDistrict, hNotHere, hBelow⟩ := hPlain
  -- and the children divide what lies below the path
  have hCount := hk.countP_placeInScope ht hPlace
  rw [hNotHere, Bool.not_false, Bool.and_true] at hCount
  rw [declaredWithin_eq_placeInScope (.inl hDistrict), ← hCount]
  exact List.countP_congr fun c hc => by rw [declaredWithin_eq_placeInScope (hBelow c hc)]

/-- Somebody is found under a child exactly if found in the parent. -/
theorem exists_declaredWithin_iff (hNodes : (s.territory.below k).1 ≠ .sectionList)
    (hPlace : s.territory.HasPlace r.municipalityId r.district) :
    (∃ c ∈ (s.territory.below k).2.map Territory.Child.scope, s.declaredWithin c r) ↔
      s.declaredWithin k r := by
  by_cases hEverywhere : (s.territory.below k).1 = .district ∧ r.district = none
  · obtain ⟨hLevel, hNone⟩ := hEverywhere
    obtain ⟨child, hChild⟩ := List.exists_mem_of_ne_nil _ (Territory.below_ne_nil hLevel)
    have hc := List.mem_map_of_mem (f := Territory.Child.scope) hChild
    constructor
    · rintro ⟨c', hc', hFound⟩
      rwa [declaredWithin_below ht hk hLevel hNone hc'] at hFound
    · intro hFound
      exact ⟨child.scope, hc, by rwa [declaredWithin_below ht hk hLevel hNone hc]⟩
  · have hCount := countP_declaredWithin ht hk hNodes hPlace
      fun hLevel hNone => hEverywhere ⟨hLevel, hNone⟩
    rw [← List.countP_pos_iff, hCount]
    split
    next hFound => exact iff_of_true Nat.one_pos hFound
    next hNot => exact iff_of_false (Nat.lt_irrefl 0) hNot

end Children

/-! ## Searches over the children -/

/-- Who is found in one scope is found in another if declared within it. -/
theorem mem_found_iff_of_mem {filter : Option String} (h : x ∈ s.found k filter) :
    x ∈ s.found c filter ↔ s.declaredWithin c x.representative := by
  obtain ⟨-, hRest⟩ := mem_found.mp h
  rw [mem_found]
  exact and_iff_left hRest

/-- Whether what is found in a scope is what is found in its children, taken together. Who declared
no district is found in every district, anybody else in one child. -/
structure IsDivided (level : Level) (whole : List RepresentativeSummary)
    (parts : List (List RepresentativeSummary)) : Prop where
  union : ∀ x, x ∈ whole ↔ ∃ part ∈ parts, x ∈ part
  everywhere : level = .district → ∀ x ∈ whole, x.representative.district = none →
    ∀ part ∈ parts, x ∈ part
  once : ∀ x ∈ whole, (level = .district → x.representative.district ≠ none) →
    parts.countP (x ∈ ·) = 1

/-- **Division.** What is found in a path is divided among its children. -/
theorem found_isDivided (ht : s.territory.Unambiguous) (hk : s.territory.IsPath k)
    (hNodes : (s.territory.below k).1 ≠ .sectionList)
    (hPlaces : ∀ r ∈ s.representatives, s.territory.HasPlace r.municipalityId r.district)
    (filter : Option String) :
    IsDivided (s.territory.below k).1 (s.found k filter)
      (((s.territory.below k).2.map Territory.Child.scope).map fun c => s.found c filter) := by
  refine ⟨fun x => ⟨fun hx => ?_, ?_⟩, fun hLevel x hx hNone part hPart => ?_,
    fun x hx hElsewhere => ?_⟩
  · obtain ⟨hWithin, hMem, -⟩ := mem_found.mp hx
    obtain ⟨c, hc, hBelow⟩ := (exists_declaredWithin_iff ht hk hNodes (hPlaces _ hMem)).mpr hWithin
    exact ⟨_, List.mem_map_of_mem hc, (mem_found_iff_of_mem hx).mpr hBelow⟩
  · rintro ⟨part, hPart, hx⟩
    obtain ⟨c, hc, rfl⟩ := List.mem_map.mp hPart
    obtain ⟨hBelow, hMem, -⟩ := mem_found.mp hx
    refine (mem_found_iff_of_mem hx).mpr ?_
    exact (exists_declaredWithin_iff ht hk hNodes (hPlaces _ hMem)).mp ⟨c, hc, hBelow⟩
  · obtain ⟨c, hc, rfl⟩ := List.mem_map.mp hPart
    rw [mem_found_iff_of_mem hx, declaredWithin_below ht hk hLevel hNone hc]
    exact (mem_found.mp hx).1
  · obtain ⟨hWithin, hMem, -⟩ := mem_found.mp hx
    have hCount := countP_declaredWithin ht hk hNodes (hPlaces _ hMem) hElsewhere
    rw [if_pos hWithin] at hCount
    rw [List.countP_map, ← hCount]
    refine List.countP_congr fun c _ => ?_
    rw [Function.comp, decide_eq_true_iff]
    exact mem_found_iff_of_mem hx

/-! ## The counter -/

/-- **Who holds nothing** is counted among those that are found, in a district only if declared for
it. -/
theorem available_eq_countP (hk : s.territory.IsPath k) :
    (s.count k).available = (s.found k none).countP fun x =>
      x.sectionsHeld = 0 && (k.district = none || x.representative.district = k.district) := by
  have hCount : (s.count k).available = s.representatives.countP fun r =>
      s.territory.placeInScope r.municipalityId r.district k && (s.slots.heldBy r.id).isEmpty :=
    List.countP_eq_length_filter.symm
  rw [hCount, found, (sortBy_perm _ _).countP_eq, List.countP_map, List.countP_filter]
  refine List.countP_congr fun r _ => ?_
  have hEmpty : (s.slots.heldBy r.id).isEmpty ↔ (s.summary s.slots r).sectionsHeld = 0 :=
    List.isEmpty_iff_length_eq_zero
  -- without a filter everybody is kept
  have hAll : (needle? none).all r.matchesText = true := rfl
  rw [placeInScope_eq_declaredWithin hk, hAll]
  simp only [Function.comp, Bool.and_true, Bool.and_eq_true, decide_eq_true_iff, hEmpty]
  constructor
  · rintro ⟨⟨hWithin, hDistrict⟩, hNothing⟩
    exact ⟨⟨hNothing, hDistrict⟩, hWithin⟩
  · rintro ⟨⟨hNothing, hDistrict⟩, hWithin⟩
    exact ⟨⟨hWithin, hDistrict⟩, hNothing⟩

/-! ## Searches -/

/-- **Searches and counters agree.** Over validated reference data whose districts are told apart,
whoever is assigned where, a search of a scope that resolves succeeds. It lists each representative
once, in order, with as many slots as are listed. If the view of the scope shows nodes, what is
found in the scope is divided among them. And the counter of those who are available counts those
found without a filter who hold nothing, in a district only those who declared it. -/
theorem search_agrees (hValid : s.territory.validate = .ok ())
    (hDistricts : s.territory.HasDistinctDistricts)
    (hRepresentatives : ∀ r ∈ s.representatives, s.territory.validateRepresentative r = .ok ())
    (hIds : (s.representatives.map Representative.id).Nodup)
    (hSections : ∀ a ∈ s.assignments, (s.territory.section? a.sectionId).isSome)
    (hResolve : s.territory.resolve scope = .ok k) (filter : Option String) :
    ∃ whole everybody, s.search scope filter = .ok whole ∧ s.search scope none = .ok everybody ∧
      whole.Pairwise RepresentativeSummary.Precedes ∧
      (∀ x ∈ whole, x.sectionsHeld = x.held.length) ∧
      (∀ cache v ns, (s.view scope cache).1 = .ok v → v.content = .nodes ns →
        ∃ parts, ns.map (fun n => s.search n.scope filter) = parts.map .ok ∧
          IsDivided v.level whole parts) ∧
      (s.count k).available = everybody.countP fun x =>
        x.sectionsHeld = 0 && (k.district = none || x.representative.district = k.district) := by
  have ht := Territory.validate_unambiguous hValid hDistricts
  have hPlaces : ∀ r ∈ s.representatives, s.territory.HasPlace r.municipalityId r.district :=
    fun r hr => Territory.validateRepresentative_eq_ok ht.toWellFormed (hRepresentatives r hr)
  have hk : s.territory.IsPath k := Territory.resolve_isPath hResolve
  refine ⟨s.found k filter, s.found k none, search_of_resolve hResolve filter,
    search_of_resolve hResolve none, found_pairwise hIds k filter, fun x hx => ?_,
    fun cache v ns hView hContent => ?_, available_eq_countP hk⟩
  · obtain ⟨-, -, -, hSummary⟩ := mem_found.mp hx
    rw [← hSummary]
    exact sectionsHeld_eq hSections x.representative
  · have hFaithful := isFaithful_of_view hView
    have hScope : k = v.scope := Except.ok.inj (hResolve.symm.trans (scope_of_view hView).1)
    subst hScope
    have hNodes : (s.territory.below v.scope).1 ≠ .sectionList := by
      intro hLast
      have hKind := hFaithful.content
      rw [if_pos (hFaithful.level.trans hLast)] at hKind
      obtain ⟨bs, hSectionList⟩ := hKind
      rw [hContent] at hSectionList
      cases hSectionList
    rw [hFaithful.level]
    refine ⟨_, ?_, found_isDivided ht hk hNodes hPlaces filter⟩
    rw [← hFaithful.scopes, hContent, List.map_map, List.map_map]
    refine List.map_congr_left fun n hn => ?_
    have hListed : n ∈ v.content.nodeList := by rwa [hContent]
    -- the scope of a node is a path, which resolves to itself
    have hChild := ((hk.mem_below_iff ht.toWellFormed).mp (hFaithful.mem_below hListed)).1
    exact search_of_resolve hChild.resolve_eq filter

end Snapshot

/-- In the town one representative is found in the first district alone and the other one in both.
The latter is the only one who holds nothing. -/
theorem Snapshot.search_agrees_town :
    Territory.town.validate = .ok () ∧ Territory.town.HasDistinctDistricts ∧
    (∀ r ∈ town.representatives, Territory.town.validateRepresentative r = .ok ()) ∧
    (town.representatives.map Representative.id).Nodup ∧
    (∀ a ∈ town.assignments, (Territory.town.section? a.sectionId).isSome) ∧
    Territory.town.resolve (.ofMunicipality 1) = .ok ⟨some 1, some 1, some 1, none⟩ ∧
    ∃ whole parts, town.search (.ofMunicipality 1) none = .ok whole ∧
      whole.map (·.representative.id) = [1, 2] ∧ whole.Pairwise RepresentativeSummary.Precedes ∧
      parts.map (fun part => part.map (·.representative.id)) = [[1, 2], [2]] ∧
      IsDivided .district whole parts ∧
      (town.count ⟨some 1, some 1, some 1, none⟩).available = 1 := by
  have hValid := Territory.validate_town
  have hDistricts := Territory.hasDistinctDistricts_town
  have hRepresentatives : ∀ r ∈ town.representatives,
      Territory.town.validateRepresentative r = .ok () := by decide
  have hIds : (town.representatives.map Representative.id).Nodup := by decide
  have hSections : ∀ a ∈ town.assignments, (Territory.town.section? a.sectionId).isSome := by
    decide
  have hResolve : Territory.town.resolve (.ofMunicipality 1) =
      .ok ⟨some 1, some 1, some 1, none⟩ := by rfl
  obtain ⟨whole, _, hSearch, -, hOrdered, -, hDivided, -⟩ :=
    search_agrees (s := town) hValid hDistricts hRepresentatives hIds hSections hResolve none
  obtain ⟨v, ns, centre, hill, hView, hContent, hLevel, hParts, hCentre, hHill⟩ :
      ∃ v ns centre hill, (town.view (.ofMunicipality 1) .empty).1 = .ok v ∧
        v.content = .nodes ns ∧ v.level = .district ∧
        ns.map (fun n => town.search n.scope none) = [centre, hill].map .ok ∧
        centre.map (·.representative.id) = [1, 2] ∧ hill.map (·.representative.id) = [2] :=
    ⟨_, _, _, _, rfl, rfl, rfl, rfl, by rfl, by rfl⟩
  obtain ⟨parts, hSame, hIsDivided⟩ := hDivided .empty v ns hView hContent
  have hOk : Function.Injective
      (Except.ok : List RepresentativeSummary → Except OperationError _) :=
    fun _ _ => Except.ok.inj
  obtain rfl : [centre, hill] = parts := List.map_injective_iff.mpr hOk (hParts.symm.trans hSame)
  obtain ⟨w, hFound, hBoth⟩ : ∃ w, town.search (.ofMunicipality 1) none = .ok w ∧
      w.map (·.representative.id) = [1, 2] := ⟨_, rfl, by rfl⟩
  obtain rfl : whole = w := Except.ok.inj (hSearch.symm.trans hFound)
  rw [hLevel] at hIsDivided
  refine ⟨hValid, hDistricts, hRepresentatives, hIds, hSections, hResolve, whole, _, hSearch, hBoth,
    hOrdered, ?_, hIsDivided, by rfl⟩
  rw [List.map_cons, List.map_singleton, hCentre, hHill]

end PollRoster
