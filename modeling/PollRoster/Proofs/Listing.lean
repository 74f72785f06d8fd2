import Mathlib.Data.List.Perm.Basic
import PollRoster.Proofs.Paths
import PollRoster.Proofs.Validation

/-!
# What is listed below a path

The children that are listed below a path are the paths one step deeper, and no path is listed
twice. What lies properly below a path is therefore divided among its children: each part of it lies
in exactly one of them.

Main results:

* `IsPath.mem_below_iff`, `IsPath.nodup_below` — which scopes are listed below a path.
* `IsPath.below_eq_sectionList_iff` — which paths list sections instead.
* `IsPath.countP_below`, `IsPath.countP_placeInScope` — the children divide what lies below a path.
-/

namespace PollRoster

/-! ## Lists by key -/

/-- A map that tells the keys apart has no value twice on a part of a list without repeated keys. -/
theorem nodup_map_of_key {key : α → κ} {f : α → β} {xs ys : List α} (hKeys : (xs.map key).Nodup)
    (hSub : ys.Sublist xs) (hTells : ∀ x ∈ ys, ∀ y ∈ ys, f x = f y → key x = key y) :
    (ys.map f).Nodup := by
  have hYs : (ys.map key).Nodup := (hSub.map key).nodup hKeys
  rw [List.Nodup, List.pairwise_map] at hYs ⊢
  exact hYs.imp_of_mem fun hx hy hNe hEq => hNe (hTells _ hx _ hy hEq)

/-- If each member of a list is kept by one of the filters or by none, the filters together keep
each member that one of them keeps, once. -/
theorem perm_flatMap_filter {r : β → α → Bool} {q : α → Bool} {cs : List β} {xs : List α}
    (h : ∀ x ∈ xs, cs.countP (r · x) = if q x then 1 else 0) :
    (cs.flatMap fun c => xs.filter (r c)).Perm (xs.filter q) := by
  induction xs with
  | nil => simp
  | cons x xs ih =>
    obtain ⟨hx, hxs⟩ := List.forall_mem_cons.mp h
    -- the first member apart from the others
    have hSplit : ∀ c, (x :: xs).filter (r c) = (if r c x then [x] else []) ++ xs.filter (r c) := by
      intro c
      rw [List.filter_cons]
      split <;> rfl
    have hFirst : (cs.flatMap fun c => if r c x then [x] else []) =
        List.replicate (cs.countP (r · x)) x := by
      clear ih h hx hxs hSplit
      induction cs with
      | nil => rfl
      | cons c cs ih =>
        rw [List.flatMap_cons, ih, List.countP_cons]
        split
        · rw [List.replicate_succ, List.singleton_append]
        · rw [List.nil_append, Nat.add_zero]
    simp only [hSplit]
    refine (List.flatMap_append_perm cs _ _).symm.trans ?_
    rw [hFirst, hx, List.filter_cons]
    split
    · exact (ih hxs).cons x
    · exact ih hxs

/-- Whether a place is the one that a scope names, and not one further down. -/
def Scope.isPlace (k : Scope) (municipalityId : Int) (district : Option Nat) : Bool :=
  k.municipality = some municipalityId && k.district = district

namespace Territory

variable {t : Territory} {k p c : Scope}

/-! ## Records that are told apart -/

/-- Whether no number of a district repeats within a municipality. -/
def HasDistinctDistricts (t : Territory) : Prop :=
  (t.districts.map fun d => (d.municipalityId, d.number)).Nodup

/-- A well-formed territory whose records are told apart by the scopes they are listed under. -/
structure Unambiguous (t : Territory) : Prop extends t.WellFormed where
  regionIds : (t.regions.map Region.id).Nodup
  districtNumbers : t.HasDistinctDistricts

theorem validate_unambiguous {u : Unit} (h : t.validate = .ok u)
    (hDistricts : t.HasDistinctDistricts) : t.Unambiguous where
  toWellFormed := validate_wellFormed h
  regionIds := regionIds_of_validate h
  districtNumbers := hDistricts

/-! ## Children -/

theorem below_of_sectionList (h : (t.below k).1 = .sectionList) : (t.below k).2 = [] := by
  rw [below] at h ⊢
  split at h
  next => exact Level.noConfusion h
  next => exact Level.noConfusion h
  next => exact Level.noConfusion h
  next =>
    dsimp only at h ⊢
    split at h
    · exact Level.noConfusion h
    next hPlain => rw [if_neg hPlain]

/-- Where districts are listed there are some. -/
theorem below_ne_nil (h : (t.below k).1 = .district) : (t.below k).2 ≠ [] := by
  rw [below] at h ⊢
  split at h
  next => exact Level.noConfusion h
  next => exact Level.noConfusion h
  next => exact Level.noConfusion h
  next =>
    dsimp only at h ⊢
    split at h
    next hSplit =>
      rw [if_pos hSplit]
      simp only [Bool.and_eq_true, Bool.not_eq_true', List.isEmpty_eq_false_iff] at hSplit
      simpa using hSplit.1.2
    next => exact Level.noConfusion h

theorem IsPath.rank_below (hk : t.IsPath k) :
    (t.below k).1 = .sectionList ∨ (t.below k).1.rank = k.depth := by
  cases hk.gapless with
  | root | region r | province r v => exact .inr rfl
  | municipality r v m =>
    rw [Territory.below]
    dsimp only
    split
    · exact .inr rfl
    · exact .inl rfl
  | district r v m d =>
    rw [Territory.below]
    simp

theorem IsPath.depth_le_rank (hk : t.IsPath k) : k.depth ≤ (t.below k).1.rank := by
  rcases hk.rank_below with h | h
  · rw [h]
    cases hk.gapless <;> simp [Scope.depth, Level.rank]
  · exact Nat.le_of_eq h.symm

theorem IsPath.parent?_of_below (hk : t.IsPath k) {child : Child} (hChild : child ∈ (t.below k).2) :
    child.scope.parent? = some k := by
  cases hk.gapless with
  | root =>
    obtain ⟨r, -, rfl⟩ := List.mem_map.mp hChild
    rfl
  | region r =>
    obtain ⟨p, -, rfl⟩ := List.mem_map.mp hChild
    rfl
  | province r v =>
    obtain ⟨m, -, rfl⟩ := List.mem_map.mp hChild
    rfl
  | municipality r v m =>
    rw [Territory.below] at hChild
    dsimp only at hChild
    split at hChild
    · obtain ⟨d, -, rfl⟩ := List.mem_map.mp hChild
      rfl
    · cases hChild
  | district r v m d => simp [Territory.below] at hChild

/-- The children of a path lie within it. -/
theorem IsPath.contains_below (hk : t.IsPath k) {child : Child} (hChild : child ∈ (t.below k).2) :
    k.contains child.scope :=
  Scope.contains_of_parent? (hk.parent?_of_below hChild)

/-- The children of a path are shown on a deeper level. -/
theorem IsPath.rank_below_lt (hk : t.IsPath k) (hp : t.IsPath p)
    (hMem : p ∈ (t.below k).2.map Child.scope) :
    (t.below k).1.rank < (t.below p).1.rank := by
  obtain ⟨child, hChild, rfl⟩ := List.mem_map.mp hMem
  have hDepth : child.scope.depth = k.depth + 1 :=
    hp.gapless.depth_of_parent? (hk.parent?_of_below hChild)
  have hRank : (t.below k).1.rank = k.depth := by
    refine hk.rank_below.resolve_left fun hLast => ?_
    -- a list of sections has no children
    rw [below_of_sectionList hLast] at hChild
    exact List.not_mem_nil hChild
  have hDeeper := hp.depth_le_rank
  omega

/-- **Children.** What is listed below a path are the paths whose parent it is. -/
theorem IsPath.mem_below_iff (hWell : t.WellFormed) (hk : t.IsPath k) :
    c ∈ (t.below k).2.map Child.scope ↔ t.IsPath c ∧ c.parent? = some k := by
  constructor
  · intro h
    obtain ⟨child, hChild, rfl⟩ := List.mem_map.mp h
    exact ⟨hk.below hWell hChild, hk.parent?_of_below hChild⟩
  · rintro ⟨hc, hParent⟩
    rw [List.mem_map]
    cases hc.gapless with
    | root => exact nomatch hParent
    | region r =>
      obtain rfl := Option.some.inj hParent
      obtain ⟨x, hx, rfl⟩ := region?_isSome.mp (hc.region r rfl)
      exact ⟨_, List.mem_map_of_mem hx, rfl⟩
    | province r v =>
      obtain rfl := Option.some.inj hParent
      obtain ⟨x, hx, hr⟩ := hc.province v rfl
      obtain ⟨hMem, rfl⟩ := province?_eq_some hx
      have hOf : x ∈ t.provincesOf r :=
        List.mem_filter.mpr ⟨hMem, decide_eq_true (Option.some.inj hr).symm⟩
      exact ⟨_, List.mem_map_of_mem hOf, rfl⟩
    | municipality r v m =>
      obtain rfl := Option.some.inj hParent
      obtain ⟨x, hx, hv, -⟩ := hc.municipality m rfl
      obtain ⟨hMem, rfl⟩ := municipality?_eq_some hx
      have hOf : x ∈ t.municipalitiesOf v :=
        List.mem_filter.mpr ⟨hMem, decide_eq_true (Option.some.inj hv).symm⟩
      exact ⟨_, List.mem_map_of_mem hOf, rfl⟩
    | district r v m d =>
      obtain rfl := Option.some.inj hParent
      obtain ⟨x, hx, -, hDistrict⟩ := hc.municipality m rfl
      obtain ⟨hSplit, hFound⟩ := hDistrict d rfl
      obtain ⟨y, hy, hOf, rfl⟩ := district?_isSome.mp hFound
      have hMem : y ∈ t.districtsOf m := List.mem_filter.mpr ⟨hy, decide_eq_true hOf⟩
      have hSome : t.districtsOf m ≠ [] := List.ne_nil_of_mem hMem
      rw [Territory.below]
      simp only [hx, Option.any_some, hSplit, Bool.true_and, List.isEmpty_eq_false_iff.mpr hSome,
        Option.isNone_none, Bool.not_false, ite_true]
      exact ⟨_, List.mem_map_of_mem hMem, rfl⟩

/-- No two children of a path have one scope. -/
theorem IsPath.nodup_below (ht : t.Unambiguous) (hk : t.IsPath k) :
    ((t.below k).2.map Child.scope).Nodup := by
  -- on every level the scope of a child tells the key of its record
  cases hk.gapless with
  | root =>
    rw [Territory.below, List.map_map]
    refine nodup_map_of_key ht.regionIds (List.Sublist.refl _) fun x _ y _ h => ?_
    exact Option.some.inj (congrArg Scope.region h)
  | region r =>
    rw [Territory.below, List.map_map]
    refine nodup_map_of_key ht.provinceIds List.filter_sublist fun x _ y _ h => ?_
    exact Option.some.inj (congrArg Scope.province h)
  | province r v =>
    rw [Territory.below, List.map_map]
    refine nodup_map_of_key ht.municipalityIds List.filter_sublist fun x _ y _ h => ?_
    exact Option.some.inj (congrArg Scope.municipality h)
  | municipality r v m =>
    rw [Territory.below]
    dsimp only
    split
    · rw [List.map_map]
      refine nodup_map_of_key ht.districtNumbers List.filter_sublist fun x hx y hy h => ?_
      have hNumber : x.number = y.number := Option.some.inj (congrArg Scope.district h)
      have hx : x.municipalityId = m := of_decide_eq_true (List.mem_filter.mp hx).2
      have hy : y.municipalityId = m := of_decide_eq_true (List.mem_filter.mp hy).2
      rw [hx, hy, hNumber]
    · exact List.nodup_nil
  | district r v m d => simp [Territory.below]

/-- A path names a municipality where it lists districts or sections, and nowhere above. -/
theorem IsPath.level_cases (hk : t.IsPath k) :
    ((t.below k).1 ≠ .district ∧ (t.below k).1 ≠ .sectionList ∧ k.municipality = none) ∨
    ((t.below k).1 = .district ∧ ∃ m, k.municipality = some m ∧ k.district = none) ∨
    (t.below k).1 = .sectionList := by
  cases hk.gapless with
  | root | region r | province r v => exact .inl ⟨Level.noConfusion, Level.noConfusion, rfl⟩
  | municipality r v m =>
    rw [Territory.below]
    dsimp only
    split
    · exact .inr (.inl ⟨rfl, m, rfl, rfl⟩)
    · exact .inr (.inr rfl)
  | district r v m d =>
    rw [Territory.below]
    simp

/-- **Where sections are listed**: in districts, and in municipalities without districts. -/
theorem IsPath.below_eq_sectionList_iff (hWell : t.WellFormed) (hk : t.IsPath k) :
    (t.below k).1 = .sectionList ↔
      ∃ m, k.municipality = some m ∧ (k.district.isSome ∨ t.districtsOf m = []) := by
  cases hk.gapless with
  | root | region r | province r v =>
    constructor
    · exact fun h => Level.noConfusion h
    · rintro ⟨m, hm, -⟩
      exact nomatch hm
  | municipality r v m =>
    obtain ⟨x, hx, -⟩ := hk.municipality m rfl
    rw [Territory.below]
    dsimp only
    split
    next hSplit =>
      have hSome : t.districtsOf m ≠ [] := by
        simp only [Bool.and_eq_true, Bool.not_eq_true', List.isEmpty_eq_false_iff] at hSplit
        exact hSplit.1.2
      simp [hSome]
    next hPlain =>
      -- a district would be recorded in a municipality that is split
      have hNone : t.districtsOf m = [] := by
        rw [List.eq_nil_iff_forall_not_mem]
        intro d hd
        obtain ⟨hMem, hOf⟩ := List.mem_filter.mp hd
        obtain ⟨y, hy, hId, hSplit⟩ := hWell.districts d hMem
        have hFound : t.municipality? m = some y := by
          rw [← of_decide_eq_true hOf, ← hId]
          exact hWell.municipality? hy
        have hSome : t.districtsOf m ≠ [] := List.ne_nil_of_mem hd
        refine hPlain ?_
        simp [hFound, (hSplit _ rfl).1, hSome]
      simp [hNone]
  | district r v m d =>
    rw [Territory.below]
    simp

/-! ## What lies below a path -/

/-- **Partition.** What lies properly below a path lies in exactly one of its children, and nothing
else lies in any of them. -/
theorem IsPath.countP_below (ht : t.Unambiguous) (hk : t.IsPath k) (hp : t.IsPath p) :
    ((t.below k).2.map Child.scope).countP (·.contains p) =
      if k.contains p && k ≠ p then 1 else 0 := by
  have hChild : ∀ c ∈ (t.below k).2.map Child.scope, t.IsPath c ∧ c.parent? = some k :=
    fun c hc => (hk.mem_below_iff ht.toWellFormed).mp hc
  split
  next hBelow =>
    rw [Bool.and_eq_true, decide_eq_true_eq] at hBelow
    obtain ⟨hContains, hNe⟩ := hBelow
    -- the one child is the path cut off just below `k`
    have hStep := hk.gapless.exists_step hp.gapless hContains hNe
    have hMem := (hk.mem_below_iff ht.toWellFormed).mpr ⟨hp.upTo _, hStep⟩
    have hOnly : ∀ c ∈ (t.below k).2.map Child.scope,
        c.contains p = (c == p.upTo (k.depth + 1)) := by
      intro c hc
      obtain ⟨hPath, hParent⟩ := hChild c hc
      rw [Bool.eq_iff_iff, beq_iff_eq]
      constructor
      · intro hIn
        exact hPath.gapless.siblings_eq (hp.upTo _).gapless hParent hStep hIn (p.upTo_contains _)
      · rintro rfl
        exact p.upTo_contains _
    rw [List.countP_congr fun c hc => by rw [hOnly c hc]]
    exact List.count_eq_one_of_mem (hk.nodup_below ht) hMem
  next hNot =>
    rw [List.countP_eq_zero]
    intro c hc hIn
    obtain ⟨hPath, hParent⟩ := hChild c hc
    have hContains : k.contains p := Scope.contains_trans (Scope.contains_of_parent? hParent) hIn
    refine hNot ?_
    rw [hContains, Bool.true_and, decide_eq_true_eq]
    rintro rfl
    -- a child is deeper than its parent, so it does not contain it
    have hDepth := hPath.gapless.depth_of_parent? hParent
    have hSame : c = k := (hPath.gapless.eq_upTo hIn).trans
      (hk.gapless.upTo_of_depth_le (by omega))
    rw [hSame] at hDepth
    omega

/-- **Places are divided.** A recorded place that lies in a path, and is not the path itself, lies
in exactly one of its children. -/
theorem IsPath.countP_placeInScope (ht : t.Unambiguous) (hk : t.IsPath k) {municipalityId : Int}
    {district : Option Nat} (hPlace : t.HasPlace municipalityId district) :
    ((t.below k).2.map Child.scope).countP (t.placeInScope municipalityId district) =
      if t.placeInScope municipalityId district k && !k.isPlace municipalityId district
      then 1 else 0 := by
  obtain ⟨p, hp⟩ := hPlace.exists_path ht.toWellFormed
  have hPath : t.IsPath p := resolve_isPath hp
  have hChildren : ∀ c ∈ (t.below k).2.map Child.scope,
      (t.placeInScope municipalityId district c ↔ c.contains p) := by
    intro c hc
    rw [((hk.mem_below_iff ht.toWellFormed).mp hc).1.placeInScope_eq hp]
  rw [List.countP_congr hChildren, hk.countP_below ht hPath, hk.placeInScope_eq hp]
  -- a path that contains the place is the path of the place when it names it
  have hMunicipality : p.municipality = some municipalityId := municipality_of_resolve hp
  have hDistrict : p.district = district := district_of_resolve hp
  have hSelf : k = p ↔ k.isPlace municipalityId district := by
    rw [Scope.isPlace, Bool.and_eq_true, decide_eq_true_eq, decide_eq_true_eq]
    constructor
    · rintro rfl
      exact ⟨hMunicipality, hDistrict⟩
    · rintro ⟨hkMunicipality, hkDistrict⟩
      obtain ⟨hProvince, hRegion⟩ := hk.eq_above hPath hkMunicipality hMunicipality
      exact Scope.ext hRegion hProvince (hkMunicipality.trans hMunicipality.symm)
        (hkDistrict.trans hDistrict.symm)
  simp [hSelf]

/-- A place that a scope names lies in it. -/
theorem placeInScope_of_isPlace {municipalityId : Int} {district : Option Nat}
    (h : k.isPlace municipalityId district) : t.placeInScope municipalityId district k := by
  rw [Scope.isPlace, Bool.and_eq_true, decide_eq_true_eq, decide_eq_true_eq] at h
  rw [placeInScope, h.1, h.2]
  simp

/-- **Division.** Whatever has a recorded place in a path has it in exactly one of its children, or
names the path itself as its place. -/
theorem IsPath.perm_children (ht : t.Unambiguous) (hk : t.IsPath k) {xs : List α}
    (place : α → Int × Option Nat) (hPlace : ∀ x ∈ xs, t.HasPlace (place x).1 (place x).2) :
    (xs.filter fun x => t.placeInScope (place x).1 (place x).2 k).Perm
      ((((t.below k).2.map Child.scope).flatMap fun c =>
          xs.filter fun x => t.placeInScope (place x).1 (place x).2 c) ++
        xs.filter fun x => k.isPlace (place x).1 (place x).2) := by
  have hBelow := perm_flatMap_filter fun x hx => hk.countP_placeInScope ht (hPlace x hx)
  have hHere : (xs.filter fun x => t.placeInScope (place x).1 (place x).2 k).filter
        (fun x => k.isPlace (place x).1 (place x).2) =
      xs.filter fun x => k.isPlace (place x).1 (place x).2 := by
    rw [List.filter_filter]
    refine List.filter_congr fun x _ => ?_
    cases hSelf : k.isPlace (place x).1 (place x).2 with
    | false => rfl
    | true => rw [placeInScope_of_isPlace hSelf, Bool.and_self]
  have hSplit := List.filter_append_perm (fun x => !k.isPlace (place x).1 (place x).2)
    (xs.filter fun x => t.placeInScope (place x).1 (place x).2 k)
  -- first what lies below the path, then what is right at it
  have hProper : ∀ x, (!k.isPlace (place x).1 (place x).2 &&
      t.placeInScope (place x).1 (place x).2 k) =
      (t.placeInScope (place x).1 (place x).2 k && !k.isPlace (place x).1 (place x).2) :=
    fun _ => Bool.and_comm _ _
  simp only [Bool.not_not, hHere] at hSplit
  simp only [List.filter_filter, hProper] at hSplit
  exact hSplit.symm.trans (hBelow.symm.append_right _)

end Territory

/-- It does not matter whether the sections of a scope or the active ones are picked first. -/
theorem Snapshot.activeSections_eq (s : Snapshot) (k : Scope) :
    s.activeSections k = (s.territory.sections.filter (·.isActive)).filter fun x =>
      s.territory.placeInScope x.municipalityId x.district k :=
  List.filter_comm ..

/-! ## A town in two districts -/

namespace Territory

/-- A town in two districts, with a section in each of them and one in neither. -/
def town : Territory :=
  .ofData
    { regions := [⟨1, "Lazio"⟩]
      provinces := [⟨1, 1, "Roma", "RM"⟩]
      municipalities := [⟨1, 1, "Velletri", true⟩]
      districts := [⟨1, 1, "Centro"⟩, ⟨1, 2, "Colle"⟩]
      sections :=
        [⟨1, 1, "Scuola", "Via Roma 1", 1, some 1, true, 500⟩,
          ⟨2, 2, "Scuola", "Via Roma 1", 1, none, true, 500⟩,
          ⟨3, 3, "Municipio", "Piazza Cairoli 1", 1, some 2, true, 500⟩] }

theorem validate_town : town.validate = .ok () := by rfl

theorem hasDistinctDistricts_town : town.HasDistinctDistricts := by
  rw [HasDistinctDistricts]
  decide

end Territory

/-- The town, where one representative declared a district and holds a section in it, and another
one declared none and holds nothing. -/
def Snapshot.town : Snapshot where
  territory := .town
  representatives :=
    [⟨1, "Anna", "anna@example.org", none, 1, some 1, "", none⟩,
      ⟨2, "Bruno", "bruno@example.org", none, 1, none, "", none⟩]
  assignments := [⟨1, 1, 1, .primary⟩]

end PollRoster
