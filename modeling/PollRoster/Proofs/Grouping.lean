import Mathlib.Algebra.GroupWithZero.Nat
import Mathlib.Data.List.Induction
import PollRoster.Proofs.Labels
import PollRoster.Proofs.Order

/-!
# Grouping sections into buildings

Sections are placed one after the other, each into the building that has its key or into a new one.
After any number of them the buildings are a partition of the sections placed so far; this is the
invariant that one placement keeps. Identifiers of sections may repeat.

Main results:

* `PollingBuilding.sectionIds_group` — grouping only rearranges.
* `PollingBuilding.IsGrouped.place` — what one placement keeps.
* `PollingBuilding.group_partitions` — which sections come together, in which order the buildings
  and their sections are, and what a building takes from its sections.
* `PollingBuilding.IsPartition.home_eq_iff_sameWords` — which sections come together, by the words
  of their names and addresses; `key_eq_of_shown` — the key, by what a building shows.
-/

namespace PollRoster

/-! ## Display order -/

namespace BuildingKey

instance : Std.TransCmp compareForDisplay := inferInstanceAs (Std.TransCmp (compareLex _ _))

/-- By name, then by address, then by municipality. -/
def Precedes (k l : BuildingKey) : Prop :=
  k.name < l.name ∨ k.name = l.name ∧
    (k.address < l.address ∨ k.address = l.address ∧ k.municipalityId < l.municipalityId)

theorem compareForDisplay_eq_lt {k l : BuildingKey} :
    k.compareForDisplay l = .lt ↔ k.Precedes l := by
  simp only [compareForDisplay, compareLex, compareOn, Ordering.then_eq_lt, compare_string_eq_lt,
    Std.compare_eq_iff_eq, Int.compare_eq_lt]
  rfl

/-- The display order tells any two keys apart. -/
theorem compareForDisplay_eq_eq {k l : BuildingKey} : k.compareForDisplay l = .eq ↔ k = l := by
  obtain ⟨municipalityId, name, address⟩ := k
  obtain ⟨municipalityId', name', address'⟩ := l
  simp only [compareForDisplay, compareLex_eq_eq, compareOn, Std.compare_eq_iff_eq, mk.injEq]
  exact ⟨fun ⟨hName, hAddress, hId⟩ => ⟨hId, hName, hAddress⟩,
    fun ⟨hId, hName, hAddress⟩ => ⟨hName, hAddress, hId⟩⟩

theorem ne_of_lt {k l : BuildingKey} (h : k.compareForDisplay l = .lt) : k ≠ l := by
  rintro rfl
  rw [compareForDisplay_eq_eq.mpr rfl] at h
  cases h

end BuildingKey

namespace PollingBuilding

variable {key : BuildingKey} {x : PollingSection} {b : PollingBuilding} {bs : List PollingBuilding}
  {xs : List PollingSection}

/-! ## One placement -/

@[simp] theorem key_add : (b.add x).key = b.key := rfl

/-- A section comes to one of the buildings, be it a new one. -/
theorem sectionIds_place (key : BuildingKey) (x : PollingSection) (bs : List PollingBuilding) :
    ((place key x bs).flatMap sectionIds).Perm (x.id :: bs.flatMap sectionIds) := by
  induction bs with
  | nil => exact .refl _
  | cons b rest ih =>
    rw [place]
    cases key.compareForDisplay b.key with
    | lt => exact .refl _
    | eq =>
      rw [List.flatMap_cons, List.flatMap_cons]
      change (b.sectionIds ++ [x.id] ++ rest.flatMap sectionIds).Perm _
      rw [List.append_assoc]
      exact List.perm_middle
    | gt =>
      rw [List.flatMap_cons, List.flatMap_cons]
      exact (ih.append_left b.sectionIds).trans List.perm_middle

/-- In display order, and no two of one key. -/
def Ordered (bs : List PollingBuilding) : Prop :=
  bs.Pairwise fun b c => b.key.compareForDisplay c.key = .lt

/-- The building that a section comes to: the one that has its key, or else a new one. -/
def homeAmong (bs : List PollingBuilding) (x : PollingSection) : PollingBuilding :=
  (bs.find? (·.key = .ofSection x)).getD (foundedBy (.ofSection x) x)

@[simp] theorem key_homeAmong (bs : List PollingBuilding) (x : PollingSection) :
    (homeAmong bs x).key = .ofSection x := by
  rw [homeAmong]
  cases hFound : bs.find? (·.key = .ofSection x) with
  | some old => simpa using List.find?_some hFound
  | none => rfl

/-- **One placement.** The buildings of other keys stay as they are, and the home of the section
takes it. -/
theorem mem_place (h : Ordered bs) :
    b ∈ place (.ofSection x) x bs ↔
      (b ∈ bs ∧ b.key ≠ .ofSection x) ∨ b = (homeAmong bs x).add x := by
  induction bs with
  | nil => simp [place, homeAmong]
  | cons c rest ih =>
    obtain ⟨hFirst, hRest⟩ := List.pairwise_cons.mp h
    rw [place]
    cases hCompare : (BuildingKey.ofSection x).compareForDisplay c.key with
    | lt =>
      -- all that follow come later still, so the key is new
      have hNew : ∀ old ∈ c :: rest, old.key ≠ .ofSection x := by
        refine List.forall_mem_cons.mpr ⟨(BuildingKey.ne_of_lt hCompare).symm, fun old hOld => ?_⟩
        exact (BuildingKey.ne_of_lt (Std.TransCmp.lt_trans hCompare (hFirst old hOld))).symm
      have hHome : homeAmong (c :: rest) x = foundedBy (.ofSection x) x := by
        rw [homeAmong, List.find?_eq_none.mpr (by simpa using hNew), Option.getD_none]
      rw [hHome, List.mem_cons, and_iff_left_of_imp (hNew b), or_comm]
    | eq =>
      -- keys are distinct, so none of those that follow has this one
      have hKey : c.key = .ofSection x := (BuildingKey.compareForDisplay_eq_eq.mp hCompare).symm
      have hOther : b ∈ rest → b.key ≠ .ofSection x := fun hOld hSame =>
        BuildingKey.ne_of_lt (hFirst b hOld) (hKey.trans hSame.symm)
      have hHome : homeAmong (c :: rest) x = c := by
        rw [homeAmong, List.find?_cons_of_pos (by simpa using hKey), Option.getD_some]
      have hNotFirst : ¬(b = c ∧ b.key ≠ .ofSection x) := fun ⟨hSame, hNot⟩ => hNot (hSame ▸ hKey)
      rw [hHome, List.mem_cons, List.mem_cons, or_and_right, or_iff_right hNotFirst,
        and_iff_left_of_imp hOther, or_comm]
    | gt =>
      have hKey : c.key ≠ .ofSection x := BuildingKey.ne_of_lt (Std.OrientedCmp.lt_of_gt hCompare)
      have hHome : homeAmong (c :: rest) x = homeAmong rest x := by
        rw [homeAmong, List.find?_cons_of_neg (by simpa using hKey), homeAmong]
      have hFirstStays : b = c → b.key ≠ .ofSection x := fun hSame => hSame ▸ hKey
      rw [hHome, List.mem_cons, List.mem_cons, ih hRest, or_and_right,
        and_iff_left_of_imp hFirstStays, or_assoc]

/-- A placement keeps the display order. -/
theorem Ordered.place (h : Ordered bs) : Ordered (place (.ofSection x) x bs) := by
  induction bs with
  | nil => exact List.pairwise_singleton _ _
  | cons c rest ih =>
    obtain ⟨hFirst, hRest⟩ := List.pairwise_cons.mp h
    rw [PollingBuilding.place]
    cases hCompare : (BuildingKey.ofSection x).compareForDisplay c.key with
    | lt =>
      refine List.pairwise_cons.mpr ⟨fun old hOld => ?_, h⟩
      rcases List.mem_cons.mp hOld with rfl | hOld
      · exact hCompare
      · exact Std.TransCmp.lt_trans hCompare (hFirst old hOld)
    | eq => exact List.pairwise_cons.mpr ⟨hFirst, hRest⟩
    | gt =>
      refine List.pairwise_cons.mpr ⟨fun b hb => ?_, ih hRest⟩
      rcases (mem_place hRest).mp hb with ⟨hOld, -⟩ | rfl
      · exact hFirst b hOld
      · rw [key_add, key_homeAmong]
        exact Std.OrientedCmp.lt_of_gt hCompare

/-- Buildings in display order are known by their keys. -/
theorem Ordered.nodup_keys (h : Ordered bs) : (bs.map PollingBuilding.key).Nodup :=
  List.pairwise_map.mpr (h.imp BuildingKey.ne_of_lt)

/-! ## What a building takes from its sections -/

/-- Whether a building has exactly these sections, in this order. -/
structure Houses (b : PollingBuilding) (members : List PollingSection) : Prop where
  sectionIds : b.sectionIds = members.map PollingSection.id
  electorCount : b.electorCount = min maxNumber (members.map PollingSection.electorCount).sum
  /-- There is a first section, and the building is named as that one is. -/
  named : ∃ first, members.head? = some first ∧ b.name = Text.trim first.buildingName ∧
    b.address = Text.trim first.address

theorem houses_foundedBy : ((foundedBy key x).add x).Houses [x] where
  sectionIds := rfl
  electorCount := by rw [List.map_singleton, List.sum_singleton, add, foundedBy, Nat.zero_add]
  named := ⟨x, rfl, rfl, rfl⟩

theorem Houses.add {members : List PollingSection} (h : b.Houses members) (x : PollingSection) :
    (b.add x).Houses (members ++ [x]) where
  sectionIds := by
    rw [List.map_append, ← h.sectionIds]
    rfl
  electorCount := by
    -- a counter that is full stays full
    have hCount := h.electorCount
    rw [List.map_append, List.sum_append, List.map_singleton, List.sum_singleton]
    simp only [PollingBuilding.add]
    omega
  named := by
    obtain ⟨first, hFirst, hNamed⟩ := h.named
    exact ⟨first, by rw [List.head?_append, hFirst, Option.some_or], hNamed⟩

/-! ## All placements -/

/-- Whether buildings are what the given sections come to. -/
structure IsGrouped (xs : List PollingSection) (bs : List PollingBuilding) : Prop where
  ordered : Ordered bs
  houses : ∀ b ∈ bs, b.Houses (xs.filter (BuildingKey.ofSection · = b.key))
  housed : ∀ x ∈ xs, ∃ b ∈ bs, b.key = .ofSection x

/-- The home of a section takes it after those of its key that were given before. -/
theorem IsGrouped.houses_homeAmong_add (h : IsGrouped xs bs) (x : PollingSection) :
    ((homeAmong bs x).add x).Houses
      (xs.filter (BuildingKey.ofSection · = .ofSection x) ++ [x]) := by
  rw [homeAmong]
  cases hFound : bs.find? (·.key = .ofSection x) with
  | some old =>
    have hKey : old.key = .ofSection x := by simpa using List.find?_some hFound
    rw [← hKey]
    exact (h.houses old (List.mem_of_find?_eq_some hFound)).add x
  | none =>
    -- no section so far has the key, for it would be housed
    have hNone : xs.filter (BuildingKey.ofSection · = .ofSection x) = [] := by
      refine List.filter_eq_nil_iff.mpr fun y hy hSame => ?_
      obtain ⟨old, hOld, hKey⟩ := h.housed y hy
      refine List.find?_eq_none.mp hFound old hOld (decide_eq_true ?_)
      exact hKey.trans (of_decide_eq_true hSame)
    rw [hNone]
    exact houses_foundedBy

theorem IsGrouped.place (h : IsGrouped xs bs) (x : PollingSection) :
    IsGrouped (xs ++ [x]) (place (.ofSection x) x bs) where
  ordered := h.ordered.place
  houses b hb := by
    rw [List.filter_append]
    rcases (mem_place h.ordered).mp hb with ⟨hOld, hOther⟩ | rfl
    · rw [List.filter_cons_of_neg (by simpa using hOther.symm), List.filter_nil, List.append_nil]
      exact h.houses b hOld
    · rw [key_add, key_homeAmong, List.filter_cons_of_pos (by simp), List.filter_nil]
      exact h.houses_homeAmong_add x
  housed y hy := by
    -- a section with the key of the new one is housed with it, whenever it was given
    by_cases hSame : BuildingKey.ofSection y = .ofSection x
    · exact ⟨_, (mem_place h.ordered).mpr (.inr rfl), (key_homeAmong bs x).trans hSame.symm⟩
    · have hBefore : y ∈ xs := by
        rcases List.mem_append.mp hy with hy | hy
        · exact hy
        · exact absurd (congrArg _ (List.mem_singleton.mp hy)) hSame
      obtain ⟨old, hOld, hKey⟩ := h.housed y hBefore
      have hOther : old.key ≠ .ofSection x := fun hx => hSame (hKey.symm.trans hx)
      exact ⟨old, (mem_place h.ordered).mpr (.inl ⟨hOld, hOther⟩), hKey⟩

theorem group_concat (xs : List PollingSection) (x : PollingSection) :
    group (xs ++ [x]) = place (.ofSection x) x (group xs) := by
  rw [group, List.foldl_concat, group]

/-- **Grouping rearranges.** The buildings together have the sections that were grouped. -/
theorem sectionIds_group (xs : List PollingSection) :
    ((group xs).flatMap sectionIds).Perm (xs.map PollingSection.id) := by
  induction xs using List.reverseRecOn with
  | nil => exact .refl _
  | append_singleton xs x ih =>
    rw [group_concat, List.map_append]
    exact (sectionIds_place _ x _).trans
      ((ih.cons x.id).trans (List.perm_append_singleton _ _).symm)

theorem isGrouped_group (xs : List PollingSection) : IsGrouped xs (group xs) := by
  induction xs using List.reverseRecOn with
  | nil => exact ⟨List.Pairwise.nil, by simp [group], by simp⟩
  | append_singleton xs x ih =>
    rw [group_concat]
    exact ih.place x

/-! ## Partition -/

theorem IsGrouped.homeAmong_eq_iff (h : IsGrouped xs bs) (hx : x ∈ xs) :
    homeAmong bs x = b ↔ b ∈ bs ∧ b.key = .ofSection x := by
  obtain ⟨home, hHome, hKey⟩ := h.housed x hx
  have hFound : bs.find? (·.key = .ofSection x) = some home :=
    (find?_key_eq_some_iff h.ordered.nodup_keys).mpr ⟨hHome, hKey⟩
  rw [homeAmong, hFound, Option.getD_some, ← find?_key_eq_some_iff h.ordered.nodup_keys, hFound,
    Option.some_inj]

/-- Whether buildings are a partition of sections, of which `home` tells where each is. -/
structure IsPartition (home : PollingSection → PollingBuilding) (xs : List PollingSection)
    (bs : List PollingBuilding) : Prop where
  /-- No section is lost or doubled. -/
  rearranged : (bs.flatMap sectionIds).Perm (xs.map PollingSection.id)
  home_mem : ∀ x ∈ xs, home x ∈ bs
  home_eq_iff : ∀ x ∈ xs, ∀ y ∈ xs, home x = home y ↔ x.municipalityId = y.municipalityId ∧
    normalizeLabel x.buildingName = normalizeLabel y.buildingName ∧
    normalizeLabel x.address = normalizeLabel y.address
  key_home : ∀ x ∈ xs, (home x).key = .ofSection x
  distinct : (bs.map PollingBuilding.key).Nodup
  sorted : (bs.map PollingBuilding.key).Pairwise BuildingKey.Precedes
  /-- A building has the sections that are at home in it, in the order in which they are given. -/
  houses : ∀ b ∈ bs, b.Houses (xs.filter (home · = b))

/-- Sections of one municipality are at home together if their names and addresses have the same
words: neither letter case nor white space tells two buildings apart. -/
theorem IsPartition.home_eq_iff_sameWords {home : PollingSection → PollingBuilding}
    {xs : List PollingSection} {bs : List PollingBuilding} (h : IsPartition home xs bs)
    {x y : PollingSection} (hx : x ∈ xs) (hy : y ∈ xs) :
    home x = home y ↔ x.municipalityId = y.municipalityId ∧
      SameWords x.buildingName y.buildingName ∧ SameWords x.address y.address := by
  rw [h.home_eq_iff x hx y hy, normalizeLabel_eq_iff, normalizeLabel_eq_iff]

/-- What a building shows is trimmed and keeps its case; the key is made of the labels of that. -/
theorem IsPartition.key_eq_of_shown {home : PollingSection → PollingBuilding}
    {xs : List PollingSection} {bs : List PollingBuilding} (h : IsPartition home xs bs)
    {b : PollingBuilding} (hb : b ∈ bs) :
    b.key.name = normalizeLabel b.name ∧ b.key.address = normalizeLabel b.address := by
  obtain ⟨first, hFirst, hName, hAddress⟩ := (h.houses b hb).named
  obtain ⟨hx, hHome⟩ := List.mem_filter.mp (List.mem_of_head? hFirst)
  have hKey : b.key = .ofSection first := of_decide_eq_true hHome ▸ h.key_home first hx
  rw [hKey, hName, hAddress, normalizeLabel_trim, normalizeLabel_trim]
  exact ⟨rfl, rfl⟩

/-- **Grouping is a partition**, in whatever order the sections are given. -/
theorem group_partitions (xs : List PollingSection) :
    ∃ home : PollingSection → PollingBuilding, IsPartition home xs (group xs) := by
  have h := isGrouped_group xs
  have hHome : ∀ x ∈ xs, homeAmong (group xs) x ∈ group xs :=
    fun x hx => ((h.homeAmong_eq_iff hx).mp rfl).1
  refine ⟨homeAmong (group xs), ?_⟩
  exact
    { rearranged := sectionIds_group xs
      home_mem := hHome
      home_eq_iff := by
        intro x hx y hy
        rw [h.homeAmong_eq_iff hx, and_iff_right (hHome y hy), key_homeAmong, eq_comm]
        simp only [BuildingKey.ofSection, BuildingKey.mk.injEq]
      key_home := fun x _ => key_homeAmong (group xs) x
      distinct := h.ordered.nodup_keys
      sorted := List.pairwise_map.mpr (h.ordered.imp BuildingKey.compareForDisplay_eq_lt.mp)
      houses := by
        intro b hb
        -- to be at home in a building is to have its key
        have hSame : xs.filter (homeAmong (group xs) · = b) =
            xs.filter (BuildingKey.ofSection · = b.key) := by
          refine List.filter_congr fun x hx => ?_
          rw [decide_eq_decide, h.homeAmong_eq_iff hx, and_iff_right hb]
          exact eq_comm
        rw [hSame]
        exact h.houses b hb }

end PollingBuilding

end PollRoster
