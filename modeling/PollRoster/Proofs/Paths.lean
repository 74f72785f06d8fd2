import PollRoster.Proofs.Territory

/-!
# Paths and their ancestors

A path names every component above its deepest one. A path that contains another one is therefore
the other one cut off at some depth, the ancestors of a path are its cuts, and each of them is a
path again.

Main results:

* `Gapless.isRelated_of_contains` — the gapless scopes around a scope form a chain.
* `Gapless.siblings_eq`, `Gapless.exists_step` — one child of a path, and no other, contains what
  lies properly below the path.
* `IsPath.upTo`, `IsPath.of_parent?`, `IsPath.of_mem_ancestors` — what is above a path is a path.
-/

namespace PollRoster

namespace Scope

/-- A scope that names every component above its deepest one. -/
inductive Gapless : Scope → Prop
  | root : Gapless ⟨none, none, none, none⟩
  | region (r : Int) : Gapless ⟨some r, none, none, none⟩
  | province (r v : Int) : Gapless ⟨some r, some v, none, none⟩
  | municipality (r v m : Int) : Gapless ⟨some r, some v, some m, none⟩
  | district (r v m : Int) (d : Nat) : Gapless ⟨some r, some v, some m, some d⟩

/-- The scope cut off below its first `n` components. -/
def upTo (s : Scope) (n : Nat) : Scope where
  region := if 1 ≤ n then s.region else none
  province := if 2 ≤ n then s.province else none
  municipality := if 3 ≤ n then s.municipality else none
  district := if 4 ≤ n then s.district else none

variable {s p q k : Scope}

/-! ## Parents -/

theorem contains_of_parent? (h : s.parent? = some k) : k.contains s := by
  rw [parent?] at h
  split_ifs at h <;> simp [← Option.some.inj h, contains, covers]

theorem Gapless.depth_of_parent? (hs : s.Gapless) (h : s.parent? = some k) :
    s.depth = k.depth + 1 := by
  cases hs with
  | root => exact nomatch h
  | region r | province r v | municipality r v m | district r v m d =>
    rw [← Option.some.inj h]
    rfl

theorem ancestors_of_parent? (h : s.parent? = some k) : s.ancestors = k :: k.ancestors := by
  rw [ancestors]
  split
  next hNone => cases h.symm.trans hNone
  next k' hSome => rw [Option.some.inj (hSome.symm.trans h)]

theorem ancestors_of_parent?_eq_none (h : s.parent? = none) : s.ancestors = [] := by
  rw [ancestors]
  split
  · rfl
  next k hSome => cases h.symm.trans hSome

/-- There are no more ancestors than the depth of a scope. -/
theorem length_ancestors_le (s : Scope) : s.ancestors.length ≤ s.depth := by
  induction s using ancestors.induct with
  | case1 s hNone =>
    rw [ancestors_of_parent?_eq_none hNone]
    exact Nat.zero_le _
  | case2 s p hSome ih =>
    have hLess : p.depth < s.depth := depth_of_parent? hSome
    rw [ancestors_of_parent? hSome, List.length_cons]
    omega

@[simp] theorem ancestors_whole : (⟨none, none, none, none⟩ : Scope).ancestors = [] :=
  ancestors_of_parent?_eq_none rfl

@[simp] theorem ancestors_region (r : Int) :
    (⟨some r, none, none, none⟩ : Scope).ancestors = [.root] := by
  rw [ancestors_of_parent? rfl, ancestors_whole, root]

@[simp] theorem ancestors_province (r v : Int) :
    (⟨some r, some v, none, none⟩ : Scope).ancestors = [⟨some r, none, none, none⟩, .root] := by
  rw [ancestors_of_parent? rfl, ancestors_region]

@[simp] theorem ancestors_municipality (r v m : Int) :
    (⟨some r, some v, some m, none⟩ : Scope).ancestors =
      [⟨some r, some v, none, none⟩, ⟨some r, none, none, none⟩, .root] := by
  rw [ancestors_of_parent? rfl, ancestors_province]

@[simp] theorem ancestors_district (r v m : Int) (d : Nat) :
    (⟨some r, some v, some m, some d⟩ : Scope).ancestors =
      [⟨some r, some v, some m, none⟩, ⟨some r, some v, none, none⟩,
        ⟨some r, none, none, none⟩, .root] := by
  rw [ancestors_of_parent? rfl, ancestors_municipality]

/-! ## Cutting off -/

theorem upTo_contains (p : Scope) (n : Nat) : (p.upTo n).contains p := by
  simp only [contains, upTo, covers]
  split_ifs <;> simp

/-- Of two cuts the shorter one is a cut of the longer one, which it contains therefore. -/
theorem upTo_contains_of_le (p : Scope) {m n : Nat} (h : m ≤ n) :
    (p.upTo m).contains (p.upTo n) := by
  have hComponent : ∀ {α : Type} (i : Nat) (x : Option α),
      (if i ≤ m then x else none) = if i ≤ m then (if i ≤ n then x else none) else none := by
    intro α i x
    split_ifs with hm hn
    · rfl
    · omega
    · rfl
  have hCut : p.upTo m = (p.upTo n).upTo m := by
    simp only [upTo, ← hComponent]
  rw [hCut]
  exact upTo_contains _ m

theorem Gapless.upTo_of_depth_le (hs : s.Gapless) {n : Nat} (h : s.depth ≤ n) : s.upTo n = s := by
  cases hs <;> simp [depth] at h <;> simp [upTo] <;> omega

theorem Gapless.depth_le (hs : s.Gapless) : s.depth ≤ 4 := by
  cases hs <;> simp [depth]

/-- A gapless scope is what it contains, cut off at its own depth. -/
theorem Gapless.eq_upTo (hk : k.Gapless) (h : k.contains p) : k = p.upTo k.depth := by
  simp only [contains, Bool.and_eq_true] at h
  obtain ⟨⟨⟨hRegion, hProvince⟩, hMunicipality⟩, hDistrict⟩ := h
  cases hk <;> simp_all [upTo, depth, covers_some]

theorem Gapless.parent?_upTo (hp : p.Gapless) {n : Nat} (h : n < p.depth) :
    (p.upTo (n + 1)).parent? = some (p.upTo n) := by
  have hFour : p.depth ≤ 4 := hp.depth_le
  -- on each of the four depths at which a scope can be cut
  obtain hn | hn | hn | hn : n = 0 ∨ n = 1 ∨ n = 2 ∨ n = 3 := by omega
  all_goals
    subst hn
    cases hp <;> simp_all [depth, parent?, upTo]

/-- **Scopes around a scope.** Of two gapless scopes that contain something in common one contains
the other. -/
theorem Gapless.isRelated_of_contains (hk : k.Gapless) (hq : q.Gapless) (hkp : k.contains p)
    (hqp : q.contains p) : k.isRelated q := by
  have hkCut : k = p.upTo k.depth := hk.eq_upTo hkp
  have hqCut : q = p.upTo q.depth := hq.eq_upTo hqp
  rw [isRelated, Bool.or_eq_true]
  rcases Nat.le_total k.depth q.depth with hShorter | hShorter
  · refine .inl ?_
    rw [hkCut, hqCut]
    exact p.upTo_contains_of_le hShorter
  · refine .inr ?_
    rw [hkCut, hqCut]
    exact p.upTo_contains_of_le hShorter

/-- **Siblings.** Two children of one scope contain nothing in common. -/
theorem Gapless.siblings_eq (hp : p.Gapless) (hq : q.Gapless) (hpk : p.parent? = some k)
    (hqk : q.parent? = some k) (hps : p.contains s) (hqs : q.contains s) : p = q := by
  have hDepth : p.depth = q.depth := by
    rw [hp.depth_of_parent? hpk, hq.depth_of_parent? hqk]
  rw [hp.eq_upTo hps, hq.eq_upTo hqs, hDepth]

/-- Cut off below a scope that it properly contains, a scope is that one's child. -/
theorem Gapless.exists_step (hk : k.Gapless) (hp : p.Gapless) (h : k.contains p) (hne : k ≠ p) :
    (p.upTo (k.depth + 1)).parent? = some k := by
  have hCut : k = p.upTo k.depth := hk.eq_upTo h
  have hDeeper : k.depth < p.depth := by
    by_contra hDeep
    -- nothing would be cut off then
    have hWhole : p.upTo k.depth = p := hp.upTo_of_depth_le (by omega)
    exact hne (hCut.trans hWhole)
  rw [hp.parent?_upTo hDeeper, ← hCut]

end Scope

namespace Territory

variable {t : Territory} {k p : Scope}

theorem region?_eq_some {id : Int} {r : Region} (h : t.region? id = some r) :
    r ∈ t.regions ∧ r.id = id := by
  rw [region?_eq] at h
  exact ⟨(findLast?_eq_some h).1, of_decide_eq_true (findLast?_eq_some h).2⟩

theorem district?_eq_some {municipalityId : Int} {number : Nat} {d : District}
    (h : t.district? municipalityId number = some d) :
    d ∈ t.districts ∧ d.municipalityId = municipalityId ∧ d.number = number := by
  have hFound := List.find?_some h
  simp only [Bool.and_eq_true, decide_eq_true_eq] at hFound
  exact ⟨List.mem_of_find?_eq_some h, hFound⟩

/-! ## Paths -/

theorem IsPath.gapless (h : t.IsPath k) : k.Gapless := by
  obtain ⟨region, province, municipality, district⟩ := k
  have hProvince : ∀ v, province = some v → ∃ r, region = some r := by
    intro v hv
    obtain ⟨x, -, hr⟩ := h.province v hv
    exact ⟨_, hr⟩
  cases municipality with
  | none =>
    obtain rfl : district = none := h.district rfl
    cases province with
    | none =>
      cases region with
      | none => exact .root
      | some r => exact .region r
    | some v =>
      obtain ⟨r, rfl⟩ := hProvince v rfl
      exact .province r v
  | some m =>
    obtain ⟨x, -, rfl, -⟩ := h.municipality m rfl
    obtain ⟨r, rfl⟩ := hProvince _ rfl
    cases district with
    | none => exact .municipality r _ m
    | some d => exact .district r _ m d

theorem IsPath.root : t.IsPath .root :=
  ⟨fun _ => rfl, fun _ h => (nomatch h), fun _ h => (nomatch h), fun _ h => (nomatch h)⟩

/-- What is left of a path that is cut off is a path. -/
theorem IsPath.upTo (h : t.IsPath p) (n : Nat) : t.IsPath (p.upTo n) where
  district := by
    intro hNone
    simp only [Scope.upTo] at hNone ⊢
    split_ifs at hNone ⊢ with h4 h3
    · exact h.district hNone
    · omega
    · rfl
    · rfl
  municipality := by
    intro id hId
    simp only [Scope.upTo] at hId ⊢
    split_ifs at hId with h3
    obtain ⟨m, hm, hp, hd⟩ := h.municipality id hId
    refine ⟨m, hm, ?_, fun number hNumber => hd number ?_⟩
    · rw [if_pos (by omega), hp]
    · split_ifs at hNumber
      exact hNumber
  province := by
    intro id hId
    simp only [Scope.upTo] at hId ⊢
    split_ifs at hId with h2
    obtain ⟨x, hx, hr⟩ := h.province id hId
    exact ⟨x, hx, by rw [if_pos (by omega), hr]⟩
  region := by
    intro id hId
    simp only [Scope.upTo] at hId
    split_ifs at hId
    exact h.region id hId

theorem IsPath.of_parent? (hp : t.IsPath p) (h : p.parent? = some k) : t.IsPath k := by
  have hDepth : p.depth = k.depth + 1 := hp.gapless.depth_of_parent? h
  have hWhole : p.upTo (k.depth + 1) = p := hp.gapless.upTo_of_depth_le (by omega)
  -- the parent is the path without its deepest component
  have hCut := hp.gapless.parent?_upTo (n := k.depth) (by omega)
  rw [hWhole, h] at hCut
  rw [Option.some.inj hCut]
  exact hp.upTo _

/-- What is above a path is a path. -/
theorem IsPath.of_mem_ancestors (hp : t.IsPath p) (h : k ∈ p.ancestors) : t.IsPath k := by
  induction p using Scope.ancestors.induct with
  | case1 p hNone =>
    rw [Scope.ancestors_of_parent?_eq_none hNone] at h
    exact nomatch h
  | case2 p p' hSome ih =>
    have hp' : t.IsPath p' := hp.of_parent? hSome
    rw [Scope.ancestors_of_parent? hSome, List.mem_cons] at h
    rcases h with rfl | h
    · exact hp'
    · exact ih hp' h

end Territory

end PollRoster
