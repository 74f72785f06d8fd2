import Mathlib.Data.List.Chain
import PollRoster.Proofs.Paths

/-!
# Breadcrumbs

The breadcrumbs of a scope are put together from the top down, by looking up one component after the
other and passing over what is not recorded. On a path nothing is passed over. Its breadcrumbs are
those of its parent and one more, which bears the name of the record that the path adds to the
parent. So they are a trail, and all else is said of trails.

No territory is assumed to be validated. Where several records share an identifier, the one that is
looked up gives the name.

Main results:

* `IsPath.breadcrumbs_of_parent?` — one step down.
* `IsPath.isTrail_breadcrumbs` — the breadcrumbs of a path are a trail.
* `IsTrail.isChain` — from one breadcrumb to the next a component is added, and the next has its
  name.
* `IsPath.scopes_breadcrumbs` — the scopes are the ancestors of the path and the path itself.
-/

namespace PollRoster

theorem Scope.eq_root_of_parent? {k : Scope} (h : k.parent? = none) : k = .root := by
  obtain ⟨region, province, municipality, district⟩ := k
  rw [parent?] at h
  split_ifs at h
  simp_all [root]

namespace Territory

variable {t : Territory} {k p : Scope} {crumbs : List Breadcrumb}

/-- The name of the record that the deepest component of a scope stands for. -/
def name? (t : Territory) (k : Scope) : Option String :=
  match k.region, k.province, k.municipality, k.district with
  | _, _, some m, some d => (t.district? m d).map District.name
  | _, _, some m, none => (t.municipality? m).map Municipality.name
  | _, some v, none, _ => (t.province? v).map Province.name
  | some r, none, none, _ => (t.region? r).map Region.name
  | none, none, none, _ => none

/-- Breadcrumbs that lead from the root to a scope, each with the name of the record it adds. -/
inductive IsTrail (t : Territory) : Scope → List Breadcrumb → Prop
  | root : IsTrail t .root [⟨.root, rootLabel⟩]
  | step {p k : Scope} {crumbs : List Breadcrumb} {label : String} (above : IsTrail t p crumbs)
      (isParent : k.parent? = some p) (named : t.name? k = some label) :
      IsTrail t k (crumbs ++ [⟨k, label⟩])

/-! ## Paths -/

/-- **One step down.** The breadcrumbs of a path are those of its parent and the name of what it
adds. -/
theorem IsPath.breadcrumbs_of_parent? (h : t.IsPath k) (hParent : k.parent? = some p) :
    ∃ label, t.name? k = some label ∧ t.breadcrumbs k = t.breadcrumbs p ++ [⟨k, label⟩] := by
  have hRegion : ∀ r, k.region = some r → ∃ x, t.region? r = some x ∧ x.id = r := by
    intro r hr
    obtain ⟨x, hx⟩ := Option.isSome_iff_exists.mp (h.region r hr)
    exact ⟨x, hx, (region?_eq_some hx).2⟩
  have hProvince : ∀ v, k.province = some v → ∃ x, t.province? v = some x ∧ x.id = v := by
    intro v hv
    obtain ⟨x, hx, -⟩ := h.province v hv
    exact ⟨x, hx, (province?_eq_some hx).2⟩
  have hMunicipality : ∀ m, k.municipality = some m →
      ∃ x, t.municipality? m = some x ∧ x.id = m := by
    intro m hm
    obtain ⟨x, hx, -⟩ := h.municipality m hm
    exact ⟨x, hx, (municipality?_eq_some hx).2⟩
  have hDistrict : ∀ m d, k.municipality = some m → k.district = some d →
      ∃ x, t.district? m d = some x ∧ x.number = d := by
    intro m d hm hd
    obtain ⟨_, -, -, hFound⟩ := h.municipality m hm
    obtain ⟨x, hx⟩ := Option.isSome_iff_exists.mp (hFound d hd).2
    exact ⟨x, hx, (district?_eq_some hx).2.2⟩
  -- every component is recorded, so none is passed over
  cases h.gapless with
  | root => cases hParent
  | region r =>
    obtain ⟨x, hx, rfl⟩ := hRegion r rfl
    rw [← Option.some.inj hParent]
    exact ⟨x.name, by simp [name?, hx], by simp [breadcrumbs, Scope.root, hx]⟩
  | province r v =>
    obtain ⟨x, hx, rfl⟩ := hRegion r rfl
    obtain ⟨y, hy, rfl⟩ := hProvince v rfl
    rw [← Option.some.inj hParent]
    exact ⟨y.name, by simp [name?, hy], by simp [breadcrumbs, Scope.root, hx, hy]⟩
  | municipality r v m =>
    obtain ⟨x, hx, rfl⟩ := hRegion r rfl
    obtain ⟨y, hy, rfl⟩ := hProvince v rfl
    obtain ⟨z, hz, rfl⟩ := hMunicipality m rfl
    rw [← Option.some.inj hParent]
    exact ⟨z.name, by simp [name?, hz], by simp [breadcrumbs, Scope.root, hx, hy, hz]⟩
  | district r v m d =>
    obtain ⟨w, hw, rfl⟩ := hDistrict m d rfl rfl
    obtain ⟨x, hx, rfl⟩ := hRegion r rfl
    obtain ⟨y, hy, rfl⟩ := hProvince v rfl
    obtain ⟨z, hz, rfl⟩ := hMunicipality m rfl
    rw [← Option.some.inj hParent]
    exact ⟨w.name, by simp [name?, hw], by simp [breadcrumbs, Scope.root, hx, hy, hz, hw]⟩

/-- **Breadcrumbs are a trail.** -/
theorem IsPath.isTrail_breadcrumbs (h : t.IsPath k) : t.IsTrail k (t.breadcrumbs k) := by
  induction k using Scope.ancestors.induct with
  | case1 k hNone =>
    rw [Scope.eq_root_of_parent? hNone]
    exact .root
  | case2 k p hParent ih =>
    obtain ⟨label, hName, hCrumbs⟩ := h.breadcrumbs_of_parent? hParent
    rw [hCrumbs]
    exact .step (ih (h.of_parent? hParent)) hParent hName

/-! ## Trails -/

namespace IsTrail

theorem head?_scope (h : t.IsTrail k crumbs) : crumbs.head?.map Breadcrumb.scope = some .root := by
  induction h with
  | root => rfl
  | step above isParent named ih =>
    -- the breadcrumbs above are not empty, and their first one stays the first
    rw [List.head?_append, Option.map_or, ih, Option.some_or]

theorem getLast?_scope (h : t.IsTrail k crumbs) :
    crumbs.getLast?.map Breadcrumb.scope = some k := by
  cases h with
  | root => rfl
  | step above isParent named => rw [List.getLast?_concat, Option.map_some]

/-- The scopes of a trail are all that is above its end, and the end. -/
theorem scopes (h : t.IsTrail k crumbs) :
    crumbs.map Breadcrumb.scope = k.ancestors.reverse ++ [k] := by
  induction h with
  | root =>
    rw [Scope.ancestors_of_parent?_eq_none rfl]
    rfl
  | step above isParent named ih =>
    rw [List.map_append, ih, Scope.ancestors_of_parent? isParent, List.reverse_cons,
      List.map_singleton]

/-- On a trail of a path there is one breadcrumb for each component, and one for the root. -/
theorem length_eq (h : t.IsTrail k crumbs) (hk : t.IsPath k) : crumbs.length = k.depth + 1 := by
  induction h with
  | root => rfl
  | step above isParent named ih =>
    rw [List.length_append, ih (hk.of_parent? isParent), hk.gapless.depth_of_parent? isParent,
      List.length_singleton]

/-- From one breadcrumb to the next a component is added, and the next one has its name. -/
theorem isChain (h : t.IsTrail k crumbs) : crumbs.IsChain fun upper lower =>
    lower.scope.parent? = some upper.scope ∧ t.name? lower.scope = some lower.label := by
  induction h with
  | root => exact .singleton _
  | step above isParent named ih =>
    refine List.isChain_append.mpr ⟨ih, .singleton _, fun upper hUpper lower hLower => ?_⟩
    -- the last breadcrumb above is that of the parent
    have hLast := above.getLast?_scope
    rw [hUpper] at hLast
    rw [← Option.some.inj hLower, Option.some.inj hLast]
    exact ⟨isParent, named⟩

end IsTrail

/-- The breadcrumbs of a path lead through its ancestors, the root first. -/
theorem IsPath.scopes_breadcrumbs (h : t.IsPath k) :
    (t.breadcrumbs k).map (·.scope) = k.ancestors.reverse ++ [k] :=
  h.isTrail_breadcrumbs.scopes

end Territory

end PollRoster
