import PollRoster.Proofs.Ascent

/-!
# Resolution

To resolve a scope is to fill in what lies above its deepest component. What comes out is the path
within the scope that is as deep as the scope, and there is no other. This holds of every territory,
valid or not: where an identifier repeats, paths and look-ups count the same one of its records.

Main results:

* `resolve_eq_ok_iff` — what a scope resolves to, said without resolving it.
* `resolve_isClosure` — resolution keeps what is given, leaves no gaps, has nothing left to do on
  what it answers, and keeps scopes within scopes.
* `placeInScope_iff_contains` — a place lies in a scope exactly if its path does, so scopes that
  share a place are related.
-/

namespace PollRoster

/-- A scope of the depth of a path around it agrees with the path in the components that tell a
path: those from the municipality on, or else the province, or else the region. -/
theorem Scope.Gapless.deepest_of_depth_eq {s k : Scope} (hk : k.Gapless) (h : s.contains k)
    (hDepth : k.depth = s.depth) (hDistrict : s.municipality = none → s.district = none) :
    s.municipality = k.municipality ∧ s.district = k.district ∧
      (k.municipality = none → s.province = k.province) ∧
      (k.province = none → s.region = k.region) := by
  simp only [contains, covers, Bool.and_eq_true, Bool.or_eq_true, Option.isNone_iff_eq_none,
    beq_iff_eq] at h
  -- the depth of the path tells which components of the scope are there
  cases hk <;> simp only [depth] at hDepth <;> grind

namespace Territory

variable {t : Territory} {s k p : Scope}

/-- **What a scope resolves to**: the path within it that is as deep as the scope itself. A district
by itself resolves to nothing. -/
theorem resolve_eq_ok_iff : t.resolve s = .ok k ↔
    t.IsPath k ∧ s.contains k ∧ k.depth = s.depth ∧
      (s.municipality = none → s.district = none) := by
  constructor
  · intro h
    have hPath : t.IsPath k := resolve_isPath h
    refine ⟨hPath, contains_of_resolve h, depth_of_resolve h, fun hNone => ?_⟩
    rw [← district_of_resolve h]
    exact hPath.district ((municipality_of_resolve h).trans hNone)
  · rintro ⟨hPath, hContains, hDepth, hDistrict⟩
    obtain ⟨hMunicipality, hDistrict, hProvince, hRegion⟩ :=
      hPath.gapless.deepest_of_depth_eq hContains hDepth hDistrict
    exact hPath.resolve_of_contains hContains hMunicipality hDistrict hProvince hRegion

/-- **Resolution is a closure.** It keeps what is given, changes nothing when it is repeated, leaves
no gaps, and takes a scope within another one to one within what the other resolves to. -/
theorem resolve_isClosure (h : t.resolve s = .ok k) :
    s.contains k ∧ t.resolve k = .ok k ∧ k.Gapless ∧
      ∀ s' k', t.resolve s' = .ok k' → s.contains s' → k.contains k' := by
  have hPath : t.IsPath k := resolve_isPath h
  refine ⟨contains_of_resolve h, hPath.resolve_eq, hPath.gapless, ?_⟩
  intro s' k' h' hContains
  -- what the inner scope resolves to is a path within the outer one, so within its path
  have hWithin : s.contains k' := Scope.contains_trans hContains (contains_of_resolve h')
  rw [(resolve_isPath h').contains_resolved h]
  exact hWithin

/-- A territory in which the provinces share an identifier, and so do the municipalities. Of either
kind the one that comes later in display order counts. The districts share a number. -/
def doubled : Territory :=
  .ofData
    { regions := [⟨1, "Lazio"⟩, ⟨2, "Umbria"⟩]
      provinces := [⟨1, 1, "Roma", "RM"⟩, ⟨1, 2, "Terni", "TR"⟩]
      municipalities := [⟨1, 1, "Ardea", false⟩, ⟨1, 1, "Stroncone", true⟩]
      districts := [⟨1, 1, "Centro"⟩, ⟨1, 1, "Coppe"⟩]
      sections := [] }

/-- Stroncone resolves to its path in Umbria, and its district to one below that. -/
theorem resolve_isClosure_doubled :
    doubled.validate ≠ .ok () ∧
    doubled.resolve (.ofMunicipality 1) = .ok ⟨some 2, some 1, some 1, none⟩ ∧
    doubled.resolve ⟨some 2, some 1, some 1, none⟩ = .ok ⟨some 2, some 1, some 1, none⟩ ∧
    Scope.Gapless ⟨some 2, some 1, some 1, none⟩ ∧
    doubled.resolve (.ofPlace 1 (some 1)) = .ok ⟨some 2, some 1, some 1, some 1⟩ ∧
    (⟨some 2, some 1, some 1, none⟩ : Scope).contains ⟨some 2, some 1, some 1, some 1⟩ := by
  have hMunicipality : doubled.resolve (.ofMunicipality 1) =
      .ok ⟨some 2, some 1, some 1, none⟩ := by rfl
  have hDistrict : doubled.resolve (.ofPlace 1 (some 1)) =
      .ok ⟨some 2, some 1, some 1, some 1⟩ := by rfl
  obtain ⟨-, hAgain, hGapless, hWithin⟩ := resolve_isClosure hMunicipality
  refine ⟨by decide, hMunicipality, hAgain, hGapless, hDistrict, ?_⟩
  exact hWithin _ _ hDistrict rfl

/-! ## Places -/

/-- **Places and scopes.** Of scopes that resolve to themselves, those hold a place that contain the
path of the place. Any two that do are related, so to drop what is kept for one of them is to drop
what is kept for the other. -/
theorem placeInScope_iff_contains {municipalityId : Int} {district : Option Nat}
    (hp : t.resolve (.ofPlace municipalityId district) = .ok p) (hk : t.resolve k = .ok k) :
    (t.placeInScope municipalityId district k ↔ k.contains p) ∧
      ∀ q, t.resolve q = .ok q → t.placeInScope municipalityId district k →
        t.placeInScope municipalityId district q → k.isRelated q ∧
          ∀ c : CounterCache, (c.invalidate k).get? q = none ∧ (c.invalidate q).get? k = none := by
  have hPath : t.IsPath k := resolve_isPath hk
  refine ⟨by rw [hPath.placeInScope_eq hp], ?_⟩
  intro q hq hInK hInQ
  have hPathQ : t.IsPath q := resolve_isPath hq
  rw [hPath.placeInScope_eq hp] at hInK
  rw [hPathQ.placeInScope_eq hp] at hInQ
  -- both lie on the way from the root to the place
  have hRelated : k.isRelated q := hPath.gapless.isRelated_of_contains hPathQ.gapless hInK hInQ
  have hRelated' : q.isRelated k := hPathQ.gapless.isRelated_of_contains hPath.gapless hInQ hInK
  refine ⟨hRelated, fun c => ⟨?_, ?_⟩⟩
  · rw [c.get?_invalidate, if_pos hRelated']
  · rw [c.get?_invalidate, if_pos hRelated]

/-- The second district of the town lies in the region and in the municipality. To drop the
municipality is to drop the region. -/
theorem placeInScope_iff_contains_town :
    town.placeInScope 1 (some 2) (.ofRegion 1) ∧
    (Scope.ofRegion 1).contains ⟨some 1, some 1, some 1, some 2⟩ ∧
    (Scope.ofRegion 1).isRelated ⟨some 1, some 1, some 1, none⟩ ∧
    (⟨[(.ofRegion 1, ⟨3, 1, 2, 1⟩)]⟩ : CounterCache).get? (.ofRegion 1) = some ⟨3, 1, 2, 1⟩ ∧
    ((⟨[(.ofRegion 1, ⟨3, 1, 2, 1⟩)]⟩ : CounterCache).invalidate
      ⟨some 1, some 1, some 1, none⟩).get? (.ofRegion 1) = none := by
  have hPlace : town.resolve (.ofPlace 1 (some 2)) = .ok ⟨some 1, some 1, some 1, some 2⟩ := by rfl
  have hRegion : town.resolve (.ofRegion 1) = .ok (.ofRegion 1) := by rfl
  have hInRegion : town.placeInScope 1 (some 2) (.ofRegion 1) := by rfl
  obtain ⟨hContains, hShared⟩ := placeInScope_iff_contains hPlace hRegion
  obtain ⟨hRelated, hDropped⟩ :=
    hShared ⟨some 1, some 1, some 1, none⟩ (by rfl) hInRegion (by rfl)
  exact ⟨hInRegion, hContains.mp hInRegion, hRelated, rfl, (hDropped _).2⟩

end Territory

end PollRoster
