import PollRoster.Proofs.Failure
import PollRoster.Proofs.Order
import PollRoster.Proofs.Positions
import PollRoster.Territory
import PollRoster.Hierarchy

/-!
# Places and paths

In a well-formed territory every record has the parents that it names, so every recorded place lies
on a path from the root. Paths are what resolving a scope answers, and on paths the two ways to tell
whether a place lies in a scope agree.

Main results:

* `resolve_isPath`, `IsPath.resolve_eq` — resolving a scope answers a path, and a path resolves to
  itself.
* `HasPlace.resolve_ofPlace` — a recorded place resolves.
* `IsPath.placeInScope_eq` — a place lies in the paths that contain the path of the place.
* `IsPath.below` — what lies below a path are paths again.
-/

namespace PollRoster

/-! ## Scopes -/

namespace Scope

@[simp] theorem covers_self [DecidableEq α] (x : Option α) : covers x x := by
  simp [covers]

theorem covers_some [DecidableEq α] {a : α} {y : Option α} : covers (some a) y ↔ y = some a := by
  rw [covers, Option.isNone_some, Bool.false_or, beq_iff_eq, eq_comm]

theorem covers_trans [DecidableEq α] {x y z : Option α} (hxy : covers x y) (hyz : covers y z) :
    covers x z := by
  cases x with
  | none => rfl
  | some a =>
    rw [covers_some] at hxy
    rwa [hxy] at hyz

theorem contains_self (k : Scope) : k.contains k := by
  simp [contains]

theorem contains_trans {k k' k'' : Scope} (h : k.contains k') (h' : k'.contains k'') :
    k.contains k'' := by
  simp only [contains, Bool.and_eq_true] at h h' ⊢
  obtain ⟨⟨⟨hRegion, hProvince⟩, hMunicipality⟩, hDistrict⟩ := h
  obtain ⟨⟨⟨hRegion', hProvince'⟩, hMunicipality'⟩, hDistrict'⟩ := h'
  exact ⟨⟨⟨covers_trans hRegion hRegion', covers_trans hProvince hProvince'⟩,
    covers_trans hMunicipality hMunicipality'⟩, covers_trans hDistrict hDistrict'⟩

theorem isRelated_root (k : Scope) : k.isRelated .root := by
  simp [isRelated, contains, covers, root]

end Scope

namespace Territory

/-! ## Recorded places -/

/-- Whether a place is recorded: its municipality, and its district if it names one. Then the
municipality has to be split into districts. -/
def HasPlace (t : Territory) (municipalityId : Int) (district : Option Nat) : Prop :=
  ∃ m ∈ t.municipalities, m.id = municipalityId ∧
    ∀ number ∈ district, m.isDistricted ∧
      ∃ d ∈ t.districts, d.municipalityId = municipalityId ∧ d.number = number

/-- Identifiers are distinct within their kind, and every record has the parents that it names. -/
structure WellFormed (t : Territory) : Prop where
  provinceIds : (t.provinces.map Province.id).Nodup
  municipalityIds : (t.municipalities.map Municipality.id).Nodup
  sectionIds : (t.sections.map PollingSection.id).Nodup
  region_of : ∀ p ∈ t.provinces, ∃ r ∈ t.regions, r.id = p.regionId
  province_of : ∀ m ∈ t.municipalities, ∃ p ∈ t.provinces, p.id = m.provinceId
  districts : ∀ d ∈ t.districts, t.HasPlace d.municipalityId (some d.number)
  sections : ∀ s ∈ t.sections, t.HasPlace s.municipalityId s.district

/-! ## Looking records up -/

section LookUp

theorem region?_eq (t : Territory) (id : Int) :
    t.region? id = findLast? (fun r => decide (r.id = id)) t.regions :=
  Positions.getElem?_of_get? Region.id t.regions id

theorem province?_eq (t : Territory) (id : Int) :
    t.province? id = findLast? (fun p => decide (p.id = id)) t.provinces :=
  Positions.getElem?_of_get? Province.id t.provinces id

theorem municipality?_eq (t : Territory) (id : Int) :
    t.municipality? id = findLast? (fun m => decide (m.id = id)) t.municipalities :=
  Positions.getElem?_of_get? Municipality.id t.municipalities id

theorem section?_eq (t : Territory) (id : Int) :
    t.section? id = findLast? (fun s => decide (s.id = id)) t.sections :=
  Positions.getElem?_of_get? PollingSection.id t.sections id

variable {t : Territory}

theorem region?_isSome {id : Int} : (t.region? id).isSome ↔ ∃ r ∈ t.regions, r.id = id := by
  rw [region?_eq, findLast?_isSome]
  simp only [decide_eq_true_eq]

theorem province?_isSome {id : Int} : (t.province? id).isSome ↔ ∃ p ∈ t.provinces, p.id = id := by
  rw [province?_eq, findLast?_isSome]
  simp only [decide_eq_true_eq]

theorem municipality?_isSome {id : Int} :
    (t.municipality? id).isSome ↔ ∃ m ∈ t.municipalities, m.id = id := by
  rw [municipality?_eq, findLast?_isSome]
  simp only [decide_eq_true_eq]

theorem section?_isSome {id : Int} : (t.section? id).isSome ↔ ∃ s ∈ t.sections, s.id = id := by
  rw [section?_eq, findLast?_isSome]
  simp only [decide_eq_true_eq]

theorem district?_isSome {municipalityId : Int} {number : Nat} :
    (t.district? municipalityId number).isSome ↔
      ∃ d ∈ t.districts, d.municipalityId = municipalityId ∧ d.number = number := by
  rw [district?, List.find?_isSome]
  simp only [Bool.and_eq_true, decide_eq_true_eq]

theorem municipality?_eq_some {id : Int} {m : Municipality} (h : t.municipality? id = some m) :
    m ∈ t.municipalities ∧ m.id = id := by
  rw [municipality?_eq] at h
  exact ⟨(findLast?_eq_some h).1, of_decide_eq_true (findLast?_eq_some h).2⟩

theorem province?_eq_some {id : Int} {p : Province} (h : t.province? id = some p) :
    p ∈ t.provinces ∧ p.id = id := by
  rw [province?_eq] at h
  exact ⟨(findLast?_eq_some h).1, of_decide_eq_true (findLast?_eq_some h).2⟩

theorem section?_eq_some {id : Int} {s : PollingSection} (h : t.section? id = some s) :
    s ∈ t.sections ∧ s.id = id := by
  rw [section?_eq] at h
  exact ⟨(findLast?_eq_some h).1, of_decide_eq_true (findLast?_eq_some h).2⟩

theorem WellFormed.province? (h : t.WellFormed) {p : Province} (hMem : p ∈ t.provinces) :
    t.province? p.id = some p :=
  (province?_eq t p.id).trans ((findLast?_key_eq_some_iff h.provinceIds).mpr ⟨hMem, rfl⟩)

theorem WellFormed.municipality? (h : t.WellFormed) {m : Municipality}
    (hMem : m ∈ t.municipalities) : t.municipality? m.id = some m :=
  (municipality?_eq t m.id).trans ((findLast?_key_eq_some_iff h.municipalityIds).mpr ⟨hMem, rfl⟩)

theorem WellFormed.section? (h : t.WellFormed) {s : PollingSection} (hMem : s ∈ t.sections) :
    t.section? s.id = some s :=
  (section?_eq t s.id).trans ((findLast?_key_eq_some_iff h.sectionIds).mpr ⟨hMem, rfl⟩)

end LookUp

/-! ## Paths -/

/-- Whether a scope is a path from the root: each component is recorded and stands below the one
above it. -/
structure IsPath (t : Territory) (k : Scope) : Prop where
  district : k.municipality = none → k.district = none
  municipality : ∀ id, k.municipality = some id → ∃ m, t.municipality? id = some m ∧
    k.province = some m.provinceId ∧
    ∀ number, k.district = some number → m.isDistricted ∧ (t.district? id number).isSome
  province : ∀ id, k.province = some id → ∃ p, t.province? id = some p ∧
    k.region = some p.regionId
  region : ∀ id, k.region = some id → (t.region? id).isSome

variable {t : Territory}

theorem resolveMunicipality_eq_ok {s : Scope} {province : Option Int}
    (h : t.resolveMunicipality s = .ok province) :
    (s.municipality = none ∧ s.district = none ∧ province = s.province) ∨
    ∃ id m, s.municipality = some id ∧ t.municipality? id = some m ∧
      province = some m.provinceId ∧
      (∀ number, s.district = some number → m.isDistricted ∧ (t.district? id number).isSome) ∧
      Scope.covers s.province province := by
  rw [resolveMunicipality] at h
  split at h
  next hNone =>
    split at h
    · exact nomatch h
    next hDistrict =>
      refine .inl ⟨hNone, ?_, (Except.ok.inj h).symm⟩
      simpa using hDistrict
  next id hId =>
    split at h
    · exact nomatch h
    next m hm =>
      split at h
      · exact nomatch h
      next hGiven =>
        have hCovers : Scope.covers s.province (some m.provinceId) := by simpa using hGiven
        split at h
        next hDistrict =>
          obtain rfl := Except.ok.inj h
          refine .inr ⟨id, m, hId, hm, rfl, fun number hNumber => ?_, hCovers⟩
          exact nomatch hDistrict.symm.trans hNumber
        next number hDistrict =>
          split at h
          next hFound =>
            obtain rfl := Except.ok.inj h
            refine .inr ⟨id, m, hId, hm, rfl, fun n hn => ?_, hCovers⟩
            rw [Option.some.inj (hn.symm.trans hDistrict)]
            simpa using hFound
          · exact nomatch h

theorem resolveProvince_eq_ok {given province region : Option Int}
    (h : t.resolveProvince given province = .ok region) :
    (province = none ∧ region = given) ∨
    ∃ id p, province = some id ∧ t.province? id = some p ∧ region = some p.regionId ∧
      Scope.covers given region := by
  cases province with
  | none => exact .inl ⟨rfl, (Except.ok.inj h).symm⟩
  | some id =>
    rw [resolveProvince] at h
    split at h
    · exact nomatch h
    next p hp =>
      split at h
      · exact nomatch h
      next hGiven =>
        obtain rfl := Except.ok.inj h
        exact .inr ⟨id, p, rfl, hp, rfl, by simpa using hGiven⟩

/-- What is known of a scope that resolves. -/
theorem resolve_eq_ok {s k : Scope} (h : t.resolve s = .ok k) :
    t.resolveMunicipality s = .ok k.province ∧
      t.resolveProvince s.region k.province = .ok k.region ∧
      (∀ id, k.region = some id → (t.region? id).isSome) ∧
      k = { s with region := k.region, province := k.province } := by
  rw [resolve] at h
  obtain ⟨province, hProvince, h⟩ := bind_eq_ok.mp h
  obtain ⟨region, hRegion, h⟩ := bind_eq_ok.mp h
  cases region with
  | none =>
    rw [← Except.ok.inj h]
    exact ⟨hProvince, hRegion, fun id hId => (nomatch hId), rfl⟩
  | some id =>
    cases hFound : t.region? id with
    | none => simp [hFound, bind, Except.bind, throw, throwThe, MonadExceptOf.throw] at h
    | some r =>
      simp only [hFound] at h
      rw [← Except.ok.inj h]
      refine ⟨hProvince, hRegion, fun id' hId => ?_, rfl⟩
      rw [← Option.some.inj hId, hFound]
      rfl

/-- Neither municipality nor district is ever filled in. -/
theorem municipality_of_resolve {s k : Scope} (h : t.resolve s = .ok k) :
    k.municipality = s.municipality := by
  obtain ⟨-, -, -, hFilled⟩ := resolve_eq_ok h
  rw [hFilled]

theorem district_of_resolve {s k : Scope} (h : t.resolve s = .ok k) : k.district = s.district := by
  obtain ⟨-, -, -, hFilled⟩ := resolve_eq_ok h
  rw [hFilled]

/-- What a scope resolves to is a path. -/
theorem resolve_isPath {s k : Scope} (h : t.resolve s = .ok k) : t.IsPath k := by
  obtain ⟨hProvince, hRegion, hFound, -⟩ := resolve_eq_ok h
  have hMunicipality := municipality_of_resolve h
  have hDistrict := district_of_resolve h
  -- each component is settled by the step that looked it up
  refine ⟨fun hNone => ?_, fun id hId => ?_, fun id hId => ?_, hFound⟩
  · rw [hDistrict]
    rcases resolveMunicipality_eq_ok hProvince with ⟨-, h, -⟩ | ⟨id, m, hSome, -⟩
    · exact h
    · exact nomatch (hNone.symm.trans hMunicipality).trans hSome
  · rcases resolveMunicipality_eq_ok hProvince with ⟨hNone, -⟩ | ⟨id', m, hSome, hm, hp, hd, -⟩
    · exact nomatch (hId.symm.trans hMunicipality).trans hNone
    · obtain rfl : id = id' := Option.some.inj ((hId.symm.trans hMunicipality).trans hSome)
      exact ⟨m, hm, hp, fun number hNumber => hd number (hDistrict.symm.trans hNumber)⟩
  · rcases resolveProvince_eq_ok hRegion with ⟨hNone, -⟩ | ⟨id', p, hSome, hp, hr, -⟩
    · exact nomatch hId.symm.trans hNone
    · obtain rfl : id = id' := Option.some.inj (hId.symm.trans hSome)
      exact ⟨p, hp, hr⟩

/-- Resolving a scope fills components in, and changes none. -/
theorem contains_of_resolve {s k : Scope} (h : t.resolve s = .ok k) : s.contains k := by
  obtain ⟨hProvince, hRegion, -, hk⟩ := resolve_eq_ok h
  have hProvinceCovers : Scope.covers s.province k.province := by
    rcases resolveMunicipality_eq_ok hProvince with ⟨-, -, hSame⟩ | ⟨_, _, -, -, -, -, hCovers⟩
    · rw [hSame]
      exact Scope.covers_self _
    · exact hCovers
  have hRegionCovers : Scope.covers s.region k.region := by
    rcases resolveProvince_eq_ok hRegion with ⟨-, hSame⟩ | ⟨_, _, -, -, -, hCovers⟩
    · rw [hSame]
      exact Scope.covers_self _
    · exact hCovers
  rw [Scope.contains, hRegionCovers, hProvinceCovers, hk]
  simp only [Scope.covers_self, Bool.and_self]

/-- A path lies in a scope exactly if it lies in what the scope resolves to. -/
theorem IsPath.contains_resolved {s p k : Scope} (hp : t.IsPath p) (h : t.resolve s = .ok k) :
    k.contains p = s.contains p := by
  rw [Bool.eq_iff_iff]
  refine ⟨Scope.contains_trans (contains_of_resolve h), fun hIn => ?_⟩
  obtain ⟨hProvince, hRegion, -, hk⟩ := resolve_eq_ok h
  simp only [Scope.contains, Bool.and_eq_true] at hIn ⊢
  obtain ⟨⟨⟨hInRegion, hInProvince⟩, hInMunicipality⟩, hInDistrict⟩ := hIn
  -- a component that was filled in is told by the one below it, on the path as well
  have hCoversProvince : Scope.covers k.province p.province := by
    rcases resolveMunicipality_eq_ok hProvince with ⟨-, -, hSame⟩ | ⟨id, m, hId, hm, hSame, -⟩
    · rw [hSame]
      exact hInProvince
    · rw [hId, Scope.covers_some] at hInMunicipality
      obtain ⟨m', hm', hUp, -⟩ := hp.municipality id hInMunicipality
      rw [hSame, hUp, Option.some.inj (hm.symm.trans hm')]
      exact Scope.covers_self _
  have hCoversRegion : Scope.covers k.region p.region := by
    rcases resolveProvince_eq_ok hRegion with ⟨-, hSame⟩ | ⟨id, x, hId, hx, hSame, -⟩
    · rw [hSame]
      exact hInRegion
    · rw [hId, Scope.covers_some] at hCoversProvince
      obtain ⟨x', hx', hUp⟩ := hp.province id hCoversProvince
      rw [hSame, hUp, Option.some.inj (hx.symm.trans hx')]
      exact Scope.covers_self _
  have hCoversMunicipality : Scope.covers k.municipality p.municipality := by rwa [hk]
  have hCoversDistrict : Scope.covers k.district p.district := by rwa [hk]
  exact ⟨⟨⟨hCoversRegion, hCoversProvince⟩, hCoversMunicipality⟩, hCoversDistrict⟩

/-- A scope resolves to a path that it contains, if it has what the rest of the path does not imply:
the components from the municipality on, or else the province, or else the region. -/
theorem IsPath.resolve_of_contains {s k : Scope} (h : t.IsPath k) (hContains : s.contains k)
    (hMunicipality : s.municipality = k.municipality) (hDistrict : s.district = k.district)
    (hProvince : k.municipality = none → s.province = k.province)
    (hRegion : k.province = none → s.region = k.region) : t.resolve s = .ok k := by
  simp only [Scope.contains, Bool.and_eq_true] at hContains
  obtain ⟨⟨⟨hCoversRegion, hCoversProvince⟩, -⟩, -⟩ := hContains
  have hResolvedProvince : t.resolveMunicipality s = .ok k.province := by
    rw [resolveMunicipality, hMunicipality, hDistrict]
    cases hId : k.municipality with
    | none => simp [h.district hId, hProvince hId]
    | some id =>
      obtain ⟨m, hm, hp, hd⟩ := h.municipality id hId
      rw [hp] at hCoversProvince
      cases hNumber : k.district with
      | none => simp [hm, hp, hCoversProvince]
      | some number =>
        obtain ⟨hSplit, hFound⟩ := hd number hNumber
        simp [hm, hp, hSplit, hFound, hCoversProvince]
  have hResolvedRegion : t.resolveProvince s.region k.province = .ok k.region := by
    cases hId : k.province with
    | none => exact congrArg Except.ok (hRegion hId)
    | some id =>
      obtain ⟨p, hFound, hr⟩ := h.province id hId
      rw [hr] at hCoversRegion
      rw [resolveProvince, hFound, hr]
      simp [hCoversRegion]
  have hSame : ({ s with region := k.region, province := k.province } : Scope) = k :=
    Scope.ext rfl rfl hMunicipality hDistrict
  rw [resolve]
  refine bind_eq_ok.mpr ⟨_, hResolvedProvince, bind_eq_ok.mpr ⟨_, hResolvedRegion, ?_⟩⟩
  cases hr : k.region with
  | none =>
    rw [hr] at hSame
    exact congrArg Except.ok hSame
  | some id =>
    obtain ⟨r, hFound⟩ := Option.isSome_iff_exists.mp (h.region id hr)
    rw [hr] at hSame
    simp only [hFound]
    exact congrArg Except.ok hSame

/-- A path resolves to itself. -/
theorem IsPath.resolve_eq {k : Scope} (h : t.IsPath k) : t.resolve k = .ok k :=
  h.resolve_of_contains k.contains_self rfl rfl (fun _ => rfl) (fun _ => rfl)

/-! ## Paths of places -/

/-- **Recorded places resolve.** The path of a recorded place names the place and what its ancestry
is. -/
theorem HasPlace.resolve_ofPlace (hWell : t.WellFormed) {municipalityId : Int}
    {district : Option Nat} (h : t.HasPlace municipalityId district) :
    ∃ region province, t.ancestry? municipalityId = some (region, province) ∧
      t.resolve (.ofPlace municipalityId district) =
        .ok ⟨some region, some province, some municipalityId, district⟩ := by
  obtain ⟨m, hm, rfl, hDistrict⟩ := h
  obtain ⟨p, hp, hProvince⟩ := hWell.province_of m hm
  obtain ⟨r, hr, hRegion⟩ := hWell.region_of p hp
  have hFoundM : t.municipality? m.id = some m := hWell.municipality? hm
  have hFoundP : t.province? m.provinceId = some p := by
    rw [← hProvince]
    exact hWell.province? hp
  refine ⟨p.regionId, p.id, ?_, ?_⟩
  · rw [ ancestry?, hFoundM]
    simp [hFoundP]
  · have hUp : t.resolveMunicipality (.ofPlace m.id district) = .ok (some m.provinceId) := by
      rw [resolveMunicipality]
      cases hNumber : district with
      | none => simp [Scope.ofPlace, Scope.ofMunicipality, Scope.root, hFoundM, Scope.covers]
      | some number =>
        obtain ⟨hSplit, hd⟩ := hDistrict number hNumber
        have hFoundD : (t.district? m.id number).isSome := district?_isSome.mpr hd
        simp [Scope.ofPlace, Scope.ofMunicipality, Scope.root, hFoundM, Scope.covers, hSplit,
          hFoundD]
    have hTop : t.resolveProvince none (some m.provinceId) = .ok (some p.regionId) := by
      rw [resolveProvince, hFoundP]
      simp [Scope.covers]
    have hRegionFound : (t.region? p.regionId).isSome := region?_isSome.mpr ⟨r, hr, hRegion⟩
    obtain ⟨r', hr'⟩ := Option.isSome_iff_exists.mp hRegionFound
    rw [Territory.resolve]
    refine bind_eq_ok.mpr ⟨_, hUp, bind_eq_ok.mpr ⟨_, hTop, ?_⟩⟩
    simp only [hr', hProvince]
    rfl

theorem HasPlace.exists_path (hWell : t.WellFormed) {municipalityId : Int} {district : Option Nat}
    (h : t.HasPlace municipalityId district) :
    ∃ p, t.resolve (.ofPlace municipalityId district) = .ok p := by
  obtain ⟨_, _, -, hResolve⟩ := h.resolve_ofPlace hWell
  exact ⟨_, hResolve⟩

/-- Paths into one municipality agree above it. -/
theorem IsPath.eq_above {k p : Scope} (hk : t.IsPath k) (hp : t.IsPath p) {id : Int}
    (hkId : k.municipality = some id) (hpId : p.municipality = some id) :
    k.province = p.province ∧ k.region = p.region := by
  obtain ⟨m, hm, hkProvince, -⟩ := hk.municipality id hkId
  obtain ⟨m', hm', hpProvince, -⟩ := hp.municipality id hpId
  obtain rfl : m = m' := Option.some.inj (hm.symm.trans hm')
  obtain ⟨x, hx, hkRegion⟩ := hk.province _ hkProvince
  obtain ⟨x', hx', hpRegion⟩ := hp.province _ hpProvince
  obtain rfl : x = x' := Option.some.inj (hx.symm.trans hx')
  exact ⟨hkProvince.trans hpProvince.symm, hkRegion.trans hpRegion.symm⟩

/-- **Where a place lies.** A place lies in the paths that contain the path of the place. -/
theorem IsPath.placeInScope_eq {municipalityId : Int} {district : Option Nat} {k p : Scope}
    (hk : t.IsPath k) (hp : t.resolve (.ofPlace municipalityId district) = .ok p) :
    t.placeInScope municipalityId district k = k.contains p := by
  have hPath : t.IsPath p := resolve_isPath hp
  obtain ⟨-, -, -, hFilled⟩ := resolve_eq_ok hp
  have hMunicipality : p.municipality = some municipalityId := by rw [hFilled]; rfl
  have hDistrict : p.district = district := by rw [hFilled]; rfl
  rw [placeInScope, Scope.contains, hMunicipality, hDistrict]
  cases hId : k.municipality with
  -- without a municipality the place is told by its ancestry
  | none =>
    obtain ⟨m, hm, hProvince, -⟩ := hPath.municipality _ hMunicipality
    obtain ⟨x, hx, hRegion⟩ := hPath.province _ hProvince
    have hAncestry : t.ancestry? municipalityId = some (x.regionId, m.provinceId) := by
      rw [ ancestry?, hm]
      simp [hx, (province?_eq_some hx).2]
    simp [hAncestry, hRegion, hProvince, hk.district hId, Scope.covers]
  -- the components above the municipality agree, since both are paths
  | some id =>
    by_cases hSame : id = municipalityId
    · subst hSame
      obtain ⟨hProvince, hRegion⟩ := hk.eq_above hPath hId hMunicipality
      simp [hProvince, hRegion, Scope.covers]
    · simp [hSame, Scope.covers]

/-! ## What lies below a path -/

/-- The scopes of the children below a path are paths. -/
theorem IsPath.below (hWell : t.WellFormed) {k : Scope} (hk : t.IsPath k) {child : Child}
    (hChild : child ∈ (t.below k).2) : t.IsPath child.scope := by
  rw [Territory.below] at hChild
  split at hChild
  next hRegion =>
    obtain ⟨r, hr, rfl⟩ := List.mem_map.mp hChild
    refine ⟨fun _ => rfl, fun id hId => (nomatch hId), fun id hId => (nomatch hId), ?_⟩
    intro id hId
    exact region?_isSome.mpr ⟨r, hr, Option.some.inj hId⟩
  next regionId hRegion hProvince =>
    obtain ⟨p, hp, rfl⟩ := List.mem_map.mp hChild
    obtain ⟨hMem, hOf⟩ := List.mem_filter.mp hp
    -- a path that names no province names no municipality either
    have hMunicipality : k.municipality = none := by
      cases hm : k.municipality with
      | none => rfl
      | some id =>
        obtain ⟨m, -, hAbove, -⟩ := hk.municipality id hm
        exact nomatch hProvince.symm.trans hAbove
    refine ⟨fun _ => hk.district hMunicipality, fun id hId => ?_, fun id hId => ?_, hk.region⟩
    · exact nomatch hMunicipality.symm.trans hId
    · obtain rfl := Option.some.inj hId
      refine ⟨p, hWell.province? hMem, ?_⟩
      rw [of_decide_eq_true hOf]
      exact hRegion
  next regionId provinceId hRegion hProvince hMunicipality =>
    obtain ⟨m, hm, rfl⟩ := List.mem_map.mp hChild
    obtain ⟨hMem, hOf⟩ := List.mem_filter.mp hm
    have hDistrict : k.district = none := hk.district hMunicipality
    refine ⟨fun hNone => (nomatch hNone), fun id hId => ?_, hk.province, hk.region⟩
    obtain rfl := Option.some.inj hId
    refine ⟨m, hWell.municipality? hMem, ?_, fun number hNumber => ?_⟩
    · rw [of_decide_eq_true hOf]
      exact hProvince
    · exact nomatch hDistrict.symm.trans hNumber
  next regionId provinceId municipalityId hRegion hProvince hMunicipality =>
    dsimp only at hChild
    split at hChild
    next hSplit =>
      obtain ⟨d, hd, rfl⟩ := List.mem_map.mp hChild
      obtain ⟨hMem, hOf⟩ := List.mem_filter.mp hd
      simp only [Bool.and_eq_true, Option.isNone_iff_eq_none] at hSplit
      obtain ⟨⟨hDistricted, -⟩, -⟩ := hSplit
      refine ⟨fun hNone => ?_, fun id hId => ?_, hk.province, hk.region⟩
      · exact nomatch hMunicipality.symm.trans hNone
      · obtain rfl : municipalityId = id := Option.some.inj (hMunicipality.symm.trans hId)
        obtain ⟨m, hm, hAbove, -⟩ := hk.municipality municipalityId hMunicipality
        refine ⟨m, hm, hAbove, fun number hNumber => ⟨?_, ?_⟩⟩
        · rw [hm] at hDistricted
          exact hDistricted
        · refine district?_isSome.mpr ⟨d, hMem, of_decide_eq_true hOf, ?_⟩
          exact Option.some.inj hNumber
    · exact nomatch hChild

end Territory

end PollRoster
