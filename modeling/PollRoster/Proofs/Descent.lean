import Mathlib.Tactic.Choose
import PollRoster.Navigator
import PollRoster.Proofs.Links
import PollRoster.Proofs.Rows

/-!
# Going down a territory

An operator who wants to see every section asks for the root, then for every node that is listed,
and so on down to the lists of sections. This ends, since the territory is four levels deep, and no
section is met twice. A section is met if there is a list for it: it has to name a district, or lie
in a municipality that has none. A municipality with districts lists these and nothing else.

Main results:

* `perm_listed_below` — what is to be met at a path is divided among its children.
* `meets_of_sectionList`, `meets_of_children` — one step of the descent.
* `descent_meets` — which sections are met.
-/

namespace PollRoster

/-! ## Asking for every node -/

/-- Visits scopes in turn and joins what the visits answer. -/
def visitAll (visit : Scope → Action σ ε (List α)) : List Scope → Action σ ε (List α)
  | [] => return []
  | scope :: rest => do
    let first ← visit scope
    let others ← visitAll visit rest
    return first ++ others

/-- The rows of a scope and of all nodes below it. Who comes upon more levels than expected gives
up. -/
def descend (source : ViewSource σ) :
    (levels : Nat) → Scope → Action σ OperationError (List SectionRow)
  | 0, _ => .fail .cancelled
  | levels + 1, scope => do
    let v ← source scope
    let below ← visitAll (descend source levels) (v.content.nodeList.map Node.scope)
    return v.content.rows ++ below

theorem visitAll_eq {visit : Scope → Action σ ε (List α)} {scopes : List Scope}
    {answer : Scope → List α} (h : ∀ scope ∈ scopes, ∀ c, (visit scope c).1 = .ok (answer scope))
    (c : σ) : (visitAll visit scopes c).1 = .ok (scopes.flatMap answer) := by
  induction scopes generalizing c with
  | nil => rfl
  | cons scope rest ih =>
    obtain ⟨hFirst, hRest⟩ := List.forall_mem_cons.mp h
    have hVisit : visit scope c = (.ok (answer scope), (visit scope c).2) :=
      Prod.ext (hFirst c) rfl
    have hOthers : visitAll visit rest (visit scope c).2 = (.ok (rest.flatMap answer), _) :=
      Prod.ext (ih hRest _) rfl
    rw [visitAll, Action.bind_of_ok hVisit, Action.bind_of_ok hOthers, List.flatMap_cons]
    rfl

/-! ## What is met -/

namespace Territory

/-- Whether a section names a district or lies in a municipality that has none. -/
def HasList (t : Territory) (x : PollingSection) : Bool :=
  x.district.isSome || (t.districtsOf x.municipalityId).isEmpty

end Territory

namespace Snapshot

variable {s : Snapshot} {k : Scope}

/-- The active sections of a scope that have a list. -/
def listed (s : Snapshot) (k : Scope) : List PollingSection :=
  (s.activeSections k).filter s.territory.HasList

/-- Where a path lists sections, all of them have a list: this one. -/
theorem listed_of_sectionList (hWell : s.territory.WellFormed) (hk : s.territory.IsPath k)
    (hLast : (s.territory.below k).1 = .sectionList) : s.listed k = s.activeSections k := by
  obtain ⟨m, hm, hList⟩ := (hk.below_eq_sectionList_iff hWell).mp hLast
  refine List.filter_eq_self.mpr fun x hx => ?_
  obtain ⟨-, hIn⟩ := List.mem_filter.mp (List.mem_filter.mp hx).1
  -- the section lies in this municipality, and in this district if the path names one
  simp only [Territory.placeInScope, hm, Bool.and_eq_true, decide_eq_true_eq, Bool.or_eq_true,
    beq_iff_eq] at hIn
  obtain ⟨rfl, hDistrict⟩ := hIn
  rw [Territory.HasList, Bool.or_eq_true, List.isEmpty_iff]
  rcases hList with hNamed | hNone
  · left
    have hNotNone : ¬k.district.isNone = true := by simp [Option.isSome_iff_ne_none.mp hNamed]
    rw [← hDistrict.resolve_left hNotNone]
    exact hNamed
  · exact .inr hNone

/-- **Division.** Where a path does not list sections, those that have a list are divided among its
children. -/
theorem perm_listed_below (ht : s.territory.Unambiguous) (hk : s.territory.IsPath k)
    (hNodes : (s.territory.below k).1 ≠ .sectionList) :
    (((s.territory.below k).2.map Territory.Child.scope).flatMap s.listed).Perm (s.listed k) := by
  have hListed : s.listed = fun k =>
      ((s.territory.sections.filter (·.isActive)).filter s.territory.HasList).filter
        fun x => s.territory.placeInScope x.municipalityId x.district k := by
    funext k
    rw [listed, activeSections_eq, List.filter_comm]
  have hPlace : ∀ x ∈ (s.territory.sections.filter (·.isActive)).filter s.territory.HasList,
      s.territory.HasPlace x.municipalityId x.district :=
    fun x hx => ht.sections x (List.mem_filter.mp (List.mem_filter.mp hx).1).1
  have hDivided := hk.perm_children ht
    (fun x : PollingSection => (x.municipalityId, x.district)) hPlace
  -- a section right at the path would be listed there
  have hHere : ((s.territory.sections.filter (·.isActive)).filter s.territory.HasList).filter
      (fun x => k.isPlace x.municipalityId x.district) = [] := by
    refine List.filter_eq_nil_iff.mpr fun x hx hSelf => ?_
    have hList : s.territory.HasList x := (List.mem_filter.mp hx).2
    rw [Scope.isPlace, Bool.and_eq_true, decide_eq_true_eq, decide_eq_true_eq] at hSelf
    refine hNodes ((hk.below_eq_sectionList_iff ht.toWellFormed).mpr ⟨_, hSelf.1, ?_⟩)
    rw [hSelf.2, ← List.isEmpty_iff, ← Bool.or_eq_true]
    exact hList
  rw [hHere, List.append_nil] at hDivided
  rw [hListed]
  exact hDivided.symm

/-- Every section lies in the root. -/
theorem mem_listed_root (hWell : s.territory.WellFormed) {x : PollingSection} :
    x ∈ s.listed .root ↔ x ∈ s.territory.sections ∧ x.isActive ∧
      (x.district.isSome ∨ s.territory.districtsOf x.municipalityId = []) := by
  rw [listed, List.mem_filter, activeSections, List.mem_filter, Territory.sectionsIn,
    List.mem_filter, Territory.HasList, Bool.or_eq_true, List.isEmpty_iff, and_assoc, and_assoc]
  refine and_congr_right fun hMem => and_iff_right ?_
  obtain ⟨p, hp⟩ := (hWell.sections x hMem).exists_path hWell
  rw [Territory.IsPath.root.placeInScope_eq hp]
  rfl

/-! ## The descent -/

/-- One step down: the rows of the view come before those of the nodes below it. -/
theorem descend_succ {levels : Nat} {c : CounterCache} {v : View} (hView : (s.view k c).1 = .ok v)
    (answer : Scope → List SectionRow)
    (hBelow : ∀ scope ∈ v.content.nodeList.map Node.scope, ∀ c,
      (descend s.view levels scope c).1 = .ok (answer scope)) :
    (descend s.view (levels + 1) k c).1 =
      .ok (v.content.rows ++ (v.content.nodeList.map Node.scope).flatMap answer) := by
  have hFirst : s.view k c = (.ok v, (s.view k c).2) := Prod.ext hView rfl
  have hOthers : visitAll (descend s.view levels) (v.content.nodeList.map Node.scope)
      (s.view k c).2 = (.ok _, _) := Prod.ext (visitAll_eq hBelow _) rfl
  have hDescend : descend s.view (levels + 1) k = s.view k >>= fun v =>
      visitAll (descend s.view levels) (v.content.nodeList.map Node.scope) >>= fun below =>
        pure (v.content.rows ++ below) := rfl
  rw [hDescend, Action.bind_of_ok hFirst, Action.bind_of_ok hOthers]
  rfl

/-- Whether a descent from a scope answers these rows whenever it may go `n` levels deep or deeper,
whatever counters are kept, and they are the rows of the sections that have a list. -/
structure Meets (s : Snapshot) (n : Nat) (k : Scope) (rows : List SectionRow) : Prop where
  answer : ∀ levels, n ≤ levels → ∀ c, (descend s.view levels k c).1 = .ok rows
  sections : (rows.map SectionRow.pollingSection).Perm (s.listed k)

/-- Where sections are listed the descent ends. -/
theorem meets_of_sectionList (hWell : s.territory.WellFormed) (hk : s.territory.IsPath k)
    (hLast : (s.territory.below k).1 = .sectionList) (n : Nat) :
    s.Meets (n + 1) k ((s.listSections k).flatMap BuildingView.rows) where
  answer := by
    intro levels hLevels c
    obtain ⟨levels, rfl⟩ : ∃ l, levels = l + 1 := ⟨levels - 1, by omega⟩
    obtain ⟨v, hView, rfl⟩ := exists_view_of_isPath hk c
    have hContent : v.content = .sections (s.listSections v.scope) := by
      rw [(view_eq_ok hView).2.2.1, content_of_sectionList hLast]
    have hNone : v.content.nodeList.map Node.scope = [] := by
      rw [hContent]
      rfl
    rw [descend_succ hView (fun _ => []) (by simp [hNone]), hNone, hContent, List.flatMap_nil,
      List.append_nil]
    rfl
  sections := by
    have hRows := (rows_listSections hWell k).map SectionRow.pollingSection
    rw [List.map_map] at hRows
    rw [listed_of_sectionList hWell hk hLast]
    exact hRows.trans (.of_eq (List.map_id _))

/-- Elsewhere it goes on at the children. -/
theorem meets_of_children (ht : s.territory.Unambiguous) (hk : s.territory.IsPath k)
    (hNodes : (s.territory.below k).1 ≠ .sectionList) {n : Nat} {answer : Scope → List SectionRow}
    (h : ∀ c ∈ (s.territory.below k).2.map Territory.Child.scope, s.Meets n c (answer c)) :
    s.Meets (n + 1) k (((s.territory.below k).2.map Territory.Child.scope).flatMap answer) where
  answer := by
    intro levels hLevels c
    obtain ⟨levels, rfl⟩ : ∃ l, levels = l + 1 := ⟨levels - 1, by omega⟩
    obtain ⟨v, hView, rfl⟩ := exists_view_of_isPath hk c
    have hScopes := (isFaithful_of_view hView).scopes
    have hRows : v.content.rows = [] := by
      rw [(view_eq_ok hView).2.2.1, (content_of_nodes hNodes c).2]
      rfl
    rw [← hScopes] at h ⊢
    have hVisits : ∀ scope ∈ v.content.nodeList.map Node.scope, ∀ cache,
        (descend s.view levels scope cache).1 = .ok (answer scope) :=
      fun scope hMem => (h scope hMem).answer levels (by omega)
    rw [descend_succ hView answer hVisits, hRows, List.nil_append]
  sections := by
    rw [List.map_flatMap]
    refine (List.Perm.flatMap (.refl _) fun c hc => ?_).trans (perm_listed_below ht hk hNodes)
    exact (h c hc).sections

/-- Below a path the descent ends once it may go as deep as the territory does. -/
theorem exists_meets (ht : s.territory.Unambiguous) (n : Nat) (hk : s.territory.IsPath k)
    (hDepth : 5 ≤ n + k.depth) : ∃ rows, s.Meets n k rows := by
  -- on the levels that are left below the path
  induction n generalizing k with
  | zero =>
    have hFour : k.depth ≤ 4 := hk.gapless.depth_le
    omega
  | succ n ih =>
    by_cases hLast : (s.territory.below k).1 = .sectionList
    · exact ⟨_, meets_of_sectionList ht.toWellFormed hk hLast n⟩
    · have hBelow : ∀ c ∈ (s.territory.below k).2.map Territory.Child.scope,
          ∃ rows, s.Meets n c rows := by
        intro c hc
        obtain ⟨hPath, hParent⟩ := (hk.mem_below_iff ht.toWellFormed).mp hc
        have hDeeper := hPath.gapless.depth_of_parent? hParent
        exact ih hPath (by omega)
      choose! answer hAnswer using hBelow
      exact ⟨_, meets_of_children ht hk hLast hAnswer⟩

/-- **The descent.** Over a validated territory whose districts are told apart, a descent from the
root ends within five views on each way down. It meets no section twice, and it meets the active
sections that name a district or lie in a municipality without districts. -/
theorem descent_meets (hValid : s.territory.validate = .ok ())
    (hDistricts : s.territory.HasDistinctDistricts) :
    ∃ rows : List SectionRow,
      (∀ levels, 5 ≤ levels → ∀ c, (descend s.view levels .root c).1 = .ok rows) ∧
      (rows.map (·.pollingSection.id)).Nodup ∧
      ∀ id, id ∈ rows.map (·.pollingSection.id) ↔ ∃ x ∈ s.territory.sections, x.isActive ∧
        x.id = id ∧ (x.district.isSome ∨ s.territory.districtsOf x.municipalityId = []) := by
  have ht := Territory.validate_unambiguous hValid hDistricts
  obtain ⟨rows, hAnswer, hPerm⟩ := exists_meets ht 5 .root (Nat.le_add_right 5 _)
  have hIds : (rows.map (·.pollingSection.id)).Perm ((s.listed .root).map PollingSection.id) := by
    have hMap := hPerm.map PollingSection.id
    rwa [List.map_map] at hMap
  refine ⟨rows, hAnswer, ?_, fun id => ?_⟩
  · have hSub : (s.listed .root).Sublist s.territory.sections :=
      List.filter_sublist.trans (List.filter_sublist.trans List.filter_sublist)
    exact hIds.nodup_iff.mpr ((hSub.map _).nodup ht.sectionIds)
  · rw [hIds.mem_iff, List.mem_map]
    refine exists_congr fun x => ?_
    rw [mem_listed_root ht.toWellFormed, and_assoc, and_assoc]
    exact and_congr_right fun _ => and_congr_right fun _ => and_comm

end Snapshot

/-! ## The town -/

/-- The sections that a descent of the town meets. -/
theorem Snapshot.descend_town : ((descend town.view 5 .root .empty).1.map fun rows =>
    rows.map (·.pollingSection.id)) = .ok [1, 3] := by rfl

/-- A descent of the town meets the sections in its districts. -/
theorem Snapshot.descent_meets_town :
    Territory.town.validate = .ok () ∧ Territory.town.HasDistinctDistricts ∧
    ∃ rows : List SectionRow,
      (∀ levels, 5 ≤ levels → ∀ c, (descend town.view levels .root c).1 = .ok rows) ∧
      rows.map (·.pollingSection.id) = [1, 3] := by
  have hValid := Territory.validate_town
  have hDistricts := Territory.hasDistinctDistricts_town
  obtain ⟨rows, hAnswer, -, -⟩ := descent_meets (s := town) hValid hDistricts
  have hRun := descend_town
  rw [hAnswer 5 (Nat.le_refl 5)] at hRun
  exact ⟨hValid, hDistricts, rows, hAnswer, Except.ok.inj hRun⟩

/-- **A section that is not met.** The second section of the town is active and names no district.
The town lists its districts, and each of them its own sections, so the descent ends without it. -/
theorem Snapshot.descent_misses_section :
    Territory.town.validate = .ok () ∧ Territory.town.HasDistinctDistricts ∧
    ∃ x ∈ Territory.town.sections, x.isActive ∧
      ∃ rows : List SectionRow, (descend town.view 5 .root .empty).1 = .ok rows ∧
        x.id ∉ rows.map (·.pollingSection.id) := by
  obtain ⟨rows, hRows, hIds⟩ := map_eq_ok.mp descend_town
  refine ⟨Territory.validate_town, Territory.hasDistinctDistricts_town,
    ⟨2, 2, "Scuola", "Via Roma 1", 1, none, true, 500⟩, by decide, rfl, rows, hRows, ?_⟩
  rw [hIds]
  decide

end PollRoster
