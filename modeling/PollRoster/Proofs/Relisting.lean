import PollRoster.Proofs.Assigning
import PollRoster.Proofs.Store
import PollRoster.Engine

/-!
# The order of the representatives

A ledger lists its representatives in the order in which they came, a database by identifier. Only a
snapshot reads the list as a whole; every other call looks one representative up. Since no two have
one identifier, nothing that is shown or answered tells in which order they were listed.

Main results:

* `Program.Asks.run_relisted` — a program that does not read the list runs alike over both lists.
* `Command.execute_asks` — no command reads it.
* `Snapshot.view_relisted`, `search_relisted`, `analyze_relisted` — what is read from a snapshot is
  the same for both lists.
-/

namespace PollRoster

/-- Whether two lists are of the same representatives, who have distinct identifiers. -/
structure SameRoll (rs rs' : List Representative) : Prop where
  perm : rs.Perm rs'
  ids : (rs.map Representative.id).Nodup

theorem SameRoll.find? {rs rs' : List Representative} (h : SameRoll rs rs') (id : Int) :
    rs.find? (fun r => decide (r.id = id)) = rs'.find? fun r => decide (r.id = id) :=
  find?_key_eq_of_perm h.ids h.perm id

/-! ## Calls and programs -/

/-- The ledger with another list of representatives. -/
def Ledger.relisted (rs : List Representative) (l : Ledger) : Ledger :=
  { l with representatives := rs }

/-- A call that looks at single representatives is answered alike over both lists. -/
theorem Ledger.answer_relisted {l : Ledger} {rs : List Representative}
    (hRoll : SameRoll rs l.representatives) {c : RepositoryCall} (hCall : c ≠ .representatives) :
    (l.relisted rs).answer c = ((l.answer c).1, (l.answer c).2.relisted rs) := by
  cases c with
  | representatives => exact absurd rfl hCall
  | representative id => exact Prod.ext (congrArg Except.ok (hRoll.find? id)) rfl
  | insert sectionId representativeId role =>
    rcases l.insert_cases sectionId representativeId role with
      ⟨hFree, hInsert⟩ | ⟨a, hHeld, hInsert⟩
    · rw [answer, answer, hInsert]
      exact insert_of_free (l := l.relisted rs) hFree representativeId
    · rw [answer, answer, hInsert]
      exact insert_of_taken (l := l.relisted rs) hHeld representativeId
  | delete id =>
    rcases l.delete_cases id with ⟨hMissing, hDelete⟩ | ⟨a, hFound, hDelete⟩
    · rw [answer, answer, hDelete]
      exact delete_of_missing (l := l.relisted rs) hMissing
    · rw [answer, answer, hDelete]
      exact delete_of_found (l := l.relisted rs) hFound
  | _ => rfl

/-- **Runs over another list.** -/
theorem Program.Asks.run_relisted {base : Ledger} {rs : List Representative}
    (hRoll : SameRoll rs base.representatives) {p : Program α} (h : p.Asks (· ≠ .representatives))
    (stop : Cancellation) (now : Moment) {l : Ledger} (hLike : base.IsLike l) :
    p.run stop now (l.relisted rs) = (p.run stop now l).mapRepository (.relisted rs) := by
  -- the ledgers passed through differ from `base` in assignments only, so the roll is theirs too
  induction p generalizing now l with
  | done a => rfl
  | fail e => rfl
  | call c next ih =>
    have hAnswer : Repository.answer c (l.relisted rs) =
        ((Repository.answer c l).1, (Repository.answer c l).2.relisted rs) := by
      rw [← hLike.2] at hRoll
      exact Ledger.answer_relisted hRoll h.1
    rw [run, hAnswer]
    exact ih _ (h.2 _) now (hLike.answer c)
  | announce e next ih =>
    rw [run, ih h _ hLike]
    rfl
  | poll next ih => exact ih _ (h _) _ hLike

/-! ## Commands -/

/-- No command reads the list of the representatives. -/
theorem Command.execute_asks (command : Command) :
    command.execute.Asks (· ≠ .representatives) := by
  -- what fills slots looks single representatives up
  have hFills : ∀ c : RepositoryCall, c.IsFilling → c ≠ .representatives := by
    rintro c hFills rfl
    exact hFills
  cases command with
  | assign sectionId representativeId role =>
    exact ((Assigning.assign_asks sectionId representativeId role).mono hFills).bind
      fun _ => trivial
  | remove assignmentId =>
    refine ((Assigning.remove_asks assignmentId).mono ?_).bind fun _ => trivial
    rintro c rfl
    exact nofun
  | bulkAssign representativeId sectionIds role =>
    exact ((Assigning.bulkAssign_asks representativeId sectionIds role).mono hFills).bind
      fun _ => trivial
  | invalidateCache scope => trivial

/-! ## Snapshots -/

/-- The detector looks single representatives up as well, though from the other end. -/
theorem ConflictDetector.flagsFor_relisted {rs rs' : List Representative} (h : SameRoll rs rs')
    (territory : Territory) (slots : SlotTable) (a : Assignment) :
    (ConflictDetector.mk territory slots rs).flagsFor a =
      (ConflictDetector.mk territory slots rs').flagsFor a := by
  have hFound : (ConflictDetector.mk territory slots rs).representative? a.representativeId =
      (ConflictDetector.mk territory slots rs').representative? a.representativeId :=
    findLast?_key_eq_of_perm h.ids h.perm a.representativeId
  rw [flagsFor, flagsFor, hFound]
  rfl

namespace Snapshot

instance : Std.TransCmp compareSummaries := inferInstanceAs (Std.TransCmp (compareLex _ _))

/-- Summaries that compare equal are of one identifier. -/
theorem id_eq_of_compareSummaries {x y : RepresentativeSummary}
    (h : compareSummaries x y = .eq) : x.representative.id = y.representative.id := by
  rw [compareSummaries, compareLex_eq_eq] at h
  exact Std.LawfulEqCmp.eq_of_compare h.2

/-- The snapshot with another list of representatives. -/
def relisted (rs : List Representative) (s : Snapshot) : Snapshot :=
  { s with representatives := rs }

variable {s : Snapshot} {rs : List Representative} (hRoll : SameRoll rs s.representatives)
include hRoll

theorem count_relisted : (s.relisted rs).count = s.count := by
  funext scope
  -- the list is only counted along, and only for those who are free
  have hFree := (hRoll.perm.filter fun r =>
    s.territory.placeInScope r.municipalityId r.district scope &&
      (s.slots.heldBy r.id).isEmpty).length_eq
  exact congrArg (Counters.mk _ _ _) hFree

theorem listSections_relisted (scope : Scope) :
    (s.relisted rs).listSections scope = s.listSections scope := by
  -- from the inside out: a slot, a row of slots, a building
  have hSlot : (s.relisted rs).slotView ⟨s.territory, s.slots, rs⟩ =
      s.slotView ⟨s.territory, s.slots, s.representatives⟩ := by
    funext a
    have hName : (s.relisted rs).representative? a.representativeId =
        s.representative? a.representativeId := hRoll.find? a.representativeId
    rw [slotView, slotView, hName, ConflictDetector.flagsFor_relisted hRoll]
  have hBuilding : (s.relisted rs).buildingView ⟨s.territory, s.slots, rs⟩ =
      s.buildingView ⟨s.territory, s.slots, s.representatives⟩ := by
    have hRow : (s.relisted rs).sectionRow ⟨s.territory, s.slots, rs⟩ =
        s.sectionRow ⟨s.territory, s.slots, s.representatives⟩ := by
      funext x
      rw [sectionRow, sectionRow, hSlot]
    funext b
    rw [buildingView, buildingView, hRow]
    rfl
  exact congrArg (List.map · _) hBuilding

theorem listNodes_relisted (level : Level) (children : List Territory.Child) (c : CounterCache) :
    (s.relisted rs).listNodes level children c = s.listNodes level children c := by
  induction children generalizing c with
  | nil => rfl
  | cons child rest ih =>
    have hRest : (s.relisted rs).listNodes level rest = s.listNodes level rest := funext ih
    rw [listNodes, listNodes, count_relisted hRoll, hRest]

theorem content_relisted (scope : Scope) (c : CounterCache) :
    (s.relisted rs).content scope c = s.content scope c := by
  have hBelow : (s.relisted rs).territory.below scope = s.territory.below scope := rfl
  rw [content, content, hBelow]
  split
  · rw [listSections_relisted hRoll]
  · rw [listNodes_relisted hRoll]

/-- **Views.** They show the same, and the cache keeps the same. -/
theorem view_relisted (scope : Scope) (c : CounterCache) :
    (s.relisted rs).view scope c = s.view scope c := by
  have hResolve : (s.relisted rs).territory.resolve scope = s.territory.resolve scope := rfl
  rw [view, view, hResolve]
  split
  · rfl
  · rw [content_relisted hRoll, count_relisted hRoll]
    rfl

/-- **Searches.** Who is found is listed by name and identifier. -/
theorem search_relisted (scope : Scope) (filter : Option String) :
    (s.relisted rs).search scope filter = s.search scope filter := by
  have hResolve : (s.relisted rs).territory.resolve scope = s.territory.resolve scope := rfl
  rw [search, search, hResolve]
  split
  · rfl
  next resolved hPath =>
    refine congrArg Except.ok (sortBy_eq_of_perm ((hRoll.perm.filter _).map _) ?_)
    intro x hx y hy hSame
    obtain ⟨r, hr, rfl⟩ := List.mem_map.mp hx
    obtain ⟨r', hr', rfl⟩ := List.mem_map.mp hy
    -- who compare equal have one identifier, and so are one
    have hId : r.id = r'.id := id_eq_of_compareSummaries hSame
    rw [List.inj_on_of_nodup_map hRoll.ids (List.mem_filter.mp hr).1 (List.mem_filter.mp hr').1 hId]

theorem analyze_relisted (representativeId : Int) (text : Option String) :
    (s.relisted rs).analyze representativeId text = s.analyze representativeId text := by
  have hFound : (s.relisted rs).representative? representativeId =
      s.representative? representativeId := hRoll.find? representativeId
  rw [analyze, analyze, hFound]
  rfl

end Snapshot

end PollRoster
