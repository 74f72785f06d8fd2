import PollRoster.Proofs.Engine
import PollRoster.Proofs.Links
import PollRoster.Proofs.Rows

/-!
# What a view owes to the cache

A cache may lag behind its repository, and nothing keeps it from holding counters that nobody ever
counted. What it holds shows in the counters of a view and nowhere else. The assignments in
particular are read from the repository each time, so a list of sections shows exactly those that
the repository finds in the slots.

Main results:

* `Snapshot.outline_view` — without its counters a view depends on the snapshot alone.
* `Snapshot.sectionRow_shown` — the entries of a row are the occupants of its slots.
* `Engine.cache_shows_in_counters_only` — both, of an engine over whatever repository and cache.
-/

namespace PollRoster

/-! ## Views without counters -/

/-- A node with its counters left blank. -/
def Node.outline (n : Node) : Node := { n with counters := ⟨0, 0, 0, 0⟩ }

/-- What is listed, with the counters of the nodes left blank. -/
def Content.outline : Content → Content
  | .nodes ns => .nodes (ns.map Node.outline)
  | .sections bs => .sections bs

/-- A view with its counters left blank: those of its summary and those of its nodes. -/
def View.outline (v : View) : View :=
  { v with content := v.content.outline, summary := ⟨0, 0, 0, 0⟩ }

@[simp] theorem Content.size_outline (c : Content) : c.outline.size = c.size := by
  cases c with
  | nodes ns => exact List.length_map Node.outline
  | sections bs => rfl

namespace Snapshot

/-- Every child is listed with its own scope and name; the counters beside them are what varies. -/
theorem outline_listNodes (s : Snapshot) (level : Level) (children : List Territory.Child)
    (c : CounterCache) :
    (s.listNodes level children c).1.map Node.outline =
      children.map fun child => (s.node level child).outline := by
  -- along the children: the first one may change the cache that the others are listed from
  induction children generalizing c with
  | nil => rfl
  | cons child rest ih =>
    rw [listNodes]
    dsimp only
    rw [List.map_cons, List.map_cons, ih]
    rfl

theorem outline_content (s : Snapshot) (k : Scope) (c : CounterCache) :
    (s.content k c).1 = (s.plainContent k).1 ∧
      (s.content k c).2.1.outline = (s.plainContent k).2.outline := by
  rw [content, plainContent]
  cases s.territory.below k with
  | mk level children =>
    have hNodes : Content.outline (.nodes (s.listNodes level children c).1) =
        Content.outline (.nodes (children.map (s.node level))) := by
      rw [Content.outline, Content.outline, outline_listNodes, List.map_map]
      rfl
    cases level with
    | sectionList => exact ⟨rfl, rfl⟩
    | region | province | municipality | district => exact ⟨rfl, hNodes⟩

/-- **Views of one snapshot.** From whatever caches a scope is shown, the views differ in their
counters only, and both fail or neither does. -/
theorem outline_view (s : Snapshot) (scope : Scope) (c c' : CounterCache) :
    (s.view scope c).1.map View.outline = (s.view scope c').1.map View.outline := by
  rw [view, view]
  cases s.territory.resolve scope with
  | error e => rfl
  | ok k =>
    obtain ⟨hLevel, hContent⟩ := s.outline_content k c
    obtain ⟨hLevel', hContent'⟩ := s.outline_content k c'
    -- whether a view may be passed over depends on how many entries it has, not on their counters
    have hSize : (s.content k c).2.1.size = (s.content k c').2.1.size := by
      rw [← Content.size_outline, hContent, ← hContent', Content.size_outline]
    have hSameLevel : (s.content k c).1 = (s.content k c').1 := hLevel.trans hLevel'.symm
    have hSameContent : (s.content k c).2.1.outline = (s.content k c').2.1.outline :=
      hContent.trans hContent'.symm
    dsimp only [Except.map, View.outline]
    rw [hSize, hSameLevel, hSameContent]

end Snapshot

/-! ## Occupants of slots -/

/-- The entry of a row for one of its two slots. -/
def SectionRow.slot? (row : SectionRow) : Role → Option SlotView
  | .primary => row.primary
  | .alternate => row.alternate

/-- Whether a list of sections shows each active section of its scope once, and in each slot the
assignment that the repository finds there, or none if it finds none. -/
structure View.ShowsOccupants [Repository ρ] (t : Territory) (r : ρ) (v : View) : Prop where
  sections : (v.content.rows.map SectionRow.pollingSection).Perm
    ((t.sectionsIn v.scope).filter (·.isActive))
  occupants : ∀ row ∈ v.content.rows, ∀ role, ∃ occupant,
    (Repository.answer (.findSlot row.pollingSection.id role) r).1 = .ok occupant ∧
    (row.slot? role).map (fun shown => (shown.assignmentId, shown.representativeId)) =
      occupant.map fun a => (a.id, a.representativeId)

namespace Snapshot

variable {s : Snapshot}

/-- The entry of a slot shows its occupant in the slot table. -/
theorem sectionRow_shown (x : PollingSection) (role : Role) :
    ((s.sectionRow s.detector x).slot? role).map
        (fun shown => (shown.assignmentId, shown.representativeId)) =
      (s.slots.occupant? x.id role).map fun a => (a.id, a.representativeId) := by
  cases role with
  | primary => exact Option.map_map ..
  | alternate => exact Option.map_map ..

/-- The rows of a view that lists sections are those of the active sections of its scope. -/
theorem rows_of_view (hWell : s.territory.WellFormed) {scope : Scope} {c : CounterCache} {v : View}
    (hView : (s.view scope c).1 = .ok v) (hLast : v.level = .sectionList) :
    v.content.rows.Perm ((s.activeSections v.scope).map (s.sectionRow s.detector)) := by
  obtain ⟨-, -, hContent, -, -⟩ := view_eq_ok hView
  have hBelow : (s.territory.below v.scope).1 = .sectionList := by
    rw [← (isFaithful_of_view hView).level]
    exact hLast
  rw [content_of_sectionList hBelow] at hContent
  rw [hContent]
  exact rows_listSections hWell v.scope

end Snapshot

namespace Engine

variable {ρ : Type} [Repository ρ]

/-- A view is one of the snapshot that is read first, whatever the repository is, shown from some
cache. Reading does not look at the cache. -/
theorem exists_cache_of_view (scope : Scope) (e : Engine ρ) :
    ∃ c : CounterCache, (view scope e).1 =
      (Snapshot.load.run none 0 e.repository).result >>= fun s => (s.view scope c).1 := by
  refine ⟨e.cache, ?_⟩
  cases hRead : (Snapshot.load.run none 0 e.repository).result with
  | ok s =>
    rw [view_apply_of_read hRead]
    rfl
  | error error =>
    rw [view_apply_of_unread hRead]
    rfl

/-- **Views beside the cache.** Two engines over one repository show a scope alike but for the
counters, or fail alike, whatever is in their caches. If the repository keeps a ledger over a
validated territory in which no slot is held twice, a list of sections shows the occupants that the
repository finds. -/
theorem cache_shows_in_counters_only (r : ρ) (scope : Scope) (c c' : CounterCache)
    (log log' : List Event) :
    (view scope ⟨r, c, log⟩).1.map View.outline = (view scope ⟨r, c', log'⟩).1.map View.outline ∧
    ∀ l : Ledger, l.IsKeptBy r → l.territory.validate = .ok () →
      (l.assignments.map Assignment.slot).Nodup →
      ∀ v, (view scope ⟨r, c, log⟩).1 = .ok v → v.level = .sectionList →
        l.territory.resolve scope = .ok v.scope ∧ v.ShowsOccupants l.territory r := by
  constructor
  · obtain ⟨c₁, hView⟩ := exists_cache_of_view scope ⟨r, c, log⟩
    obtain ⟨c₂, hView'⟩ := exists_cache_of_view scope ⟨r, c', log'⟩
    rw [hView, hView']
    cases (Snapshot.load.run none 0 r).result with
    | error e => rfl
    | ok s => exact s.outline_view scope c₁ c₂
  · intro l hKept hValid hSlots v hView hLast
    have hWell := Territory.validate_wellFormed hValid
    have hShown : view scope ⟨r, c, log⟩ = _ := view_of_kept hKept scope
    rw [hShown] at hView
    have hRows := Snapshot.rows_of_view hWell hView hLast
    refine ⟨(Snapshot.scope_of_view hView).1, ?_, ?_⟩
    · have hSections := hRows.map SectionRow.pollingSection
      rw [List.map_map] at hSections
      have hSame : SectionRow.pollingSection ∘ l.snapshot.sectionRow l.snapshot.detector = id := rfl
      rw [hSame, List.map_id] at hSections
      exact hSections
    · intro row hRow role
      obtain ⟨x, -, rfl⟩ := List.mem_map.mp (hRows.mem_iff.mp hRow)
      -- a look-up changes nothing, so it is answered from the ledger that is kept
      have hGrounded : (RepositoryCall.findSlot x.id role).IsGrounded l := trivial
      have hFound : (Repository.answer (.findSlot x.id role) r).1 = .ok (l.findSlot x.id role) := by
        obtain ⟨store, hStores, rfl⟩ := hKept
        rw [hStores.answer (.refl l) hGrounded]
        rfl
      refine ⟨_, hFound, ?_⟩
      rw [← Ledger.occupant?_snapshot hSlots]
      exact Snapshot.sectionRow_shown x role

end Engine

/-! ## A town beside a cache that is wrong -/

/-- The town as a ledger, where one more section has an alternate. -/
def Ledger.town : Ledger :=
  ⟨.town, Snapshot.town.representatives, Snapshot.town.assignments ++ [⟨2, 3, 2, .alternate⟩], 3⟩

namespace Engine

/-- Counters of the second district that nobody counted. -/
def wrongCounters : CounterCache := ⟨[(⟨some 1, some 1, some 1, some 2⟩, ⟨9, 9, 9, 9⟩)]⟩

/-- The second district is shown with the wrong counters and with the right alternate. -/
theorem cache_shows_in_counters_only_town :
    ∃ v v', (view (.ofPlace 1 (some 2)) ⟨Ledger.town, wrongCounters, []⟩).1 = .ok v ∧
      (view (.ofPlace 1 (some 2)) ⟨Ledger.town, .empty, []⟩).1 = .ok v' ∧
      v.summary = ⟨9, 9, 9, 9⟩ ∧ v'.summary = ⟨1, 0, 1, 0⟩ ∧ v.outline = v'.outline ∧
      v.level = .sectionList ∧ v.ShowsOccupants .town Ledger.town ∧
      v.content.rows.map (fun row => (row.slot? .alternate).map SlotView.assignmentId) =
        [some 2] := by
  have hSlots : (Ledger.town.assignments.map Assignment.slot).Nodup := by decide
  obtain ⟨v, v', hView, hView', hStale, hCounted, hLast, hRows⟩ : ∃ v v',
      (view (.ofPlace 1 (some 2)) ⟨Ledger.town, wrongCounters, []⟩).1 = .ok v ∧
      (view (.ofPlace 1 (some 2)) ⟨Ledger.town, .empty, []⟩).1 = .ok v' ∧
      v.summary = ⟨9, 9, 9, 9⟩ ∧ v'.summary = ⟨1, 0, 1, 0⟩ ∧ v.level = .sectionList ∧
      v.content.rows.map (fun row => (row.slot? .alternate).map SlotView.assignmentId) =
        [some 2] :=
    ⟨_, _, rfl, rfl, by rfl, by rfl, by rfl, by rfl⟩
  obtain ⟨hSame, hShown⟩ := cache_shows_in_counters_only Ledger.town (.ofPlace 1 (some 2))
    wrongCounters .empty [] []
  rw [hView, hView'] at hSame
  obtain ⟨-, hOccupants⟩ := hShown .town (Ledger.isKeptBy_self _) Territory.validate_town hSlots v
    hView hLast
  exact ⟨v, v', hView, hView', hStale, hCounted, Except.ok.inj hSame, hLast, hOccupants, hRows⟩

end Engine

end PollRoster
