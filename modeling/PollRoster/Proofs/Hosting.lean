import PollRoster.Proofs.Ascent
import PollRoster.Proofs.Database.Restoring
import PollRoster.Proofs.Invalidation
import PollRoster.Proofs.Reading
import PollRoster.Proofs.Session

/-!
# What the service keeps of a territory

Once reference data is loaded no request changes it. Requests are made one after the other, others
call the database in between, and the service may be started anew; through all of that the database
keeps its territory. Only while it has no region can another territory take its place, and then the
root is the only path there is.

Main results:

* `Reachable.districts_positive` — districts are numbered from one.
* `ensures_handle` — a request leaves the territory as it is, and answers with paths of it.
* `after_hosts` — so does a run of requests and calls, unless there was nothing to be kept.
-/

namespace PollRoster

/-- Where there are no regions the root is the only path. -/
theorem Territory.IsPath.eq_root {t : Territory} {k : Scope} (hk : t.IsPath k)
    (hNone : t.regions = []) : k = .root := by
  have hNoRegion : ∀ r, k.region ≠ some r := by
    intro r hr
    obtain ⟨x, hx⟩ := Option.isSome_iff_exists.mp (hk.region r hr)
    have hMem := (Territory.region?_eq_some hx).1
    rw [hNone] at hMem
    exact List.not_mem_nil hMem
  cases hk.gapless with
  | root => rfl
  | region r | province r v | municipality r v m | district r v m d =>
    exact absurd rfl (hNoRegion r)

/-- What takes the place of a territory, if that had no regions, has its paths. -/
theorem Territory.IsPath.lasts {t t' : Territory} {k : Scope} (hk : t.IsPath k)
    (hSame : t' = t ∨ t.regions = []) : t'.IsPath k := by
  rcases hSame with rfl | hNone
  · exact hk
  · rw [hk.eq_root hNone]
    exact .root

namespace Database

/-! ## Databases and their territories -/

/-- Whether loads and calls have led to a database, and it keeps a territory. -/
structure Hosts (db : Database) (t : Territory) : Prop where
  reachable : Reachable db
  healthy : ∃ l, db.Healthy l ∧ l.territory = t

variable {db : Database} {t : Territory}

theorem Reachable.hosts (h : Reachable db) : ∃ t, db.Hosts t := by
  obtain ⟨l, hl⟩ := h.healthy
  exact ⟨l.territory, h, l, hl, rfl⟩

theorem Hosts.wellFormed (h : db.Hosts t) : t.WellFormed := by
  obtain ⟨l, hl, rfl⟩ := h.healthy
  exact hl.sound.territory

/-- The territory is that of the records which are read from the database. -/
theorem Hosts.data (h : db.Hosts t) :
    ∃ data, db.territoryData = .ok data ∧ Territory.ofData data = t := by
  obtain ⟨l, hl, rfl⟩ := h.healthy
  obtain ⟨data, hData, hTerritory, -⟩ := hl.data
  exact ⟨data, hData, hTerritory⟩

/-- Calls change assignments only. -/
theorem Hosts.answer (h : db.Hosts t) (c : RepositoryCall) :
    (Repository.answer c db).2.Hosts t := by
  obtain ⟨l, hl, rfl⟩ := h.healthy
  obtain ⟨l', hLike, hl'⟩ := hl.answer c
  exact ⟨.call c h.reachable, l', hl', hLike.1⟩

/-- Without regions in the database there are none in its territory. -/
theorem Hosts.regions_eq_nil (h : db.Hosts t) (hUnseeded : db.isSeeded = false) :
    t.regions = [] := by
  obtain ⟨l, hl, rfl⟩ := h.healthy
  -- the regions are stored as they are, so there is nothing to be put in order
  obtain ⟨data, -, hTerritory, hRegions, -⟩ := hl.data
  have hNone : data.regions = [] := by
    rw [hRegions]
    simpa [isSeeded] using hUnseeded
  rw [← hTerritory]
  change sortBy _ data.regions = []
  rw [hNone]
  rfl

/-- A load is refused where there are regions. -/
theorem unseeded_of_seed {d : ReferenceData} (hLoaded : (seed d db).1 = .ok ()) :
    db.isSeeded = false := by
  cases hSeeded : db.seeded d with
  | error e =>
    rw [seed_of_error hSeeded] at hLoaded
    cases hLoaded
  | ok db' => exact (seeded_eq_ok hSeeded).2.1

/-- A load leaves the territory alone, unless there are no regions in it. -/
theorem Hosts.seed (h : db.Hosts t) (d : ReferenceData) :
    ∃ t', (seed d db).2.Hosts t' ∧ (t' = t ∨ t.regions = []) := by
  by_cases hLoaded : (Database.seed d db).1 = .ok ()
  · obtain ⟨t', hHosts⟩ := (Reachable.seed d h.reachable).hosts
    exact ⟨t', hHosts, .inr (h.regions_eq_nil (unseeded_of_seed hLoaded))⟩
  · -- what is refused changes nothing
    obtain ⟨l, hl, -⟩ := h.healthy
    rw [(hl.seed d).2 hLoaded]
    exact ⟨t, h, .inl rfl⟩

/-- **Numbers of districts.** The tables admit no district with the number zero. -/
theorem Reachable.districts_positive (h : Reachable db) {l : Ledger} (hl : db.Healthy l) :
    ∀ x ∈ l.territory.districts, 0 < x.number := by
  -- along the loads and calls that led to the database
  induction h generalizing l with
  | empty =>
    obtain rfl := hl.keeps.unique keeps_empty
    exact fun x hx => (List.not_mem_nil hx).elim
  | @seed db d hBefore ih =>
    by_cases hLoaded : (Database.seed d db).1 = .ok ()
    · have hBlank := hBefore.hasParents.isBlank (unseeded_of_seed hLoaded)
      obtain ⟨hStorable, hRestores⟩ := hBlank.restores_of_seed hLoaded
      obtain ⟨data, hData, hSame, -⟩ := hRestores.territory
      -- the data that is read back is the data of the ledger
      obtain ⟨data', hData', hTerritory, -⟩ := hl.data
      obtain rfl := Except.ok.inj (hData.symm.trans hData')
      intro x hx
      rw [← hTerritory] at hx
      exact hStorable.districts.positive x (hSame.districts.mem_iff.mp (mem_sortBy.mp hx))
    · obtain ⟨l', hl'⟩ := hBefore.healthy
      rw [(hl'.seed d).2 hLoaded] at hl
      exact ih hl
  | @call db c hBefore ih =>
    obtain ⟨l', hl'⟩ := hBefore.healthy
    obtain ⟨l'', hLike, hl''⟩ := hl'.answer c
    obtain rfl := hl.keeps.unique hl''.keeps
    rw [hLike.1]
    exact ih hl'

theorem Hosts.districts_positive (h : db.Hosts t) : ∀ x ∈ t.districts, 0 < x.number := by
  obtain ⟨l, hl, rfl⟩ := h.healthy
  exact h.reachable.districts_positive hl

end Database

/-- Whether the database of an engine keeps a territory. -/
abbrev Engine.Hosts (t : Territory) (e : Engine Database) : Prop := e.repository.Hosts t

/-! ## Links -/

/-- The scopes that a view names: its own, those of its nodes and those of its breadcrumbs. -/
def View.links (v : View) : List Scope :=
  v.scope :: (v.content.nodeList.map Node.scope ++ v.breadcrumbs.map Breadcrumb.scope)

/-- The links of a view that shows a territory are paths of it. -/
theorem View.IsFaithful.isPath_of_mem_links {t : Territory} {v : View} (h : v.IsFaithful t)
    (hWell : t.WellFormed) {k : Scope} (hk : k ∈ v.links) : t.IsPath k := by
  rcases List.mem_cons.mp hk with rfl | hk
  · exact h.isPath
  rcases List.mem_append.mp hk with hNode | hCrumb
  · obtain ⟨n, hn, rfl⟩ := List.mem_map.mp hNode
    exact ((h.isPath.mem_below_iff hWell).mp (h.mem_below hn)).1
  · obtain ⟨b, hb, rfl⟩ := List.mem_map.mp hCrumb
    exact h.isPath_of_mem_breadcrumbs hb

namespace Service

/-- The scopes that a reply names, be it in a view or as the path of a navigator. -/
def Reply.links : Reply → List Scope
  | .view v => v.links
  | .moved n => n.state.path :: n.view.elim [] View.links
  | .bulk answer => answer.view.elim [] View.links
  | _ => []

end Service

/-! ## Actions that leave the territory -/

/-- What leaves the database alone leaves its territory. -/
theorem OnlyReads.ensures {t : Territory} {ε α : Type} {x : Action (Engine Database) ε α}
    (h : OnlyReads x) : Ensures (Engine.Hosts t) x fun _ => True := by
  intro e hHosts
  refine ⟨?_, fun _ _ => trivial⟩
  change (x e).2.repository.Hosts t
  rw [h e]
  exact hHosts

/-! ## The engine -/

namespace Engine

variable {t : Territory}

/-- No program changes a territory. -/
theorem ensures_perform (p : Program α) (stop : Cancellation) :
    Ensures (Hosts t) (perform p stop) fun _ => True :=
  fun _ hHosts =>
    ⟨p.run_keeps (P := fun db : Database => db.Hosts t) (fun c _ h => h.answer c) hHosts,
      fun _ _ => trivial⟩

/-- **Charting.** An engine shows the territory that its database keeps. -/
theorem charts_hosted (t : Territory) : Navigator.Charts t (Hosts t) view := by
  intro scope e hHosts
  obtain ⟨l, hl, hTerritory⟩ := hHosts.healthy
  have hRests : Navigator.RestsOn t e := ⟨l, hl.keeps.isKeptBy, hTerritory⟩
  exact ⟨((onlyReads_view scope).ensures e hHosts).1,
    (Navigator.engine_charts_kept t scope e hRests).2⟩

theorem answers_hosted (t : Territory) : Navigator.Answers t (Hosts t) view := by
  intro scope k hResolve e hHosts
  obtain ⟨l, hl, hTerritory⟩ := hHosts.healthy
  exact Navigator.engine_answers t scope k hResolve e ⟨l, hl.keeps.isKeptBy, hTerritory⟩

theorem ensures_resolve (scope : Scope) : Ensures (Hosts t) (resolve scope) fun _ => True := by
  refine (ensures_perform _ none).bind fun territory _ => ?_
  cases territory.resolve scope with
  | ok path => exact ensures_pure trivial
  | error e => exact ensures_fail _

theorem ensures_scopeOfSection (sectionId : Int) :
    Ensures (Hosts t) (scopeOfSection sectionId) fun _ => True := by
  refine (ensures_perform _ none).bind fun territory _ => ?_
  cases territory.section? sectionId with
  | none => exact ensures_fail _
  | some s =>
    dsimp only
    cases territory.resolve (.ofPlace s.municipalityId s.district) with
    | ok path => exact ensures_pure trivial
    | error e => exact ensures_fail _

theorem ensures_scopeOfRepresentative (representativeId : Int) :
    Ensures (Hosts t) (scopeOfRepresentative representativeId) fun _ => True := by
  refine (ensures_perform _ none).bind fun found _ => ?_
  cases found with
  | none => exact ensures_fail _
  | some r => exact ensures_resolve _

end Engine

/-! ## Requests -/

namespace Service

variable {t : Territory} {α β : Type}

/-- What was sent is checked before an action. -/
theorem ensures_checked (a : Except ServiceError β) {f : β → Step Database α} {post : α → Prop}
    (hThen : ∀ b, Ensures (Engine.Hosts t) (f b) post) :
    Ensures (Engine.Hosts t) (Action.ofExcept a >>= f) post :=
  (ensures_ofExcept a).bind fun b _ => hThen b

theorem ensures_placesOf (sectionIds : List Int) :
    Ensures (Engine.Hosts t) (placesOf sectionIds) fun _ => True := by
  induction sectionIds with
  | nil => exact ensures_pure trivial
  | cons id rest ih =>
    exact ((Engine.ensures_scopeOfSection id).mapError _).bind fun _ _ =>
      ih.bind fun _ _ => ensures_pure trivial

theorem ensures_invalidateAll (scopes : List Scope) :
    Ensures (Engine.Hosts t) (invalidateAll scopes) fun _ => True := by
  induction scopes with
  | nil => exact ensures_pure trivial
  | cons scope rest ih =>
    exact ((Engine.onlyReads_invalidate scope).ensures.mapError _).bind fun _ _ => ih

theorem ensures_invalidateTouched (sectionIds : List Int) (representativeId : Int) :
    Ensures (Engine.Hosts t) (invalidateTouched sectionIds representativeId) fun _ => True :=
  (ensures_placesOf sectionIds).bind fun _ _ =>
    ((Engine.ensures_scopeOfRepresentative representativeId).mapError _).bind fun _ _ =>
      ensures_invalidateAll _

theorem ensures_create (sectionId representativeId : Int) (role : String) (stop : Cancellation) :
    Ensures (Engine.Hosts t) (create sectionId representativeId role stop) fun _ => True := by
  refine ensures_checked _ fun _ => ensures_checked _ fun _ => ensures_checked _ fun role => ?_
  refine ((Engine.ensures_perform _ stop).mapError _).bind fun outcome _ => ?_
  dsimp only
  split
  · exact (ensures_invalidateTouched _ _).bind fun _ _ => ensures_pure trivial
  · exact ensures_pure trivial

theorem ensures_delete (assignmentId : Int) (stop : Cancellation) :
    Ensures (Engine.Hosts t) (delete assignmentId stop) fun _ => True :=
  ensures_checked _ fun _ => ((Engine.ensures_perform _ stop).mapError _).bind fun _ _ =>
    (ensures_invalidateTouched _ _).bind fun _ _ => ensures_pure trivial

/-- The view of a batch shows the territory, even if counters elsewhere are out of date. -/
theorem ensures_commit (selection : Selection) (representativeId : Int) (role : Role)
    (stop : Cancellation) :
    Ensures (Engine.Hosts t) (commit selection representativeId role stop) fun committed =>
      committed.view.IsFaithful t := by
  rw [commit_eq]
  split
  · exact ensures_fail _
  · refine (Engine.ensures_perform _ stop).bind fun report _ => ?_
    refine (Engine.onlyReads_invalidate selection.scope).ensures.bind fun _ _ => ?_
    exact (Engine.charts_hosted t selection.scope).bind fun view hView => ensures_pure hView.2

theorem ensures_commitOrReset (selection : Selection) (representativeId : Int) (role : Role)
    (stop : Cancellation) :
    Ensures (Engine.Hosts t) (commitOrReset selection representativeId role stop) fun committed =>
      committed.view.IsFaithful t := by
  refine (ensures_commit selection representativeId role stop).attempt.bind fun answer hAnswer => ?_
  cases answer with
  | ok committed => exact ensures_pure (hAnswer committed rfl)
  | error e =>
    exact ((Engine.onlyReads_invalidate .root).ensures.mapError _).bind fun _ _ => ensures_fail _

theorem ensures_bulkAssign (representativeId : Int) (sectionIds : List Int) (role : String)
    (scope : Option Scope) (stop : Cancellation) :
    Ensures (Engine.Hosts t) (bulkAssign representativeId sectionIds role scope stop)
      fun answer => ∀ v ∈ answer.view, v.IsFaithful t := by
  refine ensures_checked _ fun _ => ensures_checked _ fun role => ?_
  refine ensures_checked _ fun scope => ensures_checked _ fun _ => ?_
  refine ((Engine.ensures_resolve scope).mapError _).bind fun path _ => ?_
  refine (ensures_commitOrReset _ representativeId role stop).bind fun committed hView => ?_
  -- the view is settled before the last counters are dropped
  have hAnswer : Ensures (Engine.Hosts t)
      (if committed.report.isPartialFailure then
        Action.fail (.partialFailure ⟨committed.report, some committed.view⟩)
      else pure ⟨committed.report, some committed.view⟩ : Step Database BulkAnswer)
      fun answer => ∀ v ∈ answer.view, v.IsFaithful t := by
    split
    · exact ensures_fail _
    · refine ensures_pure fun v hv => ?_
      rwa [← Option.some.inj hv]
  dsimp only
  split
  · exact (ensures_invalidateTouched _ _).bind fun _ _ => hAnswer
  · exact hAnswer

theorem ensures_hierarchy (scope : Scope) :
    Ensures (Engine.Hosts t) (hierarchy scope) fun v => v.IsFaithful t :=
  ensures_checked _ fun scope =>
    ((Engine.charts_hosted t scope).mono fun _ hv => hv.2).mapError _

theorem ensures_navigate (hWell : t.WellFormed) (path : Scope) (action : NavigationAction)
    (maxAutoSkip : Nat) :
    Ensures (Engine.Hosts t) (navigate path action maxAutoSkip) fun n => n.Stands t :=
  ensures_checked _ fun path =>
    ((Navigator.ensures_apply hWell (Engine.charts_hosted t) (.startAt path maxAutoSkip)
      action).mono fun _ hn => hn.1).mapError _

/-- **Every request** but a load leaves the territory as it is, and all links of its answer are
paths of the territory. -/
theorem ensures_handle (hWell : t.WellFormed) {request : Request}
    (hNoLoad : ∀ text, request ≠ .loadFixture text) (maxAutoSkip : Nat) (stop : Cancellation) :
    Ensures (Engine.Hosts t) (handle maxAutoSkip stop request) fun reply =>
      ∀ k ∈ reply.links, t.IsPath k := by
  have hReply : ∀ {α : Type} {x : Step Database α} {post : α → Prop} (reply : α → Reply),
      Ensures (Engine.Hosts t) x post → (∀ a, post a → ∀ k ∈ (reply a).links, t.IsPath k) →
      Ensures (Engine.Hosts t) (x >>= fun a => pure (reply a))
        fun reply => ∀ k ∈ reply.links, t.IsPath k :=
    fun _ hx hLinks => hx.bind fun a ha => ensures_pure (hLinks a ha)
  have hUnlinked : ∀ {k : Scope}, k ∈ ([] : List Scope) → t.IsPath k :=
    fun hk => (List.not_mem_nil hk).elim
  cases request with
  | hierarchy scope =>
    exact hReply _ (ensures_hierarchy scope) fun v hv k hk => hv.isPath_of_mem_links hWell hk
  | representatives scope filter =>
    exact hReply _ (ensures_checked _ fun s =>
      (Engine.onlyReads_search s filter).ensures.mapError _) fun _ _ _ hk => hUnlinked hk
  | create sectionId representativeId role =>
    exact hReply _ (ensures_create sectionId representativeId role stop)
      fun _ _ _ hk => hUnlinked hk
  | delete assignmentId =>
    exact hReply _ (ensures_delete assignmentId stop) fun _ _ _ hk => hUnlinked hk
  | bulkAssign representativeId sectionIds role scope =>
    refine hReply _ (ensures_bulkAssign representativeId sectionIds role scope stop) ?_
    intro answer hShown k hk
    change k ∈ answer.view.elim [] View.links at hk
    cases hView : answer.view with
    | none =>
      rw [hView] at hk
      exact hUnlinked hk
    | some v =>
      rw [hView] at hk
      exact (hShown v hView).isPath_of_mem_links hWell hk
  | invalidate scope =>
    exact hReply _ (ensures_checked _ fun s =>
      ((Engine.onlyReads_invalidate s).ensures.mapError _).bind fun _ _ =>
        ensures_pure (p := fun _ => True) trivial) fun _ _ _ hk => hUnlinked hk
  | analyze representativeId text =>
    exact hReply _ (ensures_checked _ fun _ =>
      (Engine.onlyReads_analyze representativeId text).ensures.mapError _)
      fun _ _ _ hk => hUnlinked hk
  | navigate path action =>
    refine hReply _ (ensures_navigate hWell path action maxAutoSkip) ?_
    rintro n ⟨v, hView, hState, hFaithful⟩ k hk
    change k ∈ n.state.path :: n.view.elim [] View.links at hk
    rw [hView, hState] at hk
    rcases List.mem_cons.mp hk with rfl | hk
    · exact hFaithful.isPath
    · exact hFaithful.isPath_of_mem_links hWell hk
  | loadFixture text => exact absurd rfl (hNoLoad text)

/-! ## Later states -/

/-- What happens to an engine: a request is made, somebody else calls its database, or it is started
anew over the same database. -/
inductive Deed where
  | request (c : Call)
  | elsewhere (c : RepositoryCall)
  | restart

/-- What a deed leaves, whatever was answered. -/
def Deed.run (e : Engine Database) : Deed → Engine Database
  | .request c => (c.run e).2
  | .elsewhere c => e.afterWrites [c]
  | .restart => .start e.repository

/-- An engine after these deeds. -/
def after (e : Engine Database) (deeds : List Deed) : Engine Database := deeds.foldl Deed.run e

theorem handle_loadFixture (maxAutoSkip : Nat) (stop : Cancellation) (text : String)
    (e : Engine Database) : handle maxAutoSkip stop (.loadFixture text) e =
      ((loadFixture text e).1.map .loaded, (loadFixture text e).2) :=
  Action.bind_pure_apply _ _ e

/-- A load is one of the database, or never gets there. -/
theorem repository_loadFixture (text : String) (e : Engine Database) :
    (loadFixture text e).2.repository = e.repository ∨
      ∃ d, (loadFixture text e).2.repository = (Database.seed d e.repository).2 := by
  rw [loadFixture]
  cases ReferenceData.ofText? text with
  | none => exact .inl rfl
  | some d =>
    refine .inr ⟨d, ?_⟩
    dsimp only
    rcases Database.seed d e.repository with ⟨answer, db⟩
    cases answer <;> rfl

/-- **One deed** leaves the territory, unless there are no regions in it. -/
theorem Deed.hosts {e : Engine Database} (h : e.Hosts t) (deed : Deed) :
    ∃ t', (deed.run e).Hosts t' ∧ (t' = t ∨ t.regions = []) := by
  cases deed with
  | elsewhere c => exact ⟨t, Database.Hosts.answer h c, .inl rfl⟩
  | restart => exact ⟨t, h, .inl rfl⟩
  | request c =>
    -- only a load could put another territory in its place
    obtain ⟨maxAutoSkip, stop, request⟩ := c
    by_cases hLoad : ∃ text, request = .loadFixture text
    · obtain ⟨text, rfl⟩ := hLoad
      unfold Engine.Hosts
      rw [Deed.run, Call.run, handle_loadFixture]
      rcases repository_loadFixture text e with hKept | ⟨d, hSeeded⟩
      · rw [hKept]
        exact ⟨t, h, .inl rfl⟩
      · rw [hSeeded]
        exact Database.Hosts.seed h d
    · have hNoLoad : ∀ text, request ≠ .loadFixture text := fun text hText => hLoad ⟨text, hText⟩
      exact ⟨t, (ensures_handle h.wellFormed hNoLoad maxAutoSkip stop e h).1, .inl rfl⟩

/-- **A run of deeds** leaves the territory, unless there are no regions in it. -/
theorem after_hosts {e : Engine Database} (h : e.Hosts t) (deeds : List Deed) :
    ∃ t', (after e deeds).Hosts t' ∧ (t' = t ∨ t.regions = []) := by
  induction deeds generalizing e t with
  | nil => exact ⟨t, h, .inl rfl⟩
  | cons deed rest ih =>
    obtain ⟨t₁, hFirst, hSame⟩ := deed.hosts h
    obtain ⟨t₂, hRest, hSame'⟩ := ih hFirst
    refine ⟨t₂, hRest, ?_⟩
    -- once a territory with regions is there, it stays
    rcases hSame with rfl | hNone
    · exact hSame'
    · exact .inr hNone

end Service

end PollRoster
