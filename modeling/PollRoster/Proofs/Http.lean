import PollRoster.Http.Response
import PollRoster.Proofs.Coherence
import PollRoster.Proofs.Reading

/-!
# What requests over HTTP do to the database

The status of a response tells whether the database may have changed. A write is followed by steps
that could fail as far as their types go, but over seeded data they do not: the places of what was
written are found and the view is shown. So whoever is answered with an error finds everything as it
was. The body of a request may be any bytes, of any length.

Main results:

* `isReading_or_mayWrite` — only three routes lead to a request that asks for a change.
* `error_answers_spare` — an error changes nothing, and nothing changes by another route.
-/

namespace PollRoster.Http

open Engine (Knowledge)

/-! ## Which requests may write -/

/-- Whether a path names an assignment: by one part behind the others that stands for an
identifier. -/
def NamesAssignment (path : List Char) : Prop :=
  ∃ part, path = "/assignments/".toList ++ part ∧ part ≠ [] ∧ '/' ∉ part ∧
    ∃ id, idOfPart part = .ok id

/-- Whether a request is sent to a route that changes assignments. -/
def Request.MayWrite (r : Request) : Prop :=
  r.method = "POST" ∧
      (r.target.path = "/assignments".toList ∨ r.target.path = "/assignments/bulk".toList) ∨
    r.method = "DELETE" ∧ NamesAssignment r.target.path

theorem after?_eq_some {front cs rest : List Char} (h : after? front cs = some rest) :
    cs = front ++ rest := by
  induction front generalizing cs with
  | nil => exact Option.some.inj h
  | cons f front ih =>
    cases cs with
    | nil => exact nomatch h
    | cons c cs =>
      rw [after?] at h
      split at h
      next hSame => rw [hSame, ih h, List.cons_append]
      · exact nomatch h

/-- A route is found under its own path, or under one with a single part more than that of the
assignments. -/
theorem Route.ofPath?_eq_some {path : List Char} {route : Route} (h : ofPath? path = some route) :
    (path, route) ∈ fixedPaths ∨ ∃ part, route = .assignment part ∧
      path = assignmentPath ++ part ∧ part ≠ [] ∧ '/' ∉ part := by
  rw [ofPath?] at h
  split at h
  next found hFound =>
    obtain ⟨before, after, hPaths, -⟩ := List.lookup_eq_some_iff.mp hFound
    rw [← Option.some.inj h, hPaths]
    exact .inl (List.mem_append_right _ List.mem_cons_self)
  · split at h
    · exact nomatch h
    next part hPart =>
      split at h
      · exact nomatch h
      next hSingle =>
        rw [Bool.or_eq_true, List.isEmpty_iff, List.contains_iff_mem, not_or] at hSingle
        exact .inr ⟨part, (Option.some.inj h).symm, after?_eq_some hPart, hSingle⟩

/-- A body that is decoded is short enough, and its bytes are read as JSON. -/
theorem decodeBody_eq_ok {decode : Json.Decoder α} {r : Request} {a : α}
    (h : decodeBody decode r = .ok a) : r.body.length ≤ maxBodyLength ∧
      decode (Json.readBytes r.body).value = .ok a := by
  rw [decodeBody] at h
  split at h
  · exact nomatch h
  split at h
  · exact nomatch h
  next hShort =>
    dsimp only at h
    split at h
    · exact nomatch h
    · exact nomatch h
    next hDecode =>
      split at h
      · rw [hDecode, Except.ok.inj h]
        exact ⟨Nat.not_lt.mp hShort, rfl⟩
      · exact nomatch h

section Decoding

variable {j : Json} {request : Service.Request}

theorem isReading_of_asInvalidate (h : Wire.asInvalidateRequest j = .ok request) :
    request.IsReading := by
  obtain ⟨_, -, h⟩ := bind_eq_ok.mp h
  obtain ⟨_, -, h⟩ := bind_eq_ok.mp h
  rw [← Except.ok.inj h]
  trivial

theorem isReading_of_asAnalyze (h : Wire.asAnalyzeRequest j = .ok request) :
    request.IsReading := by
  obtain ⟨_, -, h⟩ := bind_eq_ok.mp h
  obtain ⟨_, -, h⟩ := bind_eq_ok.mp h
  obtain ⟨_, -, h⟩ := bind_eq_ok.mp h
  rw [← Except.ok.inj h]
  trivial

theorem isReading_of_asNavigate (h : Wire.asNavigateRequest j = .ok request) :
    request.IsReading := by
  rw [Wire.asNavigateRequest.eq_def] at h
  split at h
  · obtain ⟨_, -, h⟩ := bind_eq_ok.mp h
    obtain ⟨_, -, h⟩ := bind_eq_ok.mp h
    obtain ⟨_, -, h⟩ := bind_eq_ok.mp h
    rw [← Except.ok.inj h]
    trivial
  · exact nomatch h
  · exact nomatch h

end Decoding

/-- **Routes.** What is understood of a request asks for no change, unless the request was sent to
one of the routes that change assignments. -/
theorem isReading_or_mayWrite {r : Request} {request : Service.Request}
    (h : r.understand = .ok request) : request.IsReading ∨ r.MayWrite := by
  rw [Request.understand] at h
  split at h
  · exact nomatch h
  next route hRoute =>
    split at h
    next hAdmits =>
      have hPath := Route.ofPath?_eq_some hRoute
      cases route with
      | hierarchy =>
        obtain ⟨_, -, h⟩ := bind_eq_ok.mp h
        rw [← Except.ok.inj h]
        exact .inl trivial
      | representatives =>
        obtain ⟨_, -, h⟩ := bind_eq_ok.mp h
        obtain ⟨_, -, h⟩ := bind_eq_ok.mp h
        rw [← Except.ok.inj h]
        exact .inl trivial
      | cacheInvalidation => exact .inl (isReading_of_asInvalidate (decodeBody_eq_ok h).2)
      | preferenceAnalysis => exact .inl (isReading_of_asAnalyze (decodeBody_eq_ok h).2)
      | navigator => exact .inl (isReading_of_asNavigate (decodeBody_eq_ok h).2)
      | assignments =>
        have hMethod : r.method = "POST" := by simpa [Route.admits] using hAdmits
        have hHere : r.target.path = "/assignments".toList := by
          simpa [Route.fixedPaths] using hPath
        exact .inr (.inl ⟨hMethod, .inl hHere⟩)
      | bulkAssignments =>
        have hMethod : r.method = "POST" := by simpa [Route.admits] using hAdmits
        have hHere : r.target.path = "/assignments/bulk".toList := by
          simpa [Route.fixedPaths] using hPath
        exact .inr (.inl ⟨hMethod, .inr hHere⟩)
      | assignment part =>
        have hMethod : r.method = "DELETE" := by simpa [Route.admits] using hAdmits
        obtain ⟨id, hId, -⟩ := bind_eq_ok.mp h
        obtain hFixed | ⟨part, hPart, hHere, hSome, hSingle⟩ := hPath
        · simp [Route.fixedPaths] at hFixed
        · obtain rfl := Route.assignment.inj hPart
          exact .inr (.inr ⟨hMethod, part, hHere, hSome, hSingle, id, hId⟩)
    · exact nomatch h

/-! ## What a status tells -/

theorem Response.replyStatus_mem (reply : Service.Reply) :
    Response.replyStatus reply ∈ [200, 201, 207] := by
  cases reply with
  | assigned outcome =>
    rw [Response.replyStatus]
    cases outcome.isCreated <;> decide
  | _ => simp [Response.replyStatus]

/-- No failure but that of a batch in part has a status that lies among those of replies. -/
theorem Response.ne_partialFailure {e : ServiceError}
    (h : (Response.ofError e).status ∉ [200, 201, 207]) (answer : BulkAnswer) :
    e ≠ .partialFailure answer := by
  rintro rfl
  exact h (by simp [Response.ofError])

theorem Response.sentFor_status (method : String) (r : Response) :
    (r.sentFor method).status = r.status := by
  rw [Response.sentFor]
  split <;> rfl

/-! ## Requests one after another -/

/-- An engine after requests, some of which may have found the database held. -/
def respondAll (maxAutoSkip : Nat) (earlier : List (Access × Request)) (e : Engine Database) :
    Engine Database :=
  earlier.foldl (fun e x => (respond maxAutoSkip x.1 x.2 e).2) e

/-- A response comes without a look at the engine, or from the service. -/
theorem respond_cases (maxAutoSkip : Nat) (access : Access) (r : Request) (e : Engine Database) :
    (respond maxAutoSkip access r e).2 = e ∨ ∃ request, r.understand = .ok request ∧
      (respond maxAutoSkip access r e).1.status =
        (match (Service.handle maxAutoSkip none request e).1 with
          | .ok reply => Response.replyStatus reply
          | .error error => (Response.ofError error).status) ∧
      (respond maxAutoSkip access r e).2 = (Service.handle maxAutoSkip none request e).2 := by
  rw [respond]
  cases r.understand with
  | error refusal => exact .inl rfl
  | ok request =>
    cases access with
    | held => exact .inl rfl
    | free =>
      refine .inr ⟨request, rfl, ?_⟩
      dsimp only
      rw [serve, Response.sentFor_status]
      rcases Service.handle maxAutoSkip none request e with ⟨answer, e'⟩
      cases answer <;> exact ⟨rfl, rfl⟩

/-- Requests keep an engine at rest. -/
theorem respondAll_fits {k : Knowledge} {e : Engine Database} (hRest : k.AtRest) (h : k.Fits e)
    (maxAutoSkip : Nat) (earlier : List (Access × Request)) :
    ∃ k' : Knowledge, k'.AtRest ∧ k'.Fits (respondAll maxAutoSkip earlier e) := by
  induction earlier generalizing k e with
  | nil => exact ⟨k, hRest, h⟩
  | cons first rest ih =>
    obtain ⟨access, r⟩ := first
    rcases respond_cases maxAutoSkip access r e with hSame | ⟨request, -, -, hHandled⟩
    · rw [respondAll, List.foldl_cons, hSame]
      exact ih hRest h
    · obtain ⟨answer, k', hYields, hConcluded⟩ :=
        Service.leads_handle hRest maxAutoSkip none request
      rw [respondAll, List.foldl_cons, hHandled]
      exact ih hConcluded.atRest (hYields e h).2

/-- **Errors change nothing.** Over a seeded database, after any requests, a request whose response
is no success leaves the database as it was; and a request that changes the database was sent to one
of the routes that change assignments. -/
theorem error_answers_spare {d : ReferenceData} {db : Database}
    (hSeed : Database.seed d .empty = (.ok (), db)) (maxAutoSkip : Nat)
    (earlier : List (Access × Request)) (r : Request) {e : Engine Database}
    (hEarlier : respondAll maxAutoSkip earlier (Engine.start db) = e) :
    ((respond maxAutoSkip .free r e).1.status ∉ [200, 201, 207] →
        (respond maxAutoSkip .free r e).2.repository = e.repository) ∧
      ((respond maxAutoSkip .free r e).2.repository ≠ e.repository → r.MayWrite) := by
  obtain ⟨l, hHealthy⟩ := Database.exists_healthy_of_seed hSeed
  obtain ⟨k, hRest, hFits⟩ := respondAll_fits (k := ⟨db, l, fun _ => True, hHealthy⟩)
    (fun _ => trivial) (Service.fits_start _) maxAutoSkip earlier
  rw [hEarlier] at hFits
  rcases respond_cases maxAutoSkip .free r e with hSame | ⟨request, hUnderstood, hStatus, hAfter⟩
  · rw [hSame]
    exact ⟨fun _ => rfl, fun hNe => (hNe rfl).elim⟩
  rw [hStatus, hAfter]
  constructor
  · intro hError
    obtain ⟨answer, k', hYields, hConcluded⟩ :=
      Service.leads_handle hRest maxAutoSkip none request
    obtain ⟨hAnswer, hFits'⟩ := hYields e hFits
    rw [hAnswer] at hError
    cases answer with
    | ok reply => exact (hError (Response.replyStatus_mem reply)).elim
    | error error =>
      have hSame := hConcluded.spares error rfl (Response.ne_partialFailure hError)
      exact hFits'.repository.trans (hSame.trans hFits.repository.symm)
  · intro hNe
    refine (isReading_or_mayWrite hUnderstood).resolve_left fun hReading => hNe ?_
    exact Service.onlyReads_handle hReading maxAutoSkip none e

/-! ## A slot that is asked for twice -/

/-- The request to assign a representative to the section of the hamlet. -/
def assignRequest (representativeId : Nat) : Request where
  method := "POST"
  target := ⟨"/assignments".toList, []⟩
  contentType := some (Text.encodeUtf8 "application/json")
  body := Text.encodeUtf8 ("\x7b\"section_id\":1,\"representative_id\":" ++
    toString representativeId ++ ",\"role\":\"RDL\"\x7d")

/-- The hamlet once Bruno is assigned. -/
def takenHamlet : Engine Database :=
  respondAll 8 [(.free, assignRequest 2)] (Engine.start .hamlet)

/-- Anna is refused, and Bruno stays assigned. -/
theorem second_assignment_spares :
    (respond 8 .free (assignRequest 1) takenHamlet).1.status = 409 ∧
      takenHamlet.repository.assignmentRows.length = 1 ∧
      (respond 8 .free (assignRequest 1) takenHamlet).2.repository = takenHamlet.repository := by
  have hSeed : Database.seed .hamlet .empty = (.ok (), .hamlet) := by rfl
  have hStatus : (respond 8 .free (assignRequest 1) takenHamlet).1.status = 409 := by
    decide +kernel
  have hStored : takenHamlet.repository.assignmentRows.length = 1 := by decide +kernel
  obtain ⟨hSpared, -⟩ :=
    error_answers_spare hSeed 8 [(.free, assignRequest 2)] (assignRequest 1)
      (show _ = takenHamlet from rfl)
  refine ⟨hStatus, hStored, hSpared ?_⟩
  rw [hStatus]
  decide

end PollRoster.Http
