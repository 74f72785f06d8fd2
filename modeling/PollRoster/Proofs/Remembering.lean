import PollRoster.Proofs.Invalidation

/-!
# What the cache remembers

Whoever fetches the counters of a scope brings along a way to count them, and no two need count
alike. What is answered is fixed by the history of the cache alone: it is what the first fetch has
counted since the scope was dropped last, and no later fetch counts at all. A scope is dropped when
the cache is cleared or a scope related to it is invalidated. Assignments and removals drop nothing.

Counting may look at the world and change it. So the countings that were carried out can be told
from those that were not, and `fetch` is the case of a counting that leaves the world as it is.

Main results:

* `remembered_or_missing` — after any history a scope is remembered, or was not fetched since it was
  dropped.
* `get?_eq_some_iff`, `isSome_get?_iff` — what is remembered, and of which scopes.
* `memoisation` — what every call answers after any history, and what it counts.
-/

namespace PollRoster

namespace CounterCache

variable {σ : Type} {c : CounterCache} {k scope : Scope}

/-- `fetch` with a counting that may change the world. -/
def fetchBy (c : CounterCache) (scope : Scope) (count : σ → Counters × σ) (w : σ) :
    Counters × CounterCache × σ :=
  match c.get? scope with
  | some kept => (kept, c, w)
  | none =>
    let (counted, w) := count w
    (counted, ⟨(scope, counted) :: c.entries⟩, w)

theorem fetchBy_of_kept {v : Counters} (h : c.get? scope = some v) (count : σ → Counters × σ)
    (w : σ) : c.fetchBy scope count w = (v, c, w) := by
  unfold fetchBy
  rw [h]

theorem fetchBy_of_missing (h : c.get? scope = none) (count : σ → Counters × σ) (w : σ) :
    c.fetchBy scope count w =
      ((count w).1, ⟨(scope, (count w).1) :: c.entries⟩, (count w).2) := by
  unfold fetchBy
  rw [h]

/-- What is answered and kept is what `fetch` answers and keeps. -/
theorem fetch_eq_fetchBy (c : CounterCache) (scope : Scope) (count : σ → Counters × σ) (w : σ) :
    c.fetch scope (fun _ => (count w).1) =
      ((c.fetchBy scope count w).1, (c.fetchBy scope count w).2.1) := by
  unfold fetch
  cases h : c.get? scope with
  | some v => rw [fetchBy_of_kept h]
  | none => rw [fetchBy_of_missing h]

/-- The scopes that have an entry. -/
def keys (c : CounterCache) : List Scope := c.entries.map Prod.fst

theorem isSome_get?_iff_mem_keys : (c.get? k).isSome ↔ k ∈ c.keys := lookup_isSome_iff

theorem keys_invalidate (c : CounterCache) (scope : Scope) :
    (c.invalidate scope).keys = c.keys.filter fun k => !k.isRelated scope := by
  unfold keys invalidate
  rw [List.filter_map]
  rfl

/-- What is dropped and what stays are all there was. -/
theorem relatedCount_eq (c : CounterCache) (scope : Scope) :
    c.relatedCount scope = (c.keys.filter (·.isRelated scope)).length := by
  have hSize : ∀ c : CounterCache, c.size = c.keys.length := fun c => (List.length_map _).symm
  have hSplit := List.length_eq_length_filter_add (l := c.keys) (·.isRelated scope)
  unfold relatedCount
  rw [hSize, hSize, keys_invalidate, hSplit]
  exact Nat.add_sub_cancel ..

end CounterCache

/-! ## Calls -/

/-- A call of a cache, in a world of type `σ` that countings may change. -/
inductive CacheCall (σ : Type) where
  | fetch (scope : Scope) (count : σ → Counters × σ)
  | get (scope : Scope)
  | invalidate (scope : Scope)
  | clear
  | notice (event : Event)

namespace CacheCall

variable {σ : Type}

/-- What a call answers; an invalidation answers how many entries it drops. -/
abbrev Answer : CacheCall σ → Type
  | .fetch _ _ => Counters
  | .get _ => Option Counters
  | .invalidate _ => Nat
  | .clear | .notice _ => Unit

def perform : (c : CacheCall σ) → CounterCache × σ → c.Answer × CounterCache × σ
  | .fetch scope count, (cache, w) => cache.fetchBy scope count w
  | .get scope, (cache, w) => (cache.get? scope, cache, w)
  | .invalidate scope, (cache, w) => (cache.relatedCount scope, cache.invalidate scope, w)
  | .clear, (_, w) => ((), .empty, w)
  | .notice event, (cache, w) => ((), cache.notice event, w)

/-- What calls leave behind, one after another. -/
def performAll (s : CounterCache × σ) (calls : List (CacheCall σ)) : CounterCache × σ :=
  calls.foldl (fun s c => (c.perform s).2) s

/-- Whether a call drops what is kept for a scope, if anything. -/
def drops (k : Scope) : CacheCall σ → Bool
  | .invalidate scope | .notice (.invalidated scope) => k.isRelated scope
  | .clear => true
  | _ => false

variable {k : Scope} {c : CacheCall σ} {s : CounterCache × σ} {calls : List (CacheCall σ)}

theorem performAll_concat (s : CounterCache × σ) (calls : List (CacheCall σ)) (c : CacheCall σ) :
    performAll s (calls ++ [c]) = (c.perform (performAll s calls)).2 := by
  unfold performAll
  rw [List.foldl_append]
  rfl

theorem performAll_append (s : CounterCache × σ) (before after : List (CacheCall σ)) :
    performAll s (before ++ after) = performAll (performAll s before) after :=
  List.foldl_append

/-! ## One call -/

/-- A call that does not fetch a scope drops what is kept for it, or leaves it. -/
theorem get?_perform (h : ∀ count, c ≠ .fetch k count) (s : CounterCache × σ) :
    (c.perform s).2.1.get? k = if c.drops k then none else s.1.get? k := by
  cases c with
  | fetch scope count =>
    have hOther : k ≠ scope := by
      rintro rfl
      exact h count rfl
    show (s.1.fetchBy scope count s.2).2.1.get? k = s.1.get? k
    cases hScope : s.1.get? scope with
    | some u => rw [CounterCache.fetchBy_of_kept hScope]
    | none =>
      rw [CounterCache.fetchBy_of_missing hScope]
      exact lookup_cons_of_ne hOther _ _
  | get scope => rfl
  | invalidate scope => exact CounterCache.get?_invalidate s.1 scope k
  | clear => rfl
  | notice event =>
    cases event with
    | assigned a => rfl
    | removed a => rfl
    | invalidated scope => exact CounterCache.get?_invalidate s.1 scope k

theorem perform_fetch_of_kept {v : Counters} (h : s.1.get? k = some v)
    (count : σ → Counters × σ) : (fetch k count).perform s = (v, s) :=
  CounterCache.fetchBy_of_kept h count s.2

theorem perform_fetch_of_missing (h : s.1.get? k = none) (count : σ → Counters × σ) :
    (fetch k count).perform s =
      ((count s.2).1, ⟨(k, (count s.2).1) :: s.1.entries⟩, (count s.2).2) :=
  CounterCache.fetchBy_of_missing h count s.2

theorem get?_perform_fetch_of_missing (h : s.1.get? k = none) (count : σ → Counters × σ) :
    ((fetch k count).perform s).2.1.get? k = some (count s.2).1 := by
  rw [perform_fetch_of_missing h]
  exact List.lookup_cons_self

/-- What is kept for a scope stays until a call drops it. -/
theorem get?_perform_of_kept (h : c.drops k = false) {v : Counters} (hKept : s.1.get? k = some v) :
    (c.perform s).2.1.get? k = some v := by
  by_cases hFetch : ∃ count, c = .fetch k count
  · obtain ⟨count, rfl⟩ := hFetch
    rw [perform_fetch_of_kept hKept]
    exact hKept
  · rw [get?_perform (fun count hc => hFetch ⟨count, hc⟩), h, hKept]
    rfl

theorem get?_performAll_of_kept (h : ∀ c ∈ calls, c.drops k = false) {v : Counters}
    (hKept : s.1.get? k = some v) : (performAll s calls).1.get? k = some v := by
  induction calls generalizing s with
  | nil => exact hKept
  | cons c rest ih =>
    obtain ⟨hFirst, hRest⟩ := List.forall_mem_cons.mp h
    exact ih hRest (get?_perform_of_kept hFirst hKept)

/-! ## The history -/

/-- Whether the fetch of a scope between two parts of a history is the one that is remembered: the
first one since the scope was dropped last. -/
structure IsRemembered (k : Scope) (before after : List (CacheCall σ)) : Prop where
  first : ∀ earlier count between, before = earlier ++ .fetch k count :: between →
    ∃ c ∈ between, c.drops k = true
  kept : ∀ c ∈ after, c.drops k = false

/-- Whether a scope has been fetched since it was dropped last. -/
def IsFetched (k : Scope) (calls : List (CacheCall σ)) : Prop :=
  ∃ earlier count between, calls = earlier ++ .fetch k count :: between ∧
    ∀ c ∈ between, c.drops k = false

/-- A place in a history that has gone one call further. -/
theorem concat_eq_append_cons {c d : CacheCall σ} {before after : List (CacheCall σ)} :
    calls ++ [c] = before ++ d :: after ↔
      (calls = before ∧ c = d ∧ after = []) ∨
      ∃ after', after = after' ++ [c] ∧ calls = before ++ d :: after' := by
  rcases List.eq_nil_or_concat after with rfl | ⟨after', e, rfl⟩
  · simp
  · rw [List.concat_eq_append, ← List.cons_append, ← List.append_assoc]
    constructor
    · intro h
      obtain ⟨hCalls, hLast⟩ := List.append_inj' h rfl
      obtain rfl := List.singleton_inj.mp hLast
      exact .inr ⟨after', rfl, hCalls⟩
    · rintro (⟨-, -, hNil⟩ | ⟨after'', hAfter, rfl⟩)
      · cases List.append_ne_nil_of_right_ne_nil _ (List.cons_ne_nil _ _) hNil
      · obtain ⟨rfl, hLast⟩ := List.append_inj' hAfter rfl
        rw [hLast]

/-- The history of a scope that is remembered goes on, unless the scope is dropped. -/
theorem IsRemembered.concat {before after : List (CacheCall σ)} (h : IsRemembered k before after)
    (hKept : c.drops k = false) : IsRemembered k before (after ++ [c]) where
  first := h.first
  kept := List.forall_mem_append.mpr ⟨h.kept, List.forall_mem_singleton.mpr hKept⟩

/-- Whatever has not been fetched since it was dropped is not fetched by another call. -/
theorem not_isFetched_concat (h : ¬IsFetched k calls) (hOther : ∀ count, c ≠ .fetch k count) :
    ¬IsFetched k (calls ++ [c]) := by
  rintro ⟨earlier, count, between, hSplit, hKept⟩
  rcases concat_eq_append_cons.mp hSplit with ⟨-, hLast, -⟩ | ⟨between', rfl, rfl⟩
  · exact hOther count hLast
  · exact h ⟨earlier, count, between', rfl, fun d hd => hKept d (List.mem_append_left _ hd)⟩

theorem not_isFetched_of_drops (h : c.drops k = true) : ¬IsFetched k (calls ++ [c]) := by
  rintro ⟨earlier, count, between, hSplit, hKept⟩
  rcases concat_eq_append_cons.mp hSplit with ⟨-, rfl, -⟩ | ⟨between', rfl, -⟩
  · cases h
  · have hLast := hKept c (List.mem_append_right _ List.mem_cons_self)
    rw [hLast] at h
    cases h

/-- A fetch of such a scope is the first one. -/
theorem isRemembered_nil (h : ¬IsFetched k calls) : IsRemembered k calls [] where
  first := by
    intro earlier count between hSplit
    by_contra hNone
    refine h ⟨earlier, count, between, hSplit, fun c hc => ?_⟩
    rw [← Bool.not_eq_true]
    exact fun hDrops => hNone ⟨c, hc, hDrops⟩
  kept := fun _ hc => (List.not_mem_nil hc).elim

/-- **The history of a scope.** It is remembered as the fetch counted that was the first one since
it was dropped last, or there was none. -/
theorem remembered_or_missing (calls : List (CacheCall σ)) (w : σ) (k : Scope) :
    (∃ before count after, calls = before ++ .fetch k count :: after ∧ IsRemembered k before after ∧
      (performAll (.empty, w) calls).1.get? k =
        some (count (performAll (.empty, w) before).2).1) ∨
    (performAll (.empty, w) calls).1.get? k = none ∧ ¬IsFetched k calls := by
  induction calls using List.reverseRecOn with
  | nil =>
    refine .inr ⟨rfl, ?_⟩
    rintro ⟨earlier, count, between, hSplit, -⟩
    cases earlier <;> cases hSplit
  | append_singleton calls c ih =>
    rw [performAll_concat]
    -- the last call drops the scope, or leaves what there is, or is the first fetch of it
    cases hDrops : c.drops k with
    | true =>
      have hOther : ∀ count, c ≠ .fetch k count := by
        rintro count rfl
        cases hDrops
      refine .inr ⟨?_, not_isFetched_of_drops hDrops⟩
      rw [get?_perform hOther, hDrops, if_pos rfl]
    | false =>
      rcases ih with ⟨before, count, after, rfl, hRemembered, hKept⟩ | ⟨hMissing, hNot⟩
      · refine .inl ⟨before, count, after ++ [c], ?_, hRemembered.concat hDrops,
          get?_perform_of_kept hDrops hKept⟩
        rw [List.append_assoc, List.cons_append]
      · by_cases hFetch : ∃ count, c = .fetch k count
        · obtain ⟨count, rfl⟩ := hFetch
          exact .inl ⟨calls, count, [], rfl, isRemembered_nil hNot,
            get?_perform_fetch_of_missing hMissing count⟩
        · have hOther : ∀ count, c ≠ .fetch k count := fun count hc => hFetch ⟨count, hc⟩
          refine .inr ⟨?_, not_isFetched_concat hNot hOther⟩
          rw [get?_perform hOther, hDrops, hMissing]
          rfl

/-- The scopes that are remembered are those that were fetched since they were dropped. -/
theorem isSome_get?_iff (calls : List (CacheCall σ)) (w : σ) (k : Scope) :
    ((performAll (.empty, w) calls).1.get? k).isSome ↔ IsFetched k calls := by
  rcases remembered_or_missing calls w k with
    ⟨before, count, after, hSplit, hRemembered, hKept⟩ | ⟨hMissing, hNot⟩
  · rw [hKept]
    exact iff_of_true rfl ⟨before, count, after, hSplit, hRemembered.kept⟩
  · rw [hMissing]
    exact iff_of_false (by decide) hNot

/-- **What is remembered.** -/
theorem get?_eq_some_iff (calls : List (CacheCall σ)) (w : σ) (k : Scope) (v : Counters) :
    (performAll (.empty, w) calls).1.get? k = some v ↔
      ∃ before count after, calls = before ++ .fetch k count :: after ∧
        IsRemembered k before after ∧ (count (performAll (.empty, w) before).2).1 = v := by
  constructor
  · intro hFound
    rcases remembered_or_missing calls w k with
      ⟨before, count, after, hSplit, hRemembered, hKept⟩ | ⟨hMissing, -⟩
    · exact ⟨before, count, after, hSplit, hRemembered, Option.some.inj (hKept.symm.trans hFound)⟩
    · rw [hMissing] at hFound
      cases hFound
  · rintro ⟨before, count, after, rfl, hRemembered, rfl⟩
    -- at the remembered fetch there was no entry, so this is where it was counted
    have hMissing : (performAll (.empty, w) before).1.get? k = none := by
      rcases remembered_or_missing before w k with
        ⟨earlier, count', between, hSplit, hEarlier, -⟩ | ⟨hMissing, -⟩
      -- an earlier fetch would have been followed by a call that dropped it
      · obtain ⟨c, hc, hDrops⟩ := hRemembered.first earlier count' between hSplit
        rw [hEarlier.kept c hc] at hDrops
        cases hDrops
      · exact hMissing
    rw [performAll_append]
    exact get?_performAll_of_kept hRemembered.kept (get?_perform_fetch_of_missing hMissing count)

/-! ## What every call answers -/

/-- Every scope has one entry at most. -/
theorem nodup_keys (calls : List (CacheCall σ)) (w : σ) :
    (performAll (.empty, w) calls).1.keys.Nodup := by
  induction calls using List.reverseRecOn with
  | nil => exact List.nodup_nil
  | append_singleton calls c ih =>
    rw [performAll_concat]
    set s := performAll (.empty, w) calls
    have hFilter : ∀ scope, (s.1.invalidate scope).keys.Nodup := by
      intro scope
      rw [CounterCache.keys_invalidate]
      exact ih.filter _
    cases c with
    -- a fetch makes an entry only where there is none
    | fetch scope count =>
      cases hScope : s.1.get? scope with
      | some v =>
        rw [perform_fetch_of_kept hScope]
        exact ih
      | none =>
        rw [perform_fetch_of_missing hScope]
        refine List.nodup_cons.mpr ⟨fun hMem => ?_, ih⟩
        have hSome := CounterCache.isSome_get?_iff_mem_keys.mpr hMem
        rw [hScope] at hSome
        cases hSome
    | get scope => exact ih
    | invalidate scope => exact hFilter scope
    | clear => exact List.nodup_nil
    | notice event =>
      cases event with
      | assigned a => exact ih
      | removed a => exact ih
      | invalidated scope => exact hFilter scope

/-- What is fetched is what the fetch counted that is remembered afterwards, which may be this very
one; only then anything is counted. -/
theorem fetch_answers (calls : List (CacheCall σ)) (w : σ) (k : Scope) (count : σ → Counters × σ) :
    let s := performAll (.empty, w) calls
    let t := (CacheCall.fetch k count).perform s
    ∃ before first after, calls ++ [.fetch k count] = before ++ .fetch k first :: after ∧
      IsRemembered k before after ∧ t.1 = (first (performAll (.empty, w) before).2).1 ∧
      (after = [] → t.2.2 = (count s.2).2) ∧ (after ≠ [] → t.2 = s) := by
  intro s t
  rcases remembered_or_missing calls w k with
    ⟨before, first, after, hSplit, hRemembered, hKept⟩ | ⟨hMissing, hNot⟩
  · have hAnswer : t = _ := perform_fetch_of_kept hKept count
    rw [hAnswer]
    refine ⟨before, first, after ++ [fetch k count], ?_, hRemembered.concat rfl, rfl,
      fun hNil => ?_, fun _ => rfl⟩
    · rw [hSplit, List.append_assoc, List.cons_append]
    · cases List.append_ne_nil_of_right_ne_nil _ (List.cons_ne_nil _ _) hNil
  · have hAnswer : t = _ := perform_fetch_of_missing hMissing count
    rw [hAnswer]
    exact ⟨calls, count, [], rfl, isRemembered_nil hNot, rfl, fun _ => rfl, fun h => (h rfl).elim⟩

/-- What an invalidation answers is how many scopes it drops. -/
theorem invalidate_answers (calls : List (CacheCall σ)) (w : σ) (scope : Scope) :
    let s := performAll (.empty, w) calls
    let t := (CacheCall.invalidate scope).perform s
    ∃ dropped : List Scope, dropped.Nodup ∧ t.1 = dropped.length ∧
      ∀ k, k ∈ dropped ↔ (s.1.get? k).isSome ∧ t.2.1.get? k = none := by
  intro s t
  refine ⟨s.1.keys.filter (·.isRelated scope), (nodup_keys calls w).filter _,
    s.1.relatedCount_eq scope, fun k => ?_⟩
  have hAfter : t.2.1.get? k = if k.isRelated scope then none else s.1.get? k :=
    s.1.get?_invalidate scope k
  rw [List.mem_filter, ← CounterCache.isSome_get?_iff_mem_keys, hAfter]
  refine and_congr_right ?_
  intro hSome
  obtain ⟨v, hv⟩ := Option.isSome_iff_exists.mp hSome
  rw [hv]
  cases k.isRelated scope <;> simp

/-- **Memoisation.** After any history of a cache that was empty at first, and in whatever world:

* what is fetched, with a counting that may change the world or without, is what the first fetch of
  the scope has counted since the scope was dropped, and nothing is counted unless this is the one;
* what is got is the same, without counting, and nothing if there was no such fetch;
* an assignment or a removal that is noticed changes nothing;
* an invalidation answers how many scopes it drops;
* there are as many entries as scopes that were fetched since they were dropped;
* no call that does not drop a scope changes what is fetched for it. -/
theorem memoisation (calls : List (CacheCall σ)) (w : σ) :
    let s := performAll (.empty, w) calls
    (∀ (k : Scope) (count : σ → Counters × σ), let t := (CacheCall.fetch k count).perform s
      s.1.fetch k (fun _ => (count s.2).1) = (t.1, t.2.1) ∧
      ∃ before first after, calls ++ [.fetch k count] = before ++ .fetch k first :: after ∧
        IsRemembered k before after ∧ t.1 = (first (performAll (.empty, w) before).2).1 ∧
        (after = [] → t.2.2 = (count s.2).2) ∧ (after ≠ [] → t.2 = s)) ∧
    (∀ k, ((CacheCall.get k).perform s).2 = s ∧ ∀ v, ((CacheCall.get k).perform s).1 = some v ↔
      ∃ before first after, calls = before ++ .fetch k first :: after ∧
        IsRemembered k before after ∧ (first (performAll (.empty, w) before).2).1 = v) ∧
    (∀ a, ((CacheCall.notice (.assigned a)).perform s).2 = s ∧
      ((CacheCall.notice (.removed a)).perform s).2 = s) ∧
    (∀ scope, let t := (CacheCall.invalidate scope).perform s
      ∃ dropped : List Scope, dropped.Nodup ∧ t.1 = dropped.length ∧
        ∀ k, k ∈ dropped ↔ (s.1.get? k).isSome ∧ t.2.1.get? k = none) ∧
    (∃ kept : List Scope, kept.Nodup ∧ s.1.size = kept.length ∧ ∀ k, k ∈ kept ↔ IsFetched k calls) ∧
    ∀ (k : Scope) (v : Counters), s.1.get? k = some v → ∀ others : List (CacheCall σ),
      (∀ c ∈ others, c.drops k = false) → ∀ count,
        (CacheCall.fetch k count).perform (performAll s others) = (v, performAll s others) := by
  intro s
  refine ⟨?_, fun k => ⟨rfl, get?_eq_some_iff calls w k⟩, fun a => ⟨rfl, rfl⟩,
    invalidate_answers calls w, ?_, ?_⟩
  · intro k count
    exact ⟨s.1.fetch_eq_fetchBy k count s.2, fetch_answers calls w k count⟩
  · refine ⟨s.1.keys, nodup_keys calls w, (List.length_map _).symm, fun k => ?_⟩
    rw [← CounterCache.isSome_get?_iff_mem_keys]
    exact isSome_get?_iff calls w k
  -- a scope that no call drops is kept, so fetching it again does not count
  · intro k v hKept others hOthers count
    exact perform_fetch_of_kept (get?_performAll_of_kept hOthers hKept) count

/-- A counting that tells how many there have been. -/
def tally (n : Nat) : Counters × Nat := (⟨n + 1, 0, n + 1, 0⟩, n + 1)

/-- Counters are fetched for a region and then for a municipality that is not told to lie in any
region. When the region is invalidated and counted again the municipality keeps its counters. -/
theorem memoisation_municipality :
    let s := performAll (.empty, 0) [fetch (.ofRegion 1) tally, fetch (.ofMunicipality 7) tally]
    let others : List (CacheCall Nat) := [notice (.assigned ⟨1, 2, 2, .primary⟩),
      invalidate (.ofRegion 1), fetch (.ofRegion 1) tally]
    s.1.get? (.ofMunicipality 7) = some ⟨2, 0, 2, 0⟩ ∧
    (∀ c ∈ others, c.drops (.ofMunicipality 7) = false) ∧
    (fetch (.ofMunicipality 7) tally).perform (performAll s others) =
      (⟨2, 0, 2, 0⟩, performAll s others) ∧
    (performAll s others).1.get? (.ofRegion 1) = some ⟨3, 0, 3, 0⟩ := by
  intro s others
  have hKept : s.1.get? (.ofMunicipality 7) = some ⟨2, 0, 2, 0⟩ := by rfl
  have hOthers : ∀ c ∈ others, c.drops (.ofMunicipality 7) = false := by
    simp only [others, List.forall_mem_cons]
    exact ⟨rfl, rfl, rfl, fun _ hc => (List.not_mem_nil hc).elim⟩
  obtain ⟨-, -, -, -, -, hQuiet⟩ :=
    memoisation [fetch (.ofRegion 1) tally, fetch (.ofMunicipality 7) tally] 0
  exact ⟨hKept, hOthers, hQuiet _ _ hKept others hOthers tally, rfl⟩

end CacheCall

end PollRoster
