import Mathlib.Data.List.Nodup
import PollRoster.Order

/-!
# Sorting and looking up

Sorting rearranges a list and neither loses nor doubles an element. A list whose members have
distinct keys is looked up and sorted alike in whatever order it is given.

Main results:

* `filter_sortBy` — elements that compare equal keep their order.
* `isStableSort_sortBy` — what sorting comes to, without a word on how it is done.
* `sortBy_eq_of_perm` — sorting forgets the order of a list, unless two members compare equal.
* `find?_key_eq_some_iff`, `findLast?_key_eq_some_iff` — what is found under a key is the member
  that has it.
-/

namespace PollRoster

/-! ## Sorting -/

theorem insertBy_perm (cmp : α → α → Ordering) (x : α) (xs : List α) :
    (insertBy cmp x xs).Perm (x :: xs) := by
  induction xs with
  | nil => exact .refl _
  | cons y ys ih =>
    rw [insertBy]
    split
    · exact .refl _
    · exact (ih.cons y).trans (.swap x y ys)

theorem sortBy_perm (cmp : α → α → Ordering) (xs : List α) : (sortBy cmp xs).Perm xs := by
  induction xs with
  | nil => exact .refl _
  | cons x xs ih => exact (insertBy_perm cmp x _).trans (ih.cons x)

@[simp] theorem mem_sortBy {cmp : α → α → Ordering} {x : α} {xs : List α} :
    x ∈ sortBy cmp xs ↔ x ∈ xs := (sortBy_perm cmp xs).mem_iff

section Stable

variable {cmp : α → α → Ordering} {p : α → Bool} (hTies : ∀ x y, p x → p y → cmp x y = .eq)
include hTies

/-- An element passes only those that it does not tie with. -/
theorem filter_insertBy (x : α) (xs : List α) :
    (insertBy cmp x xs).filter p = (x :: xs).filter p := by
  induction xs with
  | nil => rfl
  | cons y ys ih =>
    rw [insertBy]
    split
    · rfl
    next hAfter =>
      have hNoTie : ¬(p x ∧ p y) := by
        rintro ⟨hx, hy⟩
        rw [hTies x y hx hy] at hAfter
        exact hAfter rfl
      rw [List.filter_cons, ih]
      cases hx : p x <;> cases hy : p y <;> simp_all

/-- **Sorting is stable.** Elements that tie keep their order. -/
theorem filter_sortBy (xs : List α) : (sortBy cmp xs).filter p = xs.filter p := by
  induction xs with
  | nil => rfl
  | cons x xs ih =>
    have hFirst : sortBy cmp (x :: xs) = insertBy cmp x (sortBy cmp xs) := rfl
    rw [hFirst, filter_insertBy hTies, List.filter_cons, List.filter_cons, ih]

end Stable

section Sorted

variable {cmp : α → α → Ordering} [Std.TransCmp cmp]

/-- Putting an element into a sorted list keeps it sorted. -/
theorem insertBy_pairwise {x : α} {xs : List α} (h : xs.Pairwise fun y z => (cmp y z).isLE) :
    (insertBy cmp x xs).Pairwise fun y z => (cmp y z).isLE := by
  induction xs with
  | nil => exact List.pairwise_singleton _ _
  | cons y ys ih =>
    obtain ⟨hFirst, hRest⟩ := List.pairwise_cons.mp h
    rw [insertBy]
    split
    next hBefore =>
      refine List.pairwise_cons.mpr ⟨fun z hz => ?_, h⟩
      rcases List.mem_cons.mp hz with rfl | hz
      · exact hBefore
      · exact Std.TransCmp.isLE_trans hBefore (hFirst z hz)
    next hAfter =>
      refine List.pairwise_cons.mpr ⟨fun z hz => ?_, ih hRest⟩
      rcases List.mem_cons.mp ((insertBy_perm cmp x ys).mem_iff.mp hz) with hEq | hz
      · have hGt : cmp x y = .gt := Ordering.isLE_eq_false.mp (Bool.eq_false_iff.mpr hAfter)
        subst hEq
        rw [Std.OrientedCmp.lt_of_gt hGt]
        rfl
      · exact hFirst z hz

theorem sortBy_pairwise (xs : List α) : (sortBy cmp xs).Pairwise fun y z => (cmp y z).isLE := by
  induction xs with
  | nil => exact .nil
  | cons x xs ih => exact insertBy_pairwise ih

/-- **Sorting forgets the order.** Lists of the same members are sorted alike, if only equal members
compare equal. -/
theorem sortBy_eq_of_perm {xs ys : List α} (hPerm : xs.Perm ys)
    (hDistinct : ∀ x ∈ xs, ∀ y ∈ xs, cmp x y = .eq → x = y) : sortBy cmp xs = sortBy cmp ys := by
  have hSorted : (sortBy cmp xs).Perm (sortBy cmp ys) :=
    (sortBy_perm cmp xs).trans (hPerm.trans (sortBy_perm cmp ys).symm)
  refine List.Perm.eq_of_pairwise (fun x y hx hy hxy hyx => ?_) (sortBy_pairwise xs)
    (sortBy_pairwise ys) hSorted
  exact hDistinct x (mem_sortBy.mp hx) y (hPerm.mem_iff.mpr (mem_sortBy.mp hy))
    (Std.OrientedCmp.isLE_antisymm hxy hyx)

omit [Std.TransCmp cmp] in
/-- A list that is sorted stays as it is. -/
theorem sortBy_of_pairwise {xs : List α} (h : xs.Pairwise fun x y => (cmp x y).isLE) :
    sortBy cmp xs = xs := by
  induction xs with
  | nil => rfl
  | cons x xs ih =>
    obtain ⟨hFirst, hRest⟩ := List.pairwise_cons.mp h
    have hStep : sortBy cmp (x :: xs) = insertBy cmp x (sortBy cmp xs) := rfl
    rw [hStep, ih hRest]
    cases xs with
    | nil => rfl
    | cons y ys => rw [insertBy, if_pos (hFirst y List.mem_cons_self)]

/-- Whether a list has the elements of another one in the order of `cmp`, and in the order of the
other list where they tie. -/
structure IsStableSort (cmp : α → α → Ordering) (given sorted : List α) : Prop where
  perm : sorted.Perm given
  pairwise : sorted.Pairwise fun x y => (cmp x y).isLE
  ties : ∀ x, sorted.filter (fun y => cmp x y == .eq) = given.filter (fun y => cmp x y == .eq)

theorem isStableSort_sortBy (xs : List α) : IsStableSort cmp xs (sortBy cmp xs) where
  perm := sortBy_perm cmp xs
  pairwise := sortBy_pairwise xs
  ties x := by
    refine filter_sortBy (fun y z hy hz => ?_) xs
    -- what ties with `x` ties with each other
    exact Std.TransCmp.eq_trans (Std.OrientedCmp.eq_symm (beq_iff_eq.mp hy)) (beq_iff_eq.mp hz)

end Sorted

theorem compare_string_eq_lt {a b : String} : compare a b = .lt ↔ a < b :=
  compareOfLessAndEq_eq_lt

theorem isLE_compare_string {a b : String} : (compare a b).isLE ↔ a ≤ b := by
  rw [Ordering.isLE_iff_ne_gt, Std.OrientedCmp.gt_iff_lt, compare_string_eq_lt]
  rfl

/-! ## Keeping the first of each group -/

theorem mem_distinct [DecidableEq α] {x : α} {xs : List α} : x ∈ distinct xs ↔ x ∈ xs := by
  induction xs with
  | nil => exact Iff.rfl
  | cons y ys ih =>
    rw [distinct, List.mem_cons, List.mem_filter, ih, List.mem_cons]
    by_cases hxy : x = y
    · simp [hxy]
    · simp [hxy]

theorem nodup_distinct [DecidableEq α] (xs : List α) : (distinct xs).Nodup := by
  induction xs with
  | nil => exact .nil
  | cons x xs ih =>
    rw [distinct, List.nodup_cons, List.mem_filter]
    exact ⟨fun h => of_decide_eq_true h.2 rfl, ih.filter _⟩

theorem filter_distinct [DecidableEq α] (p : α → Bool) (xs : List α) :
    (distinct xs).filter p = distinct (xs.filter p) := by
  induction xs with
  | nil => rfl
  | cons x xs ih =>
    -- what `x` strikes out and what `p` strikes out come to the same in either order
    have hSwap : ((distinct xs).filter (· ≠ x)).filter p =
        (distinct (xs.filter p)).filter (· ≠ x) := by
      rw [← ih, List.filter_comm]
    cases hp : p x with
    | true => rw [distinct, List.filter_cons_of_pos hp, List.filter_cons_of_pos hp, hSwap, distinct]
    | false =>
      have hAbsent : ∀ y ∈ distinct (xs.filter p), decide (y ≠ x) = true := by
        intro y hy
        obtain ⟨-, hpy⟩ := List.mem_filter.mp (mem_distinct.mp hy)
        refine decide_eq_true ?_
        rintro rfl
        rw [hp] at hpy
        exact nomatch hpy
      rw [distinct, List.filter_cons_of_neg (by rw [hp]; exact Bool.false_ne_true),
        List.filter_cons_of_neg (by rw [hp]; exact Bool.false_ne_true), hSwap,
        List.filter_eq_self.mpr hAbsent]

theorem distinct_filter_eq_eraseDups [DecidableEq α] (xs : List α) (p : α → Bool) :
    distinct (xs.filter p) = (xs.filter p).eraseDups := by
  -- the library strikes out before it goes on, so the recursion meets ever narrower filters
  induction xs generalizing p with
  | nil => rfl
  | cons x xs ih =>
    cases hp : p x with
    | true =>
      have hBoth : (xs.filter p).filter (fun y => !y == x) =
          xs.filter fun y => (!y == x) && p y := List.filter_filter ..
      have hSame : (fun y : α => decide (y ≠ x)) = fun y => !y == x :=
        funext fun _ => decide_not
      rw [List.filter_cons_of_pos hp, distinct, filter_distinct, List.eraseDups_cons, hSame, hBoth,
        ih]
    | false => rw [List.filter_cons_of_neg (by rw [hp]; exact Bool.false_ne_true), ih]

/-- Keeping the first of each group is what the library does as well. -/
theorem distinct_eq_eraseDups [DecidableEq α] (xs : List α) : distinct xs = xs.eraseDups := by
  have h := distinct_filter_eq_eraseDups xs fun _ => true
  rwa [List.filter_true] at h

theorem distinct_of_nodup [DecidableEq α] {xs : List α} (h : xs.Nodup) : distinct xs = xs := by
  induction xs with
  | nil => rfl
  | cons x xs ih =>
    obtain ⟨hNew, hRest⟩ := List.nodup_cons.mp h
    rw [distinct, ih hRest, List.filter_eq_self.mpr]
    exact fun y hy => decide_eq_true fun hSame => hNew (hSame ▸ hy)

/-! ## Ascending lists -/

theorem mem_insertAscending {x y : Int} {xs : List Int} :
    y ∈ insertAscending x xs ↔ y = x ∨ y ∈ xs := by
  induction xs with
  | nil => simp [insertAscending]
  | cons z zs ih =>
    rw [insertAscending]
    split
    · simp
    split
    next hSame => simp [hSame]
    · simp only [List.mem_cons, ih]
      exact or_left_comm

/-- A list that is ascending stays so, with `x` in its place if it is new. -/
theorem insertAscending_pairwise {x : Int} {xs : List Int} (h : xs.Pairwise (· < ·)) :
    (insertAscending x xs).Pairwise (· < ·) := by
  induction xs with
  | nil => exact List.pairwise_singleton _ _
  | cons y ys ih =>
    obtain ⟨hFirst, hRest⟩ := List.pairwise_cons.mp h
    rw [insertAscending]
    split
    next hBefore =>
      refine List.pairwise_cons.mpr ⟨fun z hz => ?_, h⟩
      rcases List.mem_cons.mp hz with rfl | hz
      · exact hBefore
      · exact Int.lt_trans hBefore (hFirst z hz)
    next hNotBefore =>
      split
      · exact h
      next hOther =>
        refine List.pairwise_cons.mpr ⟨fun z hz => ?_, ih hRest⟩
        rcases mem_insertAscending.mp hz with rfl | hz
        · omega
        · exact hFirst z hz

/-- In a list where a property does not come back once it is lost, to stop at the first member
without it is to look at all. -/
theorem takeWhile_dropWhile_eq_filter {r : α → α → Prop} {p : α → Bool}
    (hLost : ∀ x y, r x y → p x = false → p y = false) {xs : List α} (h : xs.Pairwise r) :
    xs.takeWhile p = xs.filter p ∧ xs.dropWhile p = xs.filter fun x => !p x := by
  induction xs with
  | nil => exact ⟨rfl, rfl⟩
  | cons x xs ih =>
    obtain ⟨hFirst, hRest⟩ := List.pairwise_cons.mp h
    obtain ⟨hTake, hDrop⟩ := ih hRest
    cases hx : p x with
    | true => simp [hx, hTake, hDrop]
    | false =>
      have hNone : ∀ y ∈ xs, p y = false := fun y hy => hLost x y (hFirst y hy) hx
      have hKept : xs.filter p = [] := List.filter_eq_nil_iff.mpr fun y hy => by simp [hNone y hy]
      have hLeft : (xs.filter fun y => !p y) = xs :=
        List.filter_eq_self.mpr fun y hy => by simp [hNone y hy]
      simp only [List.takeWhile_cons, List.dropWhile_cons, List.filter_cons, hx, hKept, hLeft]
      exact ⟨rfl, rfl⟩

theorem insertRange_of_ascending (low high : Nat) {xs : List Nat} (h : xs.Pairwise (· < ·)) :
    insertRange low high xs =
      xs.filter (· < low) ++ List.range' low (high + 1 - low) ++ xs.filter (high < ·) := by
  have hBelow := takeWhile_dropWhile_eq_filter (p := (· < low)) (by simp; omega) h
  have hAbove := takeWhile_dropWhile_eq_filter (p := (· ≤ high)) (by simp; omega) h
  have hRest : (fun x => !decide (x ≤ high)) = fun x => decide (high < x) :=
    funext fun x => by rw [← decide_not, decide_eq_decide, Nat.not_le]
  rw [insertRange, hBelow.1, hAbove.2, hRest]

theorem mem_insertRange {low high n : Nat} {xs : List Nat} (h : xs.Pairwise (· < ·)) :
    n ∈ insertRange low high xs ↔ (low ≤ n ∧ n ≤ high) ∨ n ∈ xs := by
  rw [insertRange_of_ascending low high h]
  simp only [List.mem_append, List.mem_filter, List.mem_range'_1, decide_eq_true_eq]
  by_cases hn : n ∈ xs
  · simp only [hn, true_and, or_true, iff_true]
    omega
  · simp only [hn, false_and, false_or, or_false]
    omega

/-- A list that is ascending stays so, with the range in its place. -/
theorem insertRange_pairwise {low high : Nat} (hOrder : low ≤ high) {xs : List Nat}
    (h : xs.Pairwise (· < ·)) : (insertRange low high xs).Pairwise (· < ·) := by
  rw [insertRange_of_ascending low high h]
  simp only [List.pairwise_append, List.mem_append, List.mem_filter, List.mem_range'_1,
    decide_eq_true_eq]
  refine ⟨⟨h.filter _, List.pairwise_lt_range', ?_⟩, h.filter _, ?_⟩ <;> omega

/-! ## The last element with a property -/

theorem findLast?_concat (p : α → Bool) (xs : List α) (x : α) :
    findLast? p (xs ++ [x]) = if p x then some x else findLast? p xs := by
  induction xs with
  | nil => rfl
  | cons y ys ih =>
    rw [List.cons_append, findLast?, ih, findLast?]
    cases p x <;> rfl

theorem findLast?_eq_some {p : α → Bool} {xs : List α} {x : α} (h : findLast? p xs = some x) :
    x ∈ xs ∧ p x := by
  induction xs with
  | nil => exact nomatch h
  | cons y ys ih =>
    rw [findLast?] at h
    cases hRest : findLast? p ys with
    | some z =>
      rw [hRest] at h
      obtain ⟨hMem, hp⟩ := ih (hRest.trans h)
      exact ⟨List.mem_cons_of_mem _ hMem, hp⟩
    | none =>
      rw [hRest] at h
      cases hp : p y with
      | false => simp [hp] at h
      | true =>
        rw [hp] at h
        rw [← Option.some.inj h]
        exact ⟨List.mem_cons_self, hp⟩

theorem findLast?_isSome {p : α → Bool} {xs : List α} :
    (findLast? p xs).isSome ↔ ∃ x ∈ xs, p x := by
  constructor
  · intro h
    obtain ⟨x, hx⟩ := Option.isSome_iff_exists.mp h
    exact ⟨x, findLast?_eq_some hx⟩
  · rintro ⟨x, hMem, hp⟩
    induction xs with
    | nil => exact nomatch hMem
    | cons y ys ih =>
      rw [findLast?]
      cases hRest : findLast? p ys with
      | some z => rfl
      | none =>
        rcases List.mem_cons.mp hMem with rfl | hMem
        · rw [if_pos hp]
          rfl
        · rw [hRest] at ih
          exact nomatch ih hMem

/-- Whether `found` is the last element with a property, or nothing since no element has it. -/
def IsLast (p : α → Prop) (xs : List α) : Option α → Prop
  | none => ∀ x ∈ xs, ¬p x
  | some x => p x ∧ ∃ before after, xs = before ++ x :: after ∧ ∀ y ∈ after, ¬p y

/-- Whether `found` is the first element with a property, or nothing since no element has it. -/
def IsFirst (p : α → Prop) (xs : List α) : Option α → Prop
  | none => ∀ x ∈ xs, ¬p x
  | some x => p x ∧ ∃ before after, xs = before ++ x :: after ∧ ∀ y ∈ before, ¬p y

theorem findLast?_isLast (p : α → Prop) [DecidablePred p] (xs : List α) :
    IsLast p xs (findLast? (fun x => decide (p x)) xs) := by
  induction xs with
  | nil => exact fun _ h => nomatch h
  | cons x xs ih =>
    rw [findLast?]
    cases hRest : findLast? (fun x => decide (p x)) xs with
    | some y =>
      rw [hRest] at ih
      obtain ⟨hy, before, after, hSplit, hAfter⟩ := ih
      exact ⟨hy, x :: before, after, by rw [hSplit, List.cons_append], hAfter⟩
    | none =>
      -- no later element has the property, so the first one decides
      rw [hRest] at ih
      by_cases hx : p x
      · simp only [hx, decide_true, if_true]
        exact ⟨hx, [], xs, rfl, ih⟩
      · simp only [hx, decide_false, Bool.false_eq_true, if_false]
        exact List.forall_mem_cons.mpr ⟨hx, ih⟩

theorem find?_isFirst (p : α → Prop) [DecidablePred p] (xs : List α) :
    IsFirst p xs (xs.find? fun x => decide (p x)) := by
  cases hFound : xs.find? fun x => decide (p x) with
  | none => exact fun x hx => by simpa using List.find?_eq_none.mp hFound x hx
  | some x =>
    obtain ⟨hx, before, after, hSplit, hBefore⟩ := List.find?_eq_some_iff_append.mp hFound
    exact ⟨of_decide_eq_true hx, before, after, hSplit, fun y hy => by simpa using hBefore y hy⟩

/-! ## Distinct keys -/

section Keys

variable {κ : Type} [DecidableEq κ] {key : α → κ} {xs : List α}

omit [DecidableEq κ] in
/-- A search that finds nothing but elements with the key, and one whenever there is any, finds the
only element that has it. -/
theorem eq_some_iff_of_key (hNodup : (xs.map key).Nodup) {k : κ} {found : Option α}
    (hSound : ∀ y, found = some y → y ∈ xs ∧ key y = k)
    (hComplete : ∀ y ∈ xs, key y = k → found.isSome) {x : α} :
    found = some x ↔ x ∈ xs ∧ key x = k := by
  refine ⟨hSound x, ?_⟩
  rintro ⟨hMem, hKey⟩
  obtain ⟨y, hy⟩ := Option.isSome_iff_exists.mp (hComplete x hMem hKey)
  obtain ⟨hIn, hSame⟩ := hSound y hy
  rw [hy, List.inj_on_of_nodup_map hNodup hIn hMem (hSame.trans hKey.symm)]

theorem find?_key_eq_some_iff (hNodup : (xs.map key).Nodup) {k : κ} {x : α} :
    xs.find? (fun y => decide (key y = k)) = some x ↔ x ∈ xs ∧ key x = k := by
  refine eq_some_iff_of_key hNodup (fun y h => ?_) fun y hMem hKey => ?_
  · exact ⟨List.mem_of_find?_eq_some h, by simpa using List.find?_some h⟩
  · exact List.find?_isSome.mpr ⟨y, hMem, decide_eq_true hKey⟩

theorem findLast?_key_eq_some_iff (hNodup : (xs.map key).Nodup) {k : κ} {x : α} :
    findLast? (fun y => decide (key y = k)) xs = some x ↔ x ∈ xs ∧ key x = k := by
  refine eq_some_iff_of_key hNodup (fun y h => ?_) fun y hMem hKey => ?_
  · obtain ⟨hMem, hKey⟩ := findLast?_eq_some h
    exact ⟨hMem, of_decide_eq_true hKey⟩
  · exact findLast?_isSome.mpr ⟨y, hMem, decide_eq_true hKey⟩

variable {ys : List α}

/-- What is found under a key does not depend on the order. -/
theorem find?_key_eq_of_perm (hNodup : (xs.map key).Nodup) (hPerm : xs.Perm ys) (k : κ) :
    xs.find? (fun y => decide (key y = k)) = ys.find? fun y => decide (key y = k) := by
  have hNodup' : (ys.map key).Nodup := (hPerm.map key).nodup_iff.mp hNodup
  refine Option.ext fun x => ?_
  rw [find?_key_eq_some_iff hNodup, find?_key_eq_some_iff hNodup', hPerm.mem_iff]

theorem findLast?_key_eq_of_perm (hNodup : (xs.map key).Nodup) (hPerm : xs.Perm ys) (k : κ) :
    findLast? (fun y => decide (key y = k)) xs = findLast? (fun y => decide (key y = k)) ys := by
  have hNodup' : (ys.map key).Nodup := (hPerm.map key).nodup_iff.mp hNodup
  refine Option.ext fun x => ?_
  rw [findLast?_key_eq_some_iff hNodup, findLast?_key_eq_some_iff hNodup', hPerm.mem_iff]

end Keys

end PollRoster
