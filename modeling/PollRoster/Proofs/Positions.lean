import Mathlib.Data.List.Induction
import PollRoster.Positions
import PollRoster.Proofs.Order

/-!
# Indexes point to records

An index that was made over a list is never off it, and following it is looking for the last record
with the identifier.

Main results:

* `mem_entries_ofList` — the entries of an index are the positions of the list, each under the
  identifier of the record there.
* `getElem?_of_get?` — what a look-up by way of the index finds.
-/

namespace PollRoster.Positions

theorem get?_insert (p : Positions) (id k : Int) (position : Nat) :
    (p.insert id position).get? k = if id = k then some position else p.get? k := by
  rw [get?, insert, List.lookup_cons]
  by_cases hSame : id = k
  · rw [if_pos hSame, hSame, beq_self_eq_true]
  · rw [if_neg hSame, beq_eq_false_iff_ne.mpr fun h => hSame h.symm]
    rfl

theorem ofList_concat (id : α → Int) (xs : List α) (x : α) :
    ofList id (xs ++ [x]) = (ofList id xs).insert (id x) xs.length := by
  rw [ofList, List.zipIdx_append, List.foldl_append, Nat.zero_add]
  rfl

/-- The index holds every position, under the identifier of the record there. -/
theorem mem_entries_ofList {id : α → Int} {xs : List α} {k : Int} {i : Nat} :
    (k, i) ∈ (ofList id xs).entries ↔ ∃ x, xs[i]? = some x ∧ id x = k := by
  induction xs using List.reverseRecOn with
  | nil => simp [ofList, empty]
  | append_singleton xs x ih =>
    rw [ofList_concat, insert, List.mem_cons, ih, Prod.mk.injEq]
    rcases Nat.lt_trichotomy i xs.length with hBefore | rfl | hBeyond
    · rw [List.getElem?_append_left hBefore]
      simp [Nat.ne_of_lt hBefore]
    · simp [eq_comm]
    · have hLonger : (xs ++ [x]).length ≤ i := by
        rw [List.length_append]
        exact hBeyond
      rw [List.getElem?_eq_none (Nat.le_of_lt hBeyond), List.getElem?_eq_none hLonger]
      simp [Nat.ne_of_gt hBeyond]

/-- What is found under an identifier is an entry of it. -/
theorem mem_of_get? {p : Positions} {k : Int} {i : Nat} (h : p.get? k = some i) :
    (k, i) ∈ p.entries := by
  obtain ⟨entries⟩ := p
  induction entries with
  | nil => exact nomatch h
  | cons entry rest ih =>
    obtain ⟨id, position⟩ := entry
    have hInsert : Positions.mk ((id, position) :: rest) =
        (Positions.mk rest).insert id position := rfl
    rw [hInsert, get?_insert] at h
    split at h
    next hSame =>
      rw [hSame, Option.some.inj h]
      exact List.mem_cons_self
    next => exact List.mem_cons_of_mem _ (ih h)

/-- **No position is off the list.** -/
theorem lt_of_get? {id : α → Int} {xs : List α} {k : Int} {i : Nat}
    (h : (ofList id xs).get? k = some i) : i < xs.length := by
  obtain ⟨x, hx, -⟩ := mem_entries_ofList.mp (mem_of_get? h)
  exact (List.getElem?_eq_some_iff.mp hx).1

/-- **Following an index.** The record found is the last one with the identifier. -/
theorem getElem?_of_get? (id : α → Int) (xs : List α) (k : Int) :
    (do xs[← (ofList id xs).get? k]?) = findLast? (fun x => decide (id x = k)) xs := by
  induction xs using List.reverseRecOn with
  | nil => rfl
  | append_singleton xs x ih =>
    rw [ofList_concat, get?_insert, findLast?_concat]
    by_cases hSame : id x = k
    · simp [hSame]
    · rw [if_neg hSame, if_neg (by simpa using hSame), ← ih]
      -- the positions of the shorter list are read alike in the longer one
      cases hFound : (ofList id xs).get? k with
      | none => rfl
      | some i => exact List.getElem?_append_left (lt_of_get? hFound)

end PollRoster.Positions
