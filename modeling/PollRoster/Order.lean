/-!
# Sorting

A stable sort by insertion and ascending lists of distinct numbers. Both recurse on the list alone,
so a sorted list can be evaluated and reasoned about without a measure.
-/

namespace PollRoster

/-- Puts `x` in front of the first element that does not come before it. -/
def insertBy (cmp : α → α → Ordering) (x : α) : List α → List α
  | [] => [x]
  | y :: ys => if (cmp x y).isLE then x :: y :: ys else y :: insertBy cmp x ys

/-- Sorts by `cmp`; elements that compare equal keep their order. -/
def sortBy (cmp : α → α → Ordering) (xs : List α) : List α :=
  xs.foldr (insertBy cmp) []

/-- Adds `x` to an ascending list of distinct integers. -/
def insertAscending (x : Int) : List Int → List Int
  | [] => [x]
  | y :: ys => if x < y then x :: y :: ys else if x = y then y :: ys else y :: insertAscending x ys

/-- The distinct members of a list, ascending. -/
def ascending (xs : List Int) : List Int :=
  xs.foldl (fun set x => insertAscending x set) []

/-- Adds the numbers from `low` to `high` to an ascending list. -/
def insertRange (low high : Nat) (xs : List Nat) : List Nat :=
  xs.takeWhile (· < low) ++ List.range' low (high + 1 - low) ++ xs.dropWhile (· ≤ high)

/-- The last element that satisfies `p`. -/
def findLast? (p : α → Bool) : List α → Option α
  | [] => none
  | x :: xs => match findLast? p xs with
    | some y => some y
    | none => if p x then some x else none

/-- Keeps the first of each group of equal elements. -/
def distinct [DecidableEq α] : List α → List α
  | [] => []
  | x :: xs => x :: (distinct xs).filter (· ≠ x)

end PollRoster
