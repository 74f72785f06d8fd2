import PollRoster.Proofs.Mentions
import PollRoster.Proofs.Order

/-!
# Reading preferences

What a text asks for is settled mention by mention. Every mention names a range, a number by itself
being the range from itself to itself, or nothing at all; of the ranges the narrow ones are expanded
and the wide ones kept apart. Which mentions a text has is settled between one separator and the
next: a character that is no digit, no white space and no hyphen ends whatever is being read.

Main results:

* `Preference.mem_numbers_read`, `Preference.oversized_read` — what is read, told by the ranges that
  are mentioned.
* `Preference.read_piecewise` — a separator keeps what stands before it and what stands behind it
  apart.
-/

namespace PollRoster

/-- Whether a range is kept apart. -/
def NumberRange.IsWide (r : NumberRange) : Prop := Preference.maxRangeSpan < r.high - r.low

instance (r : NumberRange) : Decidable r.IsWide := inferInstanceAs (Decidable (_ < _))

/-- Whether a number lies in a range. -/
def NumberRange.Covers (r : NumberRange) (n : Nat) : Prop := r.low ≤ n ∧ n ≤ r.high

namespace Preference

/-! ## Ranges mentioned -/

/-- The range from one number to another, whichever comes first. -/
def rangeBetween (a b : Nat) : NumberRange := ⟨min a b, max a b⟩

/-- The range that a mention names, if its ends are numbers. -/
def Mention.range? (m : Mention) : Option NumberRange :=
  (number? m.first).bind fun a =>
    match m.last with
    | none => some (rangeBetween a a)
    | some last => (number? last).map (rangeBetween a)

/-- The ranges that a text mentions, in text order. -/
def ranges (text : String) : List NumberRange := (mentions text).filterMap Mention.range?

theorem low_le_high_of_range? {m : Mention} {r : NumberRange} (h : m.range? = some r) :
    r.low ≤ r.high := by
  have hBetween : ∀ a b, (rangeBetween a b).low ≤ (rangeBetween a b).high := fun a b => by
    simp only [rangeBetween]
    omega
  obtain ⟨a, -, h⟩ := Option.bind_eq_some_iff.mp h
  split at h
  · rw [← Option.some.inj h]
    exact hBetween a a
  · obtain ⟨b, -, rfl⟩ := Option.map_eq_some_iff.mp h
    exact hBetween a b

/-! ## Taking ranges into account -/

/-- Takes one more range into account. -/
def take (p : Preference) (r : NumberRange) : Preference :=
  if r.IsWide then { p with oversized := p.oversized ++ [r] }
  else { p with numbers := insertRange r.low r.high p.numbers }

theorem addMention_eq_take (p : Preference) (m : Mention) :
    p.addMention m = m.range?.elim p p.take := by
  rw [addMention, Mention.range?]
  cases number? m.first with
  | none => rfl
  | some a =>
    cases m.last with
    | none => rfl
    | some last =>
      cases hLast : number? last with
      | none => simp [hLast]
      | some b => simp [hLast]; rfl

theorem read_eq_foldl_take (text : String) : read text = (ranges text).foldl take nothing := by
  rw [read, ranges, List.foldl_filterMap]
  congr 1
  funext p m
  rw [addMention_eq_take]
  cases m.range? <;> rfl

/-- The numbers of all narrow ranges are added, and the list stays ascending. -/
theorem numbers_foldl_take {rs : List NumberRange} (hOrder : ∀ r ∈ rs, r.low ≤ r.high)
    {p : Preference} (hp : p.numbers.Pairwise (· < ·)) :
    (rs.foldl take p).numbers.Pairwise (· < ·) ∧
      ∀ n, n ∈ (rs.foldl take p).numbers ↔ n ∈ p.numbers ∨ ∃ r ∈ rs, ¬r.IsWide ∧ r.Covers n := by
  -- to insert a range is to add its numbers only while the list is ascending
  induction rs generalizing p with
  | nil => exact ⟨hp, fun n => by simp⟩
  | cons r rs ih =>
    have hFirst : r.low ≤ r.high := hOrder r List.mem_cons_self
    have hRest : ∀ r ∈ rs, r.low ≤ r.high := fun r hr => hOrder r (List.mem_cons_of_mem _ hr)
    rw [List.foldl_cons, take]
    split
    next hWide =>
      obtain ⟨hSorted, hMem⟩ := ih hRest (p := { p with oversized := p.oversized ++ [r] }) hp
      refine ⟨hSorted, fun n => ?_⟩
      rw [hMem]
      simp [hWide]
    next hNarrow =>
      obtain ⟨hSorted, hMem⟩ :=
        ih hRest (p := { p with numbers := insertRange r.low r.high p.numbers })
          (insertRange_pairwise hFirst hp)
      refine ⟨hSorted, fun n => ?_⟩
      have hAdded : n ∈ insertRange r.low r.high p.numbers ↔ r.Covers n ∨ n ∈ p.numbers :=
        mem_insertRange hp
      rw [hMem, hAdded, or_assoc, or_left_comm]
      simp [hNarrow]

theorem oversized_foldl_take (rs : List NumberRange) (p : Preference) :
    (rs.foldl take p).oversized = p.oversized ++ rs.filter (·.IsWide) := by
  induction rs generalizing p with
  | nil => exact (List.append_nil _).symm
  | cons r rs ih =>
    rw [List.foldl_cons, ih, take]
    by_cases hWide : r.IsWide
    · simp [hWide]
    · simp [hWide]

theorem low_le_high_of_mem_ranges {text : String} {r : NumberRange} (h : r ∈ ranges text) :
    r.low ≤ r.high := by
  obtain ⟨m, -, hm⟩ := List.mem_filterMap.mp h
  exact low_le_high_of_range? hm

/-- The numbers of a text are listed in ascending order, each once. -/
theorem numbers_read_pairwise (text : String) : (read text).numbers.Pairwise (· < ·) := by
  rw [read_eq_foldl_take]
  exact (numbers_foldl_take (fun _ => low_le_high_of_mem_ranges) List.Pairwise.nil).1

/-- **The numbers of a text** are those in the narrow ranges that it mentions. -/
theorem mem_numbers_read {text : String} {n : Nat} :
    n ∈ (read text).numbers ↔ ∃ r ∈ ranges text, ¬r.IsWide ∧ r.Covers n := by
  rw [read_eq_foldl_take,
    (numbers_foldl_take (fun _ => low_le_high_of_mem_ranges) List.Pairwise.nil).2]
  exact or_iff_right List.not_mem_nil

/-- **The oversized ranges of a text** are the wide ones that it mentions, in text order. -/
theorem oversized_read (text : String) :
    (read text).oversized = (ranges text).filter (·.IsWide) := by
  rw [read_eq_foldl_take, oversized_foldl_take]
  rfl

/-! ## Separators -/

/-- **A separator keeps apart.** What is mentioned, and so what is read, is what the texts before
and behind it say by themselves. -/
theorem read_piecewise (a b : String) {c : Char} (hDigit : Text.isDecimalDigit c = false)
    (hBlank : Text.isBlank c = false) (hHyphen : c ≠ '-') :
    mentions (a ++ String.singleton c ++ b) = mentions a ++ mentions b ∧
      (∀ n, n ∈ (read (a ++ String.singleton c ++ b)).numbers ↔
        n ∈ (read a).numbers ∨ n ∈ (read b).numbers) ∧
      (read (a ++ String.singleton c ++ b)).oversized =
        (read a).oversized ++ (read b).oversized := by
  have hMentions : mentions (a ++ String.singleton c ++ b) = mentions a ++ mentions b := by
    have h := mentionsFrom_append_separator .outside a.toList b.toList hDigit hBlank hHyphen
    simpa [mentions] using h
  have hRanges : ranges (a ++ String.singleton c ++ b) = ranges a ++ ranges b := by
    rw [ranges, hMentions, List.filterMap_append, ranges, ranges]
  refine ⟨hMentions, fun n => ?_, ?_⟩
  · simp only [mem_numbers_read, hRanges, List.mem_append, or_and_right, exists_or]
  · rw [oversized_read, hRanges, List.filter_append, oversized_read, oversized_read]

/-- A range that is left half-written is none, and the comma keeps the next number out of it. -/
theorem read_piecewise_halfWritten :
    Text.isDecimalDigit ',' = false ∧ Text.isBlank ',' = false ∧ ',' ≠ '-' ∧
      (∀ n, n ∈ (read ("sezioni 12 - " ++ String.singleton ',' ++ "30001-15")).numbers ↔ n = 12) ∧
      (read ("sezioni 12 - " ++ String.singleton ',' ++ "30001-15")).oversized =
        [⟨15, 30001⟩] := by
  have hDigit : Text.isDecimalDigit ',' = false := by decide
  have hBlank : Text.isBlank ',' = false := by decide
  have hHyphen : ',' ≠ '-' := by decide
  have hBefore : read "sezioni 12 - " = ⟨[12], []⟩ := by rfl
  have hBehind : read "30001-15" = ⟨[], [⟨15, 30001⟩]⟩ := by rfl
  obtain ⟨-, hNumbers, hOversized⟩ :=
    read_piecewise "sezioni 12 - " "30001-15" hDigit hBlank hHyphen
  refine ⟨hDigit, hBlank, hHyphen, fun n => ?_, ?_⟩
  · rw [hNumbers, hBefore, hBehind]
    simp
  · rw [hOversized, hBefore, hBehind]
    rfl

end Preference

end PollRoster
