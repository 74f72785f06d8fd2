import Mathlib.Data.List.Sort
import Mathlib.Data.Nat.Digits.Defs
import PollRoster.Proofs.Preference

/-!
# Wishes as they are written

Nobody is told how to write a preference, yet one that is written plainly is understood as it is
meant. A wish is a number in ASCII digits or two of them with a hyphen between them. A list of
wishes has other text around them, in which there are no digits and no hyphens, and between two
wishes there is some of it. White space may stand around the hyphen of a range as well as between
two numbers.

Main results:

* `WishList.mentions_text` — the mentions of a written list are its wishes.
* `WishList.read_text` — what is read of it: the numbers and narrow ranges asked for, and the ranges
  that are too wide. Whatever is beyond the widest number is passed over.
-/

namespace PollRoster

open Preference

/-- A run of one or more ASCII digits. -/
structure Numeral where
  digits : List Char
  isDigit : ∀ c ∈ digits, '0' ≤ c ∧ c ≤ '9'
  nonempty : digits ≠ []

/-- White space, or nothing. -/
structure Spacing where
  chars : List Char
  isBlank : ∀ c ∈ chars, Text.isBlank c

/-- Text without digits and hyphens, or nothing. -/
structure Filler where
  chars : List Char
  isPassed : ∀ c ∈ chars, Text.isDecimalDigit c = false ∧ c ≠ '-'

inductive Wish where
  | number (numeral : Numeral)
  | range (first : Numeral) (before after : Spacing) (last : Numeral)

structure WishList where
  lead : Filler
  /-- Every wish with the text behind it. -/
  wishes : List (Wish × Filler)
  /-- Only behind the last wish there may be nothing. -/
  apart : ∀ w ∈ wishes.dropLast, w.2.chars ≠ []

/-! ## Writing -/

def Wish.chars : Wish → List Char
  | .number numeral => numeral.digits
  | .range first before after last =>
    first.digits ++ before.chars ++ '-' :: (after.chars ++ last.digits)

/-- The text of wishes with what stands behind each of them. -/
def writtenOut (wishes : List (Wish × Filler)) : List Char :=
  wishes.flatMap fun w => w.1.chars ++ w.2.chars

def WishList.text (l : WishList) : String := String.ofList (l.lead.chars ++ writtenOut l.wishes)

/-! ## Meaning -/

namespace Numeral

/-- The number that the digits stand for in the decimal system. -/
def value (x : Numeral) : Nat :=
  Nat.ofDigits 10 (x.digits.map fun c => c.toNat - '0'.toNat).reverse

/-- Whether 32 bits hold the number. -/
def Fits (x : Numeral) : Prop := x.value < 2 ^ 32

instance (x : Numeral) : Decidable x.Fits := inferInstanceAs (Decidable (_ < _))

end Numeral

namespace Wish

/-- Whether a number is asked for. -/
def Asks (n : Nat) : Wish → Prop
  | .number numeral => numeral.Fits ∧ n = numeral.value
  | .range first _ _ last =>
    first.Fits ∧ last.Fits ∧
      max first.value last.value - min first.value last.value ≤ maxRangeSpan ∧
      min first.value last.value ≤ n ∧ n ≤ max first.value last.value

/-- The range that is asked for, if it is too wide to be read. -/
def oversized? : Wish → Option NumberRange
  | .number _ => none
  | .range first _ _ last =>
    if first.Fits ∧ last.Fits ∧
        maxRangeSpan < max first.value last.value - min first.value last.value then
      some ⟨min first.value last.value, max first.value last.value⟩
    else none

def mention : Wish → Mention
  | .number numeral => ⟨numeral.digits, none⟩
  | .range first _ _ last => ⟨first.digits, some last.digits⟩

end Wish

/-! ## Numerals -/

namespace Numeral

theorem isDecimalDigit_of_mem (x : Numeral) {c : Char} (h : c ∈ x.digits) :
    Text.isDecimalDigit c := by
  obtain ⟨hLow, hHigh⟩ := x.isDigit c h
  have hLow : 0x30 ≤ c.toNat := hLow
  have hHigh : c.toNat ≤ 0x39 := hHigh
  refine List.any_eq_true.mpr ⟨0x30, List.mem_cons_self, ?_⟩
  simp
  omega

end Numeral

theorem digitValue?_of_isDigit {c : Char} (h : '0' ≤ c ∧ c ≤ '9') :
    Text.digitValue? c = some (c.toNat - '0'.toNat) := if_pos h

theorem readDigits_eq_ofDigits {cs : List Char} (h : ∀ c ∈ cs, '0' ≤ c ∧ c ≤ '9') (n : Nat) :
    Text.readDigits n cs =
      some (Nat.ofDigits 10 (cs.map fun c => c.toNat - '0'.toNat).reverse +
        10 ^ cs.length * n) := by
  -- what has been read moves up by one place with every digit
  induction cs generalizing n with
  | nil => simp [Text.readDigits]
  | cons c cs ih =>
    have hRest := ih fun d hd => h d (List.mem_cons_of_mem _ hd)
    rw [Text.readDigits, digitValue?_of_isDigit (h c List.mem_cons_self), Option.bind_some, hRest,
      List.map_cons, Nat.ofDigits_reverse_cons, List.length_map, List.length_cons]
    congr 1
    ring

namespace Numeral

theorem readNumber_digits (x : Numeral) : Text.readNumber x.digits = some x.value := by
  have hValue := readDigits_eq_ofDigits x.isDigit 0
  obtain ⟨c, cs, hDigits⟩ := List.exists_cons_of_ne_nil x.nonempty
  rw [value, ← Nat.add_zero (Nat.ofDigits _ _), ← Nat.mul_zero (10 ^ x.digits.length), ← hValue,
    hDigits]
  rfl

/-- A numeral names its value, however many zeros it starts with, or nothing if it is too large. -/
theorem number?_digits (x : Numeral) :
    number? x.digits = if x.Fits then some x.value else none := by
  have hBound : x.value ≤ maxNumber ↔ x.Fits := by
    rw [maxNumber, Fits]
    omega
  rw [number?, readNumber_digits, Option.filter_some]
  simp only [decide_eq_true_eq, hBound]

end Numeral

/-! ## Mentions -/

theorem mentionsFrom_outside_filler (filler : Filler) (rest : List Char) :
    mentionsFrom .outside (filler.chars ++ rest) = mentionsFrom .outside rest := by
  obtain ⟨cs, hPassed⟩ := filler
  induction cs with
  | nil => rfl
  | cons c cs ih =>
    rw [List.cons_append, mentionsFrom_outside_skip (hPassed c List.mem_cons_self).1]
    exact ih fun d hd => hPassed d (List.mem_cons_of_mem _ hd)

/-- Filler with a number or nothing behind it makes no range of what stands before it. -/
theorem rangeTail?_filler (filler : Filler) {rest : List Char}
    (hRest : ∀ c ∈ rest.head?, Text.isDecimalDigit c) :
    rangeTail? (filler.chars ++ rest) = none := by
  obtain ⟨cs, hPassed⟩ := filler
  induction cs with
  | nil =>
    cases rest with
    | nil => rfl
    | cons c rest =>
      have hDigit : Text.isDecimalDigit c = true := hRest c rfl
      refine rangeTail?_eq_none (isBlank_of_isDecimalDigit hDigit) ?_
      rintro rfl
      exact Bool.false_ne_true hDigit
  | cons c cs ih =>
    have hSame := ih fun d hd => hPassed d (List.mem_cons_of_mem _ hd)
    cases hBlank : Text.isBlank c with
    | true => exact (rangeTail?_of_isBlank hBlank).trans hSame
    | false => exact rangeTail?_eq_none hBlank (hPassed c List.mem_cons_self).2

theorem Wish.exists_digit (w : Wish) :
    ∃ c cs, w.chars = c :: cs ∧ Text.isDecimalDigit c := by
  have hNumeral : ∀ (x : Numeral) (rest : List Char),
      ∃ c cs, x.digits ++ rest = c :: cs ∧ Text.isDecimalDigit c := by
    intro x rest
    obtain ⟨c, cs, hDigits⟩ := List.exists_cons_of_ne_nil x.nonempty
    refine ⟨c, cs ++ rest, by rw [hDigits, List.cons_append], x.isDecimalDigit_of_mem ?_⟩
    rw [hDigits]
    exact List.mem_cons_self
  cases w with
  | number x =>
    have h := hNumeral x []
    rwa [List.append_nil] at h
  | range first before after last =>
    rw [Wish.chars, List.append_assoc]
    exact hNumeral first _

/-- A wish is mentioned as it is, if what follows is neither a digit nor makes a range of it. -/
theorem mentionsFrom_outside_wish (w : Wish) {rest : List Char}
    (hEnd : ∀ c ∈ rest.head?, Text.isDecimalDigit c = false) (hNoRange : rangeTail? rest = none) :
    mentionsFrom .outside (w.chars ++ rest) = w.mention :: mentionsFrom .outside rest := by
  cases w with
  | number x =>
    rw [Wish.chars, mentionsFrom_outside_append x.nonempty (fun _ => x.isDecimalDigit_of_mem) hEnd,
      hNoRange]
    rfl
  | range first before after last =>
    -- behind the first number there is white space or the hyphen, and neither is a digit
    have hHyphen : ∀ c ∈ (before.chars ++ '-' :: (after.chars ++ last.digits ++ rest)).head?,
        Text.isDecimalDigit c = false := by
      intro c hc
      cases hBefore : before.chars with
      | nil =>
        rw [hBefore] at hc
        rw [← Option.some.inj hc]
        exact isDecimalDigit_hyphen
      | cons d ds =>
        rw [hBefore] at hc
        rw [← Option.some.inj hc]
        exact isDecimalDigit_of_isBlank (before.isBlank d (hBefore ▸ List.mem_cons_self))
    have hTail : rangeTail? (before.chars ++ '-' :: (after.chars ++ last.digits ++ rest)) =
        some (last.digits, rest) := by
      rw [rangeTail?_append before.isBlank,
        secondRun?_append last.nonempty (fun _ => last.isDecimalDigit_of_mem) hEnd after.isBlank]
    have hFirst := mentionsFrom_outside_append first.nonempty
      (fun _ => first.isDecimalDigit_of_mem) hHyphen
    rw [hTail] at hFirst
    rw [Wish.chars, List.append_assoc, List.append_assoc, List.cons_append]
    exact hFirst

theorem writtenOut_cons (w : Wish × Filler) (wishes : List (Wish × Filler)) :
    writtenOut (w :: wishes) = w.1.chars ++ (w.2.chars ++ writtenOut wishes) := by
  rw [writtenOut, List.flatMap_cons, List.append_assoc, writtenOut]

/-- Wishes start with a digit, if there are any. -/
theorem isDecimalDigit_of_head?_writtenOut {wishes : List (Wish × Filler)} {c : Char}
    (h : c ∈ (writtenOut wishes).head?) : Text.isDecimalDigit c := by
  cases wishes with
  | nil => exact nomatch h
  | cons w wishes =>
    obtain ⟨d, ds, hChars, hDigit⟩ := w.1.exists_digit
    rw [writtenOut_cons, hChars] at h
    rw [← Option.some.inj h]
    exact hDigit

theorem apart_cons {w : Wish × Filler} {wishes : List (Wish × Filler)}
    (hApart : ∀ v ∈ (w :: wishes).dropLast, v.2.chars ≠ []) :
    (w.2.chars ≠ [] ∨ wishes = []) ∧ ∀ v ∈ wishes.dropLast, v.2.chars ≠ [] := by
  cases wishes with
  | nil => exact ⟨.inr rfl, fun _ hv => absurd hv List.not_mem_nil⟩
  | cons next rest =>
    rw [List.dropLast_cons_cons] at hApart
    exact ⟨.inl (hApart w List.mem_cons_self), fun v hv => hApart v (List.mem_cons_of_mem _ hv)⟩

/-- Behind a wish there is filler or nothing at all. -/
theorem isDecimalDigit_of_head?_behind {w : Wish × Filler} {wishes : List (Wish × Filler)}
    (hApart : w.2.chars ≠ [] ∨ wishes = []) {c : Char}
    (h : c ∈ (w.2.chars ++ writtenOut wishes).head?) : Text.isDecimalDigit c = false := by
  cases hFiller : w.2.chars with
  | cons d ds =>
    rw [hFiller] at h
    rw [← Option.some.inj h]
    exact (w.2.isPassed d (hFiller ▸ List.mem_cons_self)).1
  | nil =>
    rw [hFiller, hApart.resolve_left fun hSome => hSome hFiller] at h
    exact absurd h (Option.not_mem_none c)

theorem mentionsFrom_outside_writtenOut {wishes : List (Wish × Filler)}
    (hApart : ∀ w ∈ wishes.dropLast, w.2.chars ≠ []) :
    mentionsFrom .outside (writtenOut wishes) = wishes.map (·.1.mention) := by
  induction wishes with
  | nil => rfl
  | cons w wishes ih =>
    obtain ⟨hFirst, hRest⟩ := apart_cons hApart
    have hNoRange : rangeTail? (w.2.chars ++ writtenOut wishes) = none :=
      rangeTail?_filler w.2 fun _ => isDecimalDigit_of_head?_writtenOut
    rw [writtenOut_cons,
      mentionsFrom_outside_wish w.1 (fun _ => isDecimalDigit_of_head?_behind hFirst) hNoRange,
      mentionsFrom_outside_filler, ih hRest, List.map_cons]

/-- **The mentions of a written list** are its wishes. -/
theorem WishList.mentions_text (l : WishList) :
    mentions l.text = l.wishes.map (·.1.mention) := by
  rw [mentions, text, String.toList_ofList, mentionsFrom_outside_filler,
    mentionsFrom_outside_writtenOut l.apart]

/-! ## Reading what is written -/

namespace Wish

theorem range?_mention (w : Wish) : w.mention.range? = match w with
    | .number x => if x.Fits then some (rangeBetween x.value x.value) else none
    | .range first _ _ last =>
      if first.Fits ∧ last.Fits then some (rangeBetween first.value last.value) else none := by
  cases w with
  | number x =>
    rw [mention, Mention.range?, x.number?_digits]
    by_cases hx : x.Fits
    · simp [hx]
    · simp [hx]
  | range first before after last =>
    rw [mention, Mention.range?, first.number?_digits]
    by_cases hFirst : first.Fits
    · by_cases hLast : last.Fits
      · simp [hFirst, hLast, last.number?_digits]
      · simp [hLast, last.number?_digits]
    · simp [hFirst]

/-- A number is asked for if it lies in a narrow range that is mentioned. -/
theorem asks_iff {w : Wish} {n : Nat} :
    w.Asks n ↔ ∃ r, w.mention.range? = some r ∧ ¬r.IsWide ∧ r.Covers n := by
  rw [range?_mention]
  cases w with
  | number x =>
    have hAlone : ¬(rangeBetween x.value x.value).IsWide ∧
        ((rangeBetween x.value x.value).Covers n ↔ n = x.value) := by
      simp only [NumberRange.IsWide, NumberRange.Covers, rangeBetween]
      omega
    simp [Asks, hAlone]
  | range first before after last =>
    simp only [Asks, Option.ite_none_right_eq_some, Option.some.injEq, and_assoc, exists_and_left,
      exists_eq_left', NumberRange.IsWide, NumberRange.Covers, rangeBetween, Nat.not_lt]

theorem filter_range?_mention (w : Wish) :
    w.mention.range?.filter (·.IsWide) = w.oversized? := by
  rw [range?_mention]
  cases w with
  | number x =>
    have hAlone : ¬(rangeBetween x.value x.value).IsWide := by
      simp only [NumberRange.IsWide, rangeBetween]
      omega
    by_cases hx : x.Fits
    · simp [oversized?, hx, hAlone]
    · simp [oversized?, hx]
  | range first before after last =>
    by_cases hFits : first.Fits ∧ last.Fits
    · have hWide : (rangeBetween first.value last.value).IsWide ↔
          maxRangeSpan < max first.value last.value - min first.value last.value := Iff.rfl
      simp only [oversized?, hFits, and_self, true_and, if_true, Option.filter_some,
        decide_eq_true_eq, hWide]
      rfl
    · simp [oversized?, hFits, ← and_assoc]

end Wish

/-- **Reading what is written.** -/
theorem WishList.read_text (l : WishList) :
    (read l.text).numbers.Pairwise (· < ·) ∧
      (∀ n, n ∈ (read l.text).numbers ↔ ∃ w ∈ l.wishes, w.1.Asks n) ∧
      (read l.text).oversized = l.wishes.filterMap (·.1.oversized?) := by
  have hRanges : ranges l.text = l.wishes.filterMap fun w => w.1.mention.range? := by
    rw [ranges, l.mentions_text, List.filterMap_map]
    rfl
  refine ⟨numbers_read_pairwise _, fun n => ?_, ?_⟩
  · rw [mem_numbers_read, hRanges]
    constructor
    · rintro ⟨r, hr, hNarrow, hCovers⟩
      obtain ⟨w, hw, hRange⟩ := List.mem_filterMap.mp hr
      exact ⟨w, hw, Wish.asks_iff.mpr ⟨r, hRange, hNarrow, hCovers⟩⟩
    · rintro ⟨w, hw, hAsks⟩
      obtain ⟨r, hRange, hNarrow, hCovers⟩ := Wish.asks_iff.mp hAsks
      exact ⟨r, List.mem_filterMap.mpr ⟨w, hw, hRange⟩, hNarrow, hCovers⟩
  · rw [oversized_read, hRanges, List.filter_filterMap]
    simp only [Wish.filter_range?_mention]

/-! ## A list as somebody may write it -/

def Numeral.ofText (s : String) (hDigit : s.toList.all (fun c => '0' ≤ c && c ≤ '9'))
    (hSome : s.toList ≠ []) : Numeral where
  digits := s.toList
  isDigit c hc := by simpa using List.all_eq_true.mp hDigit c hc
  nonempty := hSome

def Spacing.ofText (s : String) (h : s.toList.all Text.isBlank) : Spacing where
  chars := s.toList
  isBlank := List.all_eq_true.mp h

def Filler.ofText (s : String)
    (h : s.toList.all fun c => !Text.isDecimalDigit c && c != '-') : Filler where
  chars := s.toList
  isPassed c hc := by simpa using List.all_eq_true.mp h c hc

/-- Zeros in front of a number, a range downwards with white space in it, a number beyond 32 bits,
and a range that is too wide by one. -/
def mixedWishes : WishList where
  lead := .ofText "sezioni " (by decide)
  wishes :=
    [(.number (.ofText "0012" (by decide) (by decide)), .ofText ", " (by decide)),
      (.range (.ofText "7" (by decide) (by decide)) (.ofText " " (by decide))
        (.ofText "\t" (by decide)) (.ofText "5" (by decide) (by decide)),
        .ofText " e " (by decide)),
      (.number (.ofText "4294967296" (by decide) (by decide)), .ofText "; " (by decide)),
      (.range (.ofText "1" (by decide) (by decide)) (.ofText "" (by decide))
        (.ofText "" (by decide)) (.ofText "10002" (by decide) (by decide)),
        .ofText "" (by decide))]
  apart := by decide

theorem asks_mixedWishes (n : Nat) :
    (∃ w ∈ mixedWishes.wishes, w.1.Asks n) ↔ n ∈ [5, 6, 7, 12] := by
  have h12 : ∀ h h', (Numeral.ofText "0012" h h').value = 12 := fun _ _ => rfl
  have h7 : ∀ h h', (Numeral.ofText "7" h h').value = 7 := fun _ _ => rfl
  have h5 : ∀ h h', (Numeral.ofText "5" h h').value = 5 := fun _ _ => rfl
  have hBeyond : ∀ h h', (Numeral.ofText "4294967296" h h').value = 2 ^ 32 := fun _ _ => rfl
  have h1 : ∀ h h', (Numeral.ofText "1" h h').value = 1 := fun _ _ => rfl
  have hWide : ∀ h h', (Numeral.ofText "10002" h h').value = 10002 := fun _ _ => rfl
  simp only [mixedWishes, List.mem_cons, List.not_mem_nil, or_false, exists_eq_or_imp,
    exists_eq_left, Wish.Asks, Numeral.Fits, maxRangeSpan, h12, h7, h5, hBeyond, h1, hWide]
  omega

/-- All that is read of it are the twelve and the range. -/
theorem WishList.read_text_mixedWishes :
    mixedWishes.text = "sezioni 0012, 7 -\t5 e 4294967296; 1-10002" ∧
      (read mixedWishes.text).numbers = [5, 6, 7, 12] ∧
      (read mixedWishes.text).oversized = [⟨1, 10002⟩] := by
  obtain ⟨hAscending, hNumbers, hOversized⟩ := mixedWishes.read_text
  refine ⟨by decide +kernel, ?_, by rw [hOversized]; decide +kernel⟩
  exact hAscending.eq_of_mem_iff (by decide) fun n => (hNumbers n).trans (asks_mixedWishes n)

end PollRoster
