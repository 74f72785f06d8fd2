import PollRoster.Preference

/-!
# Which mentions a text has

A text is read character by character, and what stands behind a first run of digits is kept in mind
until it is settled whether a second run belongs to it. Seen as a whole, a mention is found at the
first digit: the run of digits there, as long as it is, and behind white space and a hyphen a second
run, if there is one. Reading goes on behind the last digit of the mention, so a range that is left
half-written is given back.

Main results:

* `mentionsFrom_outside_skip`, `mentionsFrom_outside_run` — which mention comes first in a text, and
  where reading goes on.
* `mentionsFrom_append_separator` — a character that is no digit, no white space and no hyphen keeps
  what stands before it and what stands behind it apart.
-/

namespace PollRoster.Preference

open Text

/-! ## Looking ahead -/

/-- The run of digits that follows, perhaps behind white space, and what is left behind it. -/
def secondRun? (cs : List Char) : Option (List Char × List Char) :=
  let cs := cs.dropWhile isBlank
  if cs.takeWhile isDecimalDigit = [] then none
  else some (cs.takeWhile isDecimalDigit, cs.dropWhile isDecimalDigit)

/-- What makes a range of a first run: a hyphen, perhaps behind white space, and a second run. -/
def rangeTail? (cs : List Char) : Option (List Char × List Char) :=
  match cs.dropWhile isBlank with
  | '-' :: rest => secondRun? rest
  | _ => none

/-- The mentions from a first run on, where `tail?` is what makes a range of it and `cs` all that
stands behind it. -/
def mentionsWith (first cs : List Char) (tail? : Option (List Char × List Char)) : List Mention :=
  match tail? with
  | some (last, rest) => ⟨first, some last⟩ :: mentionsFrom .outside rest
  | none => ⟨first, none⟩ :: mentionsFrom .outside cs

/-! ## Kinds of characters -/

theorem isDecimalDigit_hyphen : isDecimalDigit '-' = false := by decide

theorem isBlank_hyphen : isBlank '-' = false := by decide

/-- White space has no digits in it. -/
theorem isDecimalDigit_of_isBlank {c : Char} (h : isBlank c) : isDecimalDigit c = false := by
  have hCodes : ∀ n ∈ [0x09, 0x0A, 0x0B, 0x0C, 0x0D, 0x20, 0x85, 0xA0, 0x1680, 0x2000, 0x2001,
      0x2002, 0x2003, 0x2004, 0x2005, 0x2006, 0x2007, 0x2008, 0x2009, 0x200A, 0x2028, 0x2029,
      0x202F, 0x205F, 0x3000],
      (digitZeros.any fun first => first ≤ n && n < first + 10) = false := by decide
  refine hCodes c.toNat ?_
  simp only [isBlank, Bool.or_eq_true, Bool.and_eq_true, decide_eq_true_eq, beq_iff_eq] at h
  simp only [List.mem_cons, List.not_mem_nil, or_false]
  omega

theorem isBlank_of_isDecimalDigit {c : Char} (h : isDecimalDigit c) : isBlank c = false := by
  cases hBlank : isBlank c with
  | false => rfl
  | true => exact absurd ((isDecimalDigit_of_isBlank hBlank).symm.trans h) Bool.false_ne_true

theorem kind_cases (c : Char) : isDecimalDigit c = true ∨ isBlank c = true ∨ c = '-' ∨
    (isDecimalDigit c = false ∧ isBlank c = false ∧ c ≠ '-') := by
  by_cases hHyphen : c = '-'
  · exact .inr (.inr (.inl hHyphen))
  cases isDecimalDigit c <;> cases isBlank c <;> simp [hHyphen]

/-! ## One character -/

section Step

variable {c : Char} {cs : List Char} {r : Reading}

theorem step_of_isBlank (h : isBlank c) : r.step c = match r with
    | .first digits => ([], .gap digits false)
    | .gap digits hyphen => ([], .gap digits hyphen)
    | r => (r.finish, .outside) := by
  simp only [Reading.step, isDecimalDigit_of_isBlank h, h]
  rfl

theorem step_hyphen : r.step '-' = match r with
    | .first digits | .gap digits false => ([], .gap digits true)
    | r => (r.finish, .outside) := by
  cases r <;> rfl

/-- A separator ends what is being read, whatever that is. -/
theorem step_of_separator (hDigit : isDecimalDigit c = false) (hBlank : isBlank c = false)
    (hHyphen : c ≠ '-') : r.step c = (r.finish, .outside) := by
  simp [Reading.step, hDigit, hBlank, hHyphen]

theorem mentionsFrom_outside_digit (h : isDecimalDigit c) :
    mentionsFrom .outside (c :: cs) = mentionsFrom (.first [c]) cs := by
  have hStep : Reading.outside.step c = ([], .first [c]) := by simp [Reading.step, h]
  rw [mentionsFrom, hStep, List.nil_append]

theorem mentionsFrom_outside_skip (h : isDecimalDigit c = false) :
    mentionsFrom .outside (c :: cs) = mentionsFrom .outside cs := by
  rw [mentionsFrom]
  rcases kind_cases c with hDigit | hBlank | rfl | ⟨-, hBlank, hHyphen⟩
  · exact absurd (h.symm.trans hDigit) Bool.false_ne_true
  · rw [step_of_isBlank hBlank]
    rfl
  · rfl
  · rw [step_of_separator h hBlank hHyphen]
    rfl

end Step

/-! ## Runs of digits -/

theorem mentionsFrom_first (digits cs : List Char) :
    mentionsFrom (.first digits) cs =
      mentionsFrom (.first ((cs.takeWhile isDecimalDigit).reverse ++ digits))
        (cs.dropWhile isDecimalDigit) := by
  induction cs generalizing digits with
  | nil => rfl
  | cons c cs ih =>
    cases h : isDecimalDigit c with
    | false => simp [h]
    | true =>
      have hStep : (Reading.first digits).step c = ([], .first (c :: digits)) := by
        simp [Reading.step, h]
      rw [mentionsFrom, hStep, List.nil_append, ih]
      simp [h]

theorem mentionsFrom_second (digits last cs : List Char) :
    mentionsFrom (.second digits last) cs =
      ⟨digits.reverse, some (last.reverse ++ cs.takeWhile isDecimalDigit)⟩ ::
        mentionsFrom .outside (cs.dropWhile isDecimalDigit) := by
  induction cs generalizing last with
  | nil => simp [mentionsFrom, Reading.finish]
  | cons c cs ih =>
    cases h : isDecimalDigit c with
    | true =>
      have hStep : (Reading.second digits last).step c = ([], .second digits (c :: last)) := by
        simp [Reading.step, h]
      rw [mentionsFrom, hStep, List.nil_append, ih]
      simp [h]
    | false =>
      -- whatever ends the second run ends the mention
      have hStep : (Reading.second digits last).step c =
          ([⟨digits.reverse, some last.reverse⟩], .outside) := by
        rcases kind_cases c with hDigit | hBlank | rfl | ⟨-, hBlank, hHyphen⟩
        · exact absurd (h.symm.trans hDigit) Bool.false_ne_true
        · rw [step_of_isBlank hBlank]
          rfl
        · rfl
        · rw [step_of_separator h hBlank hHyphen]
          rfl
      rw [mentionsFrom, hStep]
      simp [h, mentionsFrom_outside_skip]

/-! ## Behind a first run -/

section Behind

variable {c : Char} {cs : List Char}

theorem secondRun?_of_isBlank (h : isBlank c) : secondRun? (c :: cs) = secondRun? cs := by
  simp [secondRun?, h]

theorem secondRun?_of_isDecimalDigit (h : isDecimalDigit c) : secondRun? (c :: cs) =
    some (c :: cs.takeWhile isDecimalDigit, cs.dropWhile isDecimalDigit) := by
  simp [secondRun?, isBlank_of_isDecimalDigit h, h]

theorem secondRun?_eq_none (hDigit : isDecimalDigit c = false) (hBlank : isBlank c = false) :
    secondRun? (c :: cs) = none := by
  simp [secondRun?, hDigit, hBlank]

theorem rangeTail?_of_isBlank (h : isBlank c) : rangeTail? (c :: cs) = rangeTail? cs := by
  simp [rangeTail?, h]

theorem rangeTail?_hyphen : rangeTail? ('-' :: cs) = secondRun? cs := by
  simp [rangeTail?, isBlank_hyphen]

theorem rangeTail?_eq_none (hBlank : isBlank c = false) (hHyphen : c ≠ '-') :
    rangeTail? (c :: cs) = none := by
  simp [rangeTail?, hBlank, hHyphen]

theorem mentionsWith_skip (h : isDecimalDigit c = false) (first : List Char)
    (tail? : Option (List Char × List Char)) :
    mentionsWith first (c :: cs) tail? = mentionsWith first cs tail? := by
  cases tail? with
  | none => rw [mentionsWith, mentionsWith, mentionsFrom_outside_skip h]
  | some tail => rfl

end Behind

/-- Behind the hyphen a second run is looked for; without one the hyphen is given back. -/
theorem mentionsFrom_gap_hyphen (digits cs : List Char) :
    mentionsFrom (.gap digits true) cs = mentionsWith digits.reverse cs (secondRun? cs) := by
  induction cs with
  | nil => rfl
  | cons c cs ih =>
    rcases kind_cases c with hDigit | hBlank | rfl | ⟨hDigit, hBlank, hHyphen⟩
    · have hStep : (Reading.gap digits true).step c = ([], .second digits [c]) := by
        simp [Reading.step, hDigit]
      rw [mentionsFrom, hStep, List.nil_append, mentionsFrom_second,
        secondRun?_of_isDecimalDigit hDigit]
      rfl
    · rw [mentionsFrom, step_of_isBlank hBlank, secondRun?_of_isBlank hBlank,
        mentionsWith_skip (isDecimalDigit_of_isBlank hBlank)]
      exact ih
    · rw [mentionsFrom, step_hyphen, secondRun?_eq_none isDecimalDigit_hyphen isBlank_hyphen,
        mentionsWith_skip isDecimalDigit_hyphen]
      rfl
    · rw [mentionsFrom, step_of_separator hDigit hBlank hHyphen, secondRun?_eq_none hDigit hBlank,
        mentionsWith_skip hDigit]
      rfl

/-- Before the hyphen it is still open whether there will be one. -/
theorem mentionsFrom_gap (digits cs : List Char) :
    mentionsFrom (.gap digits false) cs = mentionsWith digits.reverse cs (rangeTail? cs) := by
  induction cs with
  | nil => rfl
  | cons c cs ih =>
    -- only white space leaves the reading where it is; all else decides it
    rcases kind_cases c with hDigit | hBlank | rfl | ⟨hDigit, hBlank, hHyphen⟩
    · have hStep : (Reading.gap digits false).step c = ([⟨digits.reverse, none⟩], .first [c]) := by
        simp [Reading.step, hDigit]
      have hHyphen : c ≠ '-' := by
        rintro rfl
        exact Bool.false_ne_true hDigit
      rw [mentionsFrom, hStep, rangeTail?_eq_none (isBlank_of_isDecimalDigit hDigit) hHyphen,
        mentionsWith, mentionsFrom_outside_digit hDigit]
      rfl
    · rw [mentionsFrom, step_of_isBlank hBlank, rangeTail?_of_isBlank hBlank,
        mentionsWith_skip (isDecimalDigit_of_isBlank hBlank)]
      exact ih
    · rw [mentionsFrom, step_hyphen, rangeTail?_hyphen, mentionsWith_skip isDecimalDigit_hyphen]
      exact mentionsFrom_gap_hyphen digits cs
    · rw [mentionsFrom, step_of_separator hDigit hBlank hHyphen, rangeTail?_eq_none hBlank hHyphen,
        mentionsWith_skip hDigit]
      rfl

/-- Where no digit follows it makes no difference whether the first run is known to have ended. -/
theorem mentionsFrom_first_eq_gap {digits cs : List Char}
    (h : ∀ c ∈ cs.head?, isDecimalDigit c = false) :
    mentionsFrom (.first digits) cs = mentionsFrom (.gap digits false) cs := by
  cases cs with
  | nil => rfl
  | cons c cs =>
    have hStep : (Reading.first digits).step c = (Reading.gap digits false).step c := by
      simp [Reading.step, h c rfl, Reading.finish]
    rw [mentionsFrom, mentionsFrom, hStep]

/-- **The first mention.** At a digit the run of digits is read to its end, and with it what makes a
range of it, if anything does. -/
theorem mentionsFrom_outside_run {c : Char} (h : isDecimalDigit c) (cs : List Char) :
    mentionsFrom .outside (c :: cs) =
      mentionsWith (c :: cs.takeWhile isDecimalDigit) (cs.dropWhile isDecimalDigit)
        (rangeTail? (cs.dropWhile isDecimalDigit)) := by
  have hEnd : ∀ d ∈ (cs.dropWhile isDecimalDigit).head?, isDecimalDigit d = false := by
    intro d hd
    have hNot := List.head?_dropWhile_not isDecimalDigit cs
    rw [hd] at hNot
    simpa using hNot
  rw [mentionsFrom_outside_digit h, mentionsFrom_first, mentionsFrom_first_eq_gap hEnd,
    mentionsFrom_gap]
  simp

/-! ## Runs as they are written -/

theorem takeWhile_dropWhile_append {p : α → Bool} {xs rest : List α} (hAll : ∀ x ∈ xs, p x)
    (hEnd : ∀ x ∈ rest.head?, p x = false) :
    (xs ++ rest).takeWhile p = xs ∧ (xs ++ rest).dropWhile p = rest := by
  rw [List.takeWhile_append_of_pos hAll, List.dropWhile_append_of_pos hAll]
  cases rest with
  | nil => simp
  | cons x rest => simp [hEnd x rfl]

section Written

variable {digits rest : List Char} (hSome : digits ≠ []) (hDigits : ∀ c ∈ digits, isDecimalDigit c)
  (hEnd : ∀ c ∈ rest.head?, isDecimalDigit c = false)
include hSome hDigits hEnd

theorem mentionsFrom_outside_append :
    mentionsFrom .outside (digits ++ rest) = mentionsWith digits rest (rangeTail? rest) := by
  obtain ⟨hRun, hRest⟩ := takeWhile_dropWhile_append hDigits hEnd
  obtain ⟨c, cs, rfl⟩ := List.exists_cons_of_ne_nil hSome
  have hFirst : isDecimalDigit c = true := hDigits c List.mem_cons_self
  rw [List.cons_append, List.takeWhile_cons_of_pos hFirst] at hRun
  rw [List.cons_append, List.dropWhile_cons_of_pos hFirst] at hRest
  rw [List.cons_append, mentionsFrom_outside_run hFirst, hRun, hRest]

theorem secondRun?_append {blanks : List Char} (hBlanks : ∀ c ∈ blanks, isBlank c) :
    secondRun? (blanks ++ digits ++ rest) = some (digits, rest) := by
  obtain ⟨hRun, hRest⟩ := takeWhile_dropWhile_append hDigits hEnd
  have hStart : ∀ c ∈ (digits ++ rest).head?, isBlank c = false := by
    obtain ⟨c, cs, rfl⟩ := List.exists_cons_of_ne_nil hSome
    intro d hd
    rw [← Option.some.inj hd]
    exact isBlank_of_isDecimalDigit (hDigits c List.mem_cons_self)
  have hSkipped := (takeWhile_dropWhile_append hBlanks hStart).2
  rw [secondRun?, List.append_assoc, hSkipped, hRun, hRest, if_neg hSome]

end Written

theorem rangeTail?_append {blanks : List Char} (hBlanks : ∀ c ∈ blanks, isBlank c)
    (rest : List Char) : rangeTail? (blanks ++ '-' :: rest) = secondRun? rest := by
  have hHyphen : ∀ c ∈ ('-' :: rest).head?, isBlank c = false := by
    intro c hc
    rw [← Option.some.inj hc]
    exact isBlank_hyphen
  simp only [rangeTail?, (takeWhile_dropWhile_append hBlanks hHyphen).2]

/-! ## Separators -/

theorem mentionsFrom_append_separator (r : Reading) (a b : List Char) {c : Char}
    (hDigit : isDecimalDigit c = false) (hBlank : isBlank c = false) (hHyphen : c ≠ '-') :
    mentionsFrom r (a ++ c :: b) = mentionsFrom r a ++ mentionsFrom .outside b := by
  induction a generalizing r with
  | nil =>
    rw [List.nil_append, mentionsFrom, mentionsFrom, step_of_separator hDigit hBlank hHyphen]
  | cons x a ih => rw [List.cons_append, mentionsFrom, ih, mentionsFrom, List.append_assoc]

end PollRoster.Preference
