import Mathlib.Data.List.Basic
import PollRoster.Text.Blank
import PollRoster.Text.LetterCase

/-!
# Words and the white space around them

A text has the words that it is spaced out from: runs of characters with white space between them
and perhaps around them. Which white space it is, and how much of it, leaves no trace in the words.
Trimming takes off what stands around them and nothing else.

In upper case the words are still words, since no character turns into white space or into nothing.

Main results:

* `words_eq_iff` — the words of a text, by a relation that leaves the white space open.
* `words_append_gap` — white space in any place divides a text into what has the words in front of
  it and what has those behind it.
* `trim_surrounded`, `exists_eq_surrounded_trim` — what trimming takes off.
* `IsWord.upper`, `toUpper_intercalate` — words in upper case.
-/

namespace PollRoster.Text

/-! ## White space -/

/-- Whether there are white spaces only. -/
def IsSpacing (cs : List Char) : Prop := ∀ c ∈ cs, isBlank c

theorem isSpacing_append {cs ds : List Char} :
    IsSpacing (cs ++ ds) ↔ IsSpacing cs ∧ IsSpacing ds := List.forall_mem_append

theorem isSpacing_cons {c : Char} {cs : List Char} :
    IsSpacing (c :: cs) ↔ isBlank c ∧ IsSpacing cs := List.forall_mem_cons

theorem dropWhile_isBlank_append {space : List Char} (h : IsSpacing space) (cs : List Char) :
    (space ++ cs).dropWhile isBlank = cs.dropWhile isBlank := List.dropWhile_append_of_pos h

/-- Nothing is dropped where there is no white space. -/
theorem dropWhile_isBlank_of_head? {cs : List Char} (h : ∀ c ∈ cs.head?, isBlank c = false) :
    cs.dropWhile isBlank = cs := by
  cases cs with
  | nil => rfl
  | cons c cs => rw [List.dropWhile_cons, h c rfl, if_neg Bool.false_ne_true]

/-- What is dropped is white space. -/
theorem exists_spacing_dropWhile (cs : List Char) :
    ∃ space, IsSpacing space ∧ cs = space ++ cs.dropWhile isBlank ∧
      ∀ c ∈ (cs.dropWhile isBlank).head?, isBlank c = false := by
  refine ⟨cs.takeWhile isBlank, fun c hc => List.all_eq_true.mp List.all_takeWhile c hc,
    List.takeWhile_append_dropWhile.symm, fun c hc => ?_⟩
  have hHead := List.head?_dropWhile_not isBlank cs
  rw [Option.mem_def.mp hc] at hHead
  exact hHead

/-! ## Trimming -/

/-- Whether there is no white space at either end. -/
def IsTrimmed (cs : List Char) : Prop :=
  (∀ c ∈ cs.head?, isBlank c = false) ∧ ∀ c ∈ cs.getLast?, isBlank c = false

theorem trimChars_of_isTrimmed {cs : List Char} (h : IsTrimmed cs) : trimChars cs = cs := by
  have hBack : ∀ c ∈ cs.reverse.head?, isBlank c = false := by
    rw [List.head?_reverse]
    exact h.2
  rw [trimChars, dropWhile_isBlank_of_head? h.1, dropWhile_isBlank_of_head? hBack,
    List.reverse_reverse]

/-- **What stands around a text** is taken off. -/
theorem trimChars_surrounded {before after : List Char} (hBefore : IsSpacing before)
    (hAfter : IsSpacing after) (cs : List Char) :
    trimChars (before ++ (cs ++ after)) = trimChars cs := by
  have hReversed : IsSpacing after.reverse := fun c hc => hAfter c (List.mem_reverse.mp hc)
  rw [trimChars, dropWhile_isBlank_append hBefore, List.dropWhile_append, trimChars]
  split
  -- white space only: what stands behind it is dropped as well
  next hNothing =>
    have hRest : after.dropWhile isBlank = [] := by
      have hAll := dropWhile_isBlank_append hAfter []
      rwa [List.append_nil] at hAll
    rw [hRest, List.isEmpty_iff.mp hNothing]
  · rw [List.reverse_append, dropWhile_isBlank_append hReversed]

/-- Nothing but white space is taken off, and none is left. -/
theorem exists_eq_surrounded_trimChars (cs : List Char) :
    ∃ before after, IsSpacing before ∧ IsSpacing after ∧
      cs = before ++ (trimChars cs ++ after) ∧ IsTrimmed (trimChars cs) := by
  obtain ⟨before, hBefore, hFront, hHead⟩ := exists_spacing_dropWhile cs
  obtain ⟨after, hAfter, hBack, hLast⟩ :=
    exists_spacing_dropWhile (cs.dropWhile isBlank).reverse
  have hCore : cs.dropWhile isBlank = trimChars cs ++ after.reverse := by
    rw [trimChars, ← List.reverse_append, ← hBack, List.reverse_reverse]
  refine ⟨before, after.reverse, hBefore, fun c hc => hAfter c (List.mem_reverse.mp hc), ?_, ?_, ?_⟩
  · rw [← hCore]
    exact hFront
  · intro c hc
    refine hHead c ?_
    rw [hCore, List.head?_append, Option.mem_def.mp hc]
    rfl
  · intro c hc
    refine hLast c ?_
    rwa [trimChars, List.getLast?_reverse] at hc

/-! ## Words -/

/-- Whether there are characters, and none of them is white space. -/
def IsWord (cs : List Char) : Prop := cs ≠ [] ∧ ∀ c ∈ cs, isBlank c = false

/-- Words, with white space between them and perhaps around them. -/
inductive SpacedOut : List (List Char) → List Char → Prop
  | nil (hSpace : IsSpacing space) : SpacedOut [] space
  | cons (hSpace : IsSpacing space) (hWord : IsWord word)
      (hApart : ∀ c ∈ rest.head?, isBlank c) (hRest : SpacedOut ws rest) :
    SpacedOut (word :: ws) (space ++ (word ++ rest))

theorem SpacedOut.spacing_append {space : List Char} (hSpace : IsSpacing space)
    (h : SpacedOut ws cs) : SpacedOut ws (space ++ cs) := by
  cases h with
  | nil hRest => exact .nil (isSpacing_append.mpr ⟨hSpace, hRest⟩)
  | cons hInner hWord hApart hRest =>
    rw [← List.append_assoc]
    exact .cons (isSpacing_append.mpr ⟨hSpace, hInner⟩) hWord hApart hRest

/-- A gap keeps what stands in front of it apart from a word, if only by itself. -/
theorem isBlank_of_head?_gap {rest gap ds : List Char} (hGap : IsSpacing gap) (hSome : gap ≠ [])
    (hApart : ∀ c ∈ rest.head?, isBlank c) : ∀ c ∈ (rest ++ (gap ++ ds)).head?, isBlank c := by
  intro c hc
  cases rest with
  | cons d rest => exact hApart c hc
  | nil =>
    obtain ⟨d, gap, rfl⟩ := List.exists_cons_of_ne_nil hSome
    rw [← Option.some.inj hc]
    exact hGap d List.mem_cons_self

/-- Texts with white space between them have the words of both. -/
theorem SpacedOut.append_gap {gap : List Char} (hGap : IsSpacing gap) (hSome : gap ≠ [])
    (hFront : SpacedOut ws cs) (hBack : SpacedOut vs ds) :
    SpacedOut (ws ++ vs) (cs ++ (gap ++ ds)) := by
  induction hFront with
  | nil hSpace => exact (hBack.spacing_append hGap).spacing_append hSpace
  | cons hSpace hWord hApart _ ih =>
    rw [List.append_assoc, List.append_assoc]
    exact .cons hSpace hWord (isBlank_of_head?_gap hGap hSome hApart) ih

theorem wordsFrom_spacing_append {space : List Char} (h : IsSpacing space) (cs : List Char) :
    wordsFrom [] (space ++ cs) = wordsFrom [] cs := by
  induction space with
  | nil => rfl
  | cons c space ih =>
    obtain ⟨hBlank, hSpace⟩ := isSpacing_cons.mp h
    rw [List.cons_append, wordsFrom, if_pos hBlank, ← ih hSpace]
    rfl

theorem wordsFrom_append {word : List Char} (h : ∀ c ∈ word, isBlank c = false)
    (current rest : List Char) :
    wordsFrom current (word ++ rest) = wordsFrom (word.reverse ++ current) rest := by
  induction word generalizing current with
  | nil => rfl
  | cons c word ih =>
    obtain ⟨hFirst, hRest⟩ := List.forall_mem_cons.mp h
    rw [List.cons_append, wordsFrom, if_neg (by rw [hFirst]; decide), ih hRest, List.reverse_cons,
      List.append_assoc, List.singleton_append]

/-- White space, or the end of the text, closes a word. -/
theorem wordsFrom_close {current : List Char} (hSome : current ≠ []) {rest : List Char}
    (hApart : ∀ c ∈ rest.head?, isBlank c) :
    wordsFrom current rest = current.reverse :: wordsFrom [] rest := by
  have hOpen : ¬current.isEmpty = true := by rwa [List.isEmpty_iff]
  cases rest with
  | nil =>
    rw [wordsFrom, if_neg hOpen]
    rfl
  | cons c rest =>
    have hBlank : isBlank c = true := hApart c rfl
    rw [wordsFrom, if_pos hBlank, if_neg hOpen, wordsFrom, if_pos hBlank]
    rfl

theorem wordsFrom_of_spacedOut (h : SpacedOut ws cs) : wordsFrom [] cs = ws := by
  induction h with
  | @nil space hSpace =>
    have hAll := wordsFrom_spacing_append hSpace []
    rwa [List.append_nil] at hAll
  | cons hSpace hWord hApart _ ih =>
    rw [wordsFrom_spacing_append hSpace, wordsFrom_append hWord.2, List.append_nil,
      wordsFrom_close (List.reverse_ne_nil_iff.mpr hWord.1) hApart, List.reverse_reverse, ih]

/-- What is read on from an open word is spaced out, the open word included. -/
theorem spacedOut_wordsFrom {current : List Char} (hCurrent : ∀ c ∈ current, isBlank c = false)
    (cs : List Char) : SpacedOut (wordsFrom current cs) (current.reverse ++ cs) := by
  have hWord (hSome : current ≠ []) : IsWord current.reverse :=
    ⟨List.reverse_ne_nil_iff.mpr hSome, fun c hc => hCurrent c (List.mem_reverse.mp hc)⟩
  have hNoSpace : IsSpacing [] := List.forall_mem_nil _
  induction cs generalizing current with
  | nil =>
    by_cases hSome : current = []
    · subst hSome
      exact .nil hNoSpace
    · rw [wordsFrom_close hSome (by simp)]
      exact .cons hNoSpace (hWord hSome) (by simp) (.nil hNoSpace)
  | cons c cs ih =>
    cases hBlank : isBlank c with
    | true =>
      have hSpace : IsSpacing [c] := List.forall_mem_singleton.mpr hBlank
      have hRest : SpacedOut (wordsFrom [] cs) (c :: cs) :=
        (ih (List.forall_mem_nil _) fun h => absurd rfl h).spacing_append hSpace
      have hSame : wordsFrom [] (c :: cs) = wordsFrom [] cs := wordsFrom_spacing_append hSpace cs
      by_cases hSome : current = []
      · subst hSome
        rw [hSame]
        exact hRest
      · have hApart : ∀ d ∈ (c :: cs).head?, isBlank d := by
          intro d hd
          rw [← Option.some.inj hd]
          exact hBlank
        rw [wordsFrom_close hSome hApart, hSame]
        exact .cons hNoSpace (hWord hSome) hApart hRest
    | false =>
      have hLonger : ∀ d ∈ c :: current, isBlank d = false :=
        List.forall_mem_cons.mpr ⟨hBlank, hCurrent⟩
      have hRest := ih hLonger fun _ =>
        ⟨by simp, fun d hd => hLonger d (List.mem_reverse.mp hd)⟩
      rw [wordsFrom, if_neg (by rw [hBlank]; decide)]
      rwa [List.reverse_cons, List.append_assoc, List.singleton_append] at hRest

/-- **The words of a text** are those that it is spaced out from. -/
theorem words_eq_iff {s : String} {ws : List String} :
    words s = ws ↔ SpacedOut (ws.map String.toList) s.toList := by
  have hRead : (words s).map String.toList = wordsFrom [] s.toList := by
    have hChars : String.toList ∘ String.ofList = id := funext fun cs => String.toList_ofList
    rw [words, List.map_map, hChars, List.map_id]
  constructor
  · rintro rfl
    rw [hRead]
    exact spacedOut_wordsFrom (List.forall_mem_nil _) s.toList
  · intro h
    refine List.map_injective_iff.mpr (fun _ _ => String.toList_inj.mp) ?_
    rw [hRead, wordsFrom_of_spacedOut h]

/-- **White space in any place**, whichever and however much, keeps the words in front of it apart
from those behind it. -/
theorem words_append_gap {gap : String} (hGap : IsSpacing gap.toList) (hSome : gap ≠ "")
    (s t : String) : words (s ++ (gap ++ t)) = words s ++ words t := by
  have hNonempty : gap.toList ≠ [] := fun h => hSome (String.toList_eq_nil_iff.mp h)
  rw [words_eq_iff, List.map_append, String.toList_append, String.toList_append]
  exact .append_gap hGap hNonempty (words_eq_iff.mp rfl) (words_eq_iff.mp rfl)

/-- White space around a text is no part of any word. -/
theorem words_surrounded {before after : String} (hBefore : IsSpacing before.toList)
    (hAfter : IsSpacing after.toList) (s : String) : words (before ++ (s ++ after)) = words s := by
  have hWords : SpacedOut ((words s).map String.toList) s.toList := words_eq_iff.mp rfl
  rw [words_eq_iff, String.toList_append, String.toList_append]
  refine .spacing_append hBefore ?_
  by_cases hNone : after.toList = []
  · rw [hNone, List.append_nil]
    exact hWords
  · have hBehind := hWords.append_gap hAfter hNone (.nil (List.forall_mem_nil _))
    rwa [List.append_nil, List.append_nil] at hBehind

theorem SpacedOut.isWord (h : SpacedOut ws cs) : ∀ w ∈ ws, IsWord w := by
  induction h with
  | nil => exact List.forall_mem_nil _
  | cons _ hWord _ _ ih => exact List.forall_mem_cons.mpr ⟨hWord, ih⟩

theorem isWord_of_mem_words {s w : String} (h : w ∈ words s) : IsWord w.toList :=
  (words_eq_iff.mp rfl : SpacedOut _ s.toList).isWord _ (List.mem_map_of_mem h)

theorem spacedOut_intercalate {ws : List (List Char)} (h : ∀ w ∈ ws, IsWord w) :
    SpacedOut ws ([' '].intercalate ws) := by
  have hBlank : IsSpacing [' '] := List.forall_mem_singleton.mpr rfl
  have hNoSpace : IsSpacing [] := List.forall_mem_nil _
  induction ws with
  | nil => exact .nil hNoSpace
  | cons w ws ih =>
    obtain ⟨hWord, hRest⟩ := List.forall_mem_cons.mp h
    cases ws with
    | nil =>
      have hAlone := SpacedOut.cons hNoSpace hWord (by simp) (.nil hNoSpace)
      simpa using hAlone
    | cons v ws =>
      have hBehind : ∀ c ∈ ([' '] ++ [' '].intercalate (v :: ws)).head?, isBlank c := by
        intro c hc
        rw [← Option.some.inj hc]
        rfl
      rw [List.intercalate_cons_cons, List.append_assoc]
      exact .cons hNoSpace hWord hBehind ((ih hRest).spacing_append hBlank)

/-- Words joined by single blanks are the words of what they are joined to. -/
theorem words_intercalate {ws : List String} (h : ∀ w ∈ ws, IsWord w.toList) :
    words (" ".intercalate ws) = ws := by
  rw [words_eq_iff, String.toList_intercalate]
  exact spacedOut_intercalate (List.forall_mem_map.mpr h)

theorem trim_surrounded {before after : String} (hBefore : IsSpacing before.toList)
    (hAfter : IsSpacing after.toList) (s : String) : trim (before ++ (s ++ after)) = trim s := by
  rw [trim, String.toList_append, String.toList_append, trimChars_surrounded hBefore hAfter, trim]

theorem trim_of_isTrimmed {s : String} (h : IsTrimmed s.toList) : trim s = s := by
  rw [trim, trimChars_of_isTrimmed h, String.ofList_toList]

theorem exists_eq_surrounded_trim (s : String) :
    ∃ before after, IsSpacing before.toList ∧ IsSpacing after.toList ∧
      s = before ++ (trim s ++ after) ∧ IsTrimmed (trim s).toList := by
  obtain ⟨before, after, hBefore, hAfter, hSplit, hTrimmed⟩ :=
    exists_eq_surrounded_trimChars s.toList
  refine ⟨String.ofList before, String.ofList after, ?_, ?_, ?_, ?_⟩
  · rwa [String.toList_ofList]
  · rwa [String.toList_ofList]
  · refine String.toList_inj.mp ?_
    rw [String.toList_append, String.toList_append, trim, String.toList_ofList,
      String.toList_ofList, String.toList_ofList]
    exact hSplit
  · rwa [trim, String.toList_ofList]

/-! ## Upper case -/

/-- The code points of white space. -/
def blankRanges : List (Nat × Nat) :=
  [(0x09, 0x0D), (0x20, 0x20), (0x85, 0x85), (0xA0, 0xA0), (0x1680, 0x1680), (0x2000, 0x200A),
    (0x2028, 0x2029), (0x202F, 0x202F), (0x205F, 0x205F), (0x3000, 0x3000)]

def IsBlankCode (n : Nat) : Prop := ∃ r ∈ blankRanges, r.1 ≤ n ∧ n ≤ r.2

instance (n : Nat) : Decidable (IsBlankCode n) := List.decidableBEx _ blankRanges

theorem isBlank_iff {c : Char} : isBlank c ↔ IsBlankCode c.toNat := by
  simp [isBlank, IsBlankCode, blankRanges]
  omega

theorem isBlank_ofNat {n : Nat} (h : ¬IsBlankCode n) : isBlank (Char.ofNat n) = false := by
  have hZero : ¬IsBlankCode 0 := by decide
  rw [← Bool.not_eq_true, isBlank_iff, Char.ofNat]
  by_cases hValid : n.isValidChar
  · rw [dif_pos hValid]
    exact h
  -- what is no code point gives the character zero
  · rw [dif_neg hValid]
    exact hZero

/-- Whether no code point of the run is moved to white space. -/
def CaseRun.IsApart (r : CaseRun) : Prop :=
  ∀ b ∈ blankRanges, r.last + r.shift < b.1 ∨ b.2 < r.first + r.shift

instance (r : CaseRun) : Decidable r.IsApart := List.decidableBAll _ blankRanges

theorem shiftBy_of_isApart {runs : List CaseRun} (hRuns : ∀ r ∈ runs, r.IsApart) {n : Nat}
    (h : ¬IsBlankCode n) : ¬IsBlankCode (shiftBy n runs) := by
  induction runs with
  | nil => exact h
  | cons r rs ih =>
    obtain ⟨hRun, hRest⟩ := List.forall_mem_cons.mp hRuns
    rw [shiftBy]
    split_ifs with hBelow hInside
    · exact h
    -- what the run holds is moved as a whole
    · rintro ⟨b, hb, hLow, hHigh⟩
      have hLast : n ≤ r.last := of_decide_eq_true (Bool.and_eq_true_iff.mp hInside).1
      have hApart := hRun b hb
      have hPositive : ∀ b ∈ blankRanges, 0 < b.1 := by decide
      have hb := hPositive b hb
      omega
    · exact ih hRest

/-- No character turns into white space or into nothing. -/
theorem isWord_mapCase {long : List (Nat × List Nat)} {runs : List CaseRun}
    (hLong : ∀ e ∈ long, e.2 ≠ [] ∧ ∀ n ∈ e.2, ¬IsBlankCode n) (hRuns : ∀ r ∈ runs, r.IsApart)
    {c : Char} (h : isBlank c = false) : IsWord (mapCase long runs c) := by
  have hCode : ¬IsBlankCode c.toNat := by rwa [← isBlank_iff, Bool.not_eq_true]
  rw [mapCase]
  split
  next image hImage =>
    obtain ⟨before, after, hEntries, -⟩ := List.lookup_eq_some_iff.mp hImage
    have hEntry : (c.toNat, image) ∈ long := by
      rw [hEntries]
      exact List.mem_append_right _ List.mem_cons_self
    obtain ⟨hSome, hCodes⟩ := hLong _ hEntry
    exact ⟨List.map_eq_nil_iff.not.mpr hSome, List.forall_mem_map.mpr fun n hn =>
      isBlank_ofNat (hCodes n hn)⟩
  · exact ⟨List.cons_ne_nil _ _, List.forall_mem_singleton.mpr
      (isBlank_ofNat (shiftBy_of_isApart hRuns hCode))⟩

theorem longUpper_isApart : ∀ e ∈ longUpper, e.2 ≠ [] ∧ ∀ n ∈ e.2, ¬IsBlankCode n := by
  decide +kernel

theorem upperRuns_isApart : ∀ r ∈ upperRuns, r.IsApart := by decide +kernel

/-- **Words in upper case** are words. -/
theorem IsWord.upper {w : List Char} (h : IsWord w) : IsWord (w.flatMap upperChar) := by
  have hChar : ∀ c ∈ w, IsWord (upperChar c) := fun c hc =>
    isWord_mapCase longUpper_isApart upperRuns_isApart (h.2 c hc)
  obtain ⟨c, cs, rfl⟩ := List.exists_cons_of_ne_nil h.1
  refine ⟨?_, fun d hd => ?_⟩
  · rw [List.flatMap_cons]
    exact List.append_ne_nil_of_left_ne_nil (hChar c List.mem_cons_self).1 _
  · obtain ⟨e, he, hd⟩ := List.mem_flatMap.mp hd
    exact (hChar e he).2 d hd

theorem flatMap_intercalate {α β : Type} (f : α → List β) (sep : List α) (xs : List (List α)) :
    (sep.intercalate xs).flatMap f =
      (sep.flatMap f).intercalate (xs.map fun x => x.flatMap f) := by
  induction xs with
  | nil => rfl
  | cons x xs ih =>
    cases xs with
    | nil => simp
    | cons y ys =>
      rw [List.intercalate_cons_cons, List.flatMap_append, List.flatMap_append, ih]
      exact (List.intercalate_cons_cons).symm

theorem toList_toUpper (s : String) : (toUpper s).toList = s.toList.flatMap upperChar := by
  rw [toUpper, String.toList_ofList]

/-- Single blanks stay what they are. -/
theorem toUpper_intercalate (ws : List String) :
    toUpper (" ".intercalate ws) = " ".intercalate (ws.map toUpper) := by
  have hBlank : " ".toList.flatMap upperChar = " ".toList := by decide +kernel
  refine String.toList_inj.mp ?_
  rw [toList_toUpper, String.toList_intercalate, String.toList_intercalate, flatMap_intercalate,
    hBlank, List.map_map, List.map_map]
  exact congrArg (List.intercalate " ".toList)
    (List.map_congr_left fun w _ => (toList_toUpper w).symm)

end PollRoster.Text
