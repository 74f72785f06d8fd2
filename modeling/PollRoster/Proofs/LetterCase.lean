import Mathlib.Data.List.Infix
import PollRoster.Text.LetterCase

/-!
# Lower case of a piece

A capital sigma is final if a cased letter stands before it and none after it. So its lower case
depends on what stands around it, and the lower case of a piece of a text need not occur in the
lower case of the text. It does if each capital sigma of the piece is final in the text exactly if
it is final in the piece.

When this is so in every text that has the piece can be read off the piece. The search for a cased
letter goes on past case-ignorable characters only: a side that has none but these is open, and
whatever comes next may decide. A sigma is settled if no open side matters.

Main results:

* `lowerFrom_append`, `lowerBetween_eq_lowerFrom_iff` — the lower case of a piece, and when it is
  that of the piece alone.
* `IsSettled.isFinalSigma_append`, `isSettled_of_eq` — what it is for a sigma to be settled.
* `lower_infix_iff` — the pieces whose lower case is found wherever they are.
-/

namespace PollRoster.Text

variable {α : Type*}

/-! ## The lower case of a piece -/

/-- Whether a capital sigma is final between the given characters; those before it are nearest
first. -/
def isFinalSigma (before after : List Char) : Bool :=
  startsCased before && !startsCased after

/-- The lower case of a character between the given ones. -/
def lowerAt (before : List Char) (c : Char) (after : List Char) : List Char :=
  if c = 'Σ' then [if isFinalSigma before after then 'ς' else 'σ'] else lowerChar c

/-- The lower case of a piece of a text, between the given characters. -/
def lowerBetween (before : List Char) : List Char → List Char → List Char
  | [], _ => []
  | c :: cs, after => lowerAt before c (cs ++ after) ++ lowerBetween (c :: before) cs after

variable {before before' after after' cs : List Char} {c : Char}

theorem lowerFrom_cons : lowerFrom before (c :: cs) =
    lowerAt before c cs ++ lowerFrom (c :: before) cs := rfl

/-- **Lower case by pieces**, each of them between the others. -/
theorem lowerFrom_append (before cs after : List Char) : lowerFrom before (cs ++ after) =
    lowerBetween before cs after ++ lowerFrom (cs.reverse ++ before) after := by
  induction cs generalizing before with
  | nil => rfl
  | cons c cs ih =>
    rw [List.cons_append, lowerFrom_cons, ih, lowerBetween, List.append_assoc, List.reverse_cons,
      List.append_assoc, List.singleton_append]

theorem lowerBetween_nil (before cs : List Char) :
    lowerBetween before cs [] = lowerFrom before cs := by
  have hAll := lowerFrom_append before cs []
  rw [List.append_nil, lowerFrom, List.append_nil] at hAll
  exact hAll.symm

theorem length_lowerAt (before before' after after' : List Char) (c : Char) :
    (lowerAt before c after).length = (lowerAt before' c after').length := by
  rw [lowerAt, lowerAt]
  split_ifs <;> rfl

theorem length_lowerBetween (before before' cs after after' : List Char) :
    (lowerBetween before cs after).length = (lowerBetween before' cs after').length := by
  induction cs generalizing before before' with
  | nil => rfl
  | cons c cs ih =>
    rw [lowerBetween, lowerBetween, List.length_append, List.length_append, ih _ (c :: before'),
      length_lowerAt before before']

/-- The two forms of the sigma are different characters. -/
theorem lowerAt_eq_iff : lowerAt before c after = lowerAt before' c after' ↔
    (c = 'Σ' → isFinalSigma before after = isFinalSigma before' after') := by
  rw [lowerAt, lowerAt]
  by_cases hSigma : c = 'Σ'
  · rw [if_pos hSigma, if_pos hSigma, List.singleton_inj]
    refine ⟨fun hForms _ => ?_, fun hFinal => by rw [hFinal hSigma]⟩
    cases hLeft : isFinalSigma before after <;> cases hRight : isFinalSigma before' after' <;>
      simp [hLeft, hRight] at hForms ⊢
  · rw [if_neg hSigma, if_neg hSigma]
    exact iff_of_true rfl fun h => absurd h hSigma

/-- Whether `P` holds, for each capital sigma, of what stands before and after it. -/
def EachSigma (P : List Char → List Char → Prop) (before : List Char) : List Char → Prop
  | [] => True
  | c :: cs => (c = 'Σ' → P before cs) ∧ EachSigma P (c :: before) cs

instance EachSigma.decidable (P : List Char → List Char → Prop) [∀ l r, Decidable (P l r)] :
    ∀ before cs, Decidable (EachSigma P before cs)
  | _, [] => .isTrue trivial
  | before, c :: cs =>
    have := EachSigma.decidable P (c :: before) cs
    inferInstanceAs (Decidable (_ ∧ _))

theorem EachSigma.mono {P Q : List Char → List Char → Prop} (hPQ : ∀ l r, P l r → Q l r)
    (h : EachSigma P before cs) : EachSigma Q before cs := by
  induction cs generalizing before with
  | nil => trivial
  | cons c cs ih => exact ⟨fun hSigma => hPQ _ _ (h.1 hSigma), ih h.2⟩

theorem EachSigma.and {P Q : List Char → List Char → Prop} (hP : EachSigma P before cs)
    (hQ : EachSigma Q before cs) : EachSigma (fun l r => P l r ∧ Q l r) before cs := by
  induction cs generalizing before with
  | nil => trivial
  | cons c cs ih => exact ⟨fun hSigma => ⟨hP.1 hSigma, hQ.1 hSigma⟩, ih hP.2 hQ.2⟩

theorem eachSigma_of_not_mem {P : List Char → List Char → Prop} (h : 'Σ' ∉ cs) :
    EachSigma P before cs := by
  induction cs generalizing before with
  | nil => trivial
  | cons c cs ih =>
    rw [List.mem_cons, not_or] at h
    exact ⟨fun hSigma => absurd hSigma.symm h.1, ih h.2⟩

/-- Whether each capital sigma of a piece is final in the text exactly if it is in the piece. -/
def KeepsSigmas (before cs after : List Char) : Prop :=
  EachSigma (fun l r => isFinalSigma (l ++ before) (r ++ after) = isFinalSigma l r) [] cs

instance (before cs after : List Char) : Decidable (KeepsSigmas before cs after) :=
  inferInstanceAs (Decidable (EachSigma _ _ _))

/-- **The lower case of a piece** is that of the piece alone exactly if all sigmas are final as
there. -/
theorem lowerBetween_eq_lowerFrom_iff :
    lowerBetween before cs after = lowerFrom [] cs ↔ KeepsSigmas before cs after := by
  -- both sides are read on together, over what the piece has in front already
  have hRead : ∀ front, lowerBetween (front ++ before) cs after = lowerFrom front cs ↔
      EachSigma (fun l r => isFinalSigma (l ++ before) (r ++ after) = isFinalSigma l r)
        front cs := by
    induction cs with
    | nil => exact fun front => iff_of_true rfl trivial
    | cons c cs ih =>
      intro front
      rw [lowerBetween, lowerFrom_cons, EachSigma, ← ih, ← lowerAt_eq_iff]
      refine ⟨fun h => List.append_inj h (length_lowerAt _ _ _ _ c), ?_⟩
      rintro ⟨hHead, hRest⟩
      rw [hHead, ← hRest]
      rfl
  exact hRead []

/-- A piece whose sigmas are final as in the piece alone has its lower case in that of the text. -/
theorem KeepsSigmas.lower_infix (h : KeepsSigmas before.reverse cs after) :
    lowerFrom [] cs <:+: lowerFrom [] (before ++ (cs ++ after)) := by
  rw [lowerFrom_append, lowerFrom_append, List.append_nil, lowerBetween_eq_lowerFrom_iff.mpr h,
    ← List.append_assoc]
  exact List.infix_append _ _ _

/-! ## Settled sigmas -/

/-- Whether the search for a cased letter goes on past the given characters. -/
def IsOpen (cs : List Char) : Prop := ∀ c ∈ cs, inRanges c.toNat caseIgnorableRanges

instance (cs : List Char) : Decidable (IsOpen cs) := List.decidableBAll _ cs

/-- Whether it is settled, whatever is further off, if a capital sigma is final: either a cased
letter follows, or the side before it is not open, nor the side after it if the one before calls for
the final form. -/
def IsSettled (before after : List Char) : Prop :=
  startsCased after ∨ ¬IsOpen before ∧ (startsCased before → ¬IsOpen after)

instance (before after : List Char) : Decidable (IsSettled before after) :=
  inferInstanceAs (Decidable (_ ∨ _))

theorem startsCased_append_of_isOpen (h : IsOpen cs) (after : List Char) :
    startsCased (cs ++ after) = startsCased after := by
  induction cs with
  | nil => rfl
  | cons c cs ih =>
    obtain ⟨hHead, hRest⟩ := List.forall_mem_cons.mp h
    rw [List.cons_append, startsCased, if_pos hHead, ih hRest]

theorem startsCased_of_isOpen (h : IsOpen cs) : startsCased cs = false := by
  have hNothing := startsCased_append_of_isOpen h []
  rwa [List.append_nil] at hNothing

theorem startsCased_append_of_not_isOpen (h : ¬IsOpen cs) (after : List Char) :
    startsCased (cs ++ after) = startsCased cs := by
  induction cs with
  | nil => exact absurd (fun _ hc => absurd hc List.not_mem_nil) h
  | cons c cs ih =>
    rw [List.cons_append, startsCased, startsCased]
    by_cases hHead : inRanges c.toNat caseIgnorableRanges
    · rw [if_pos hHead, if_pos hHead]
      exact ih fun hRest => h (List.forall_mem_cons.mpr ⟨hHead, hRest⟩)
    · rw [if_neg hHead, if_neg hHead]

theorem not_isOpen_of_startsCased (h : startsCased cs) : ¬IsOpen cs := by
  intro hOpen
  rw [startsCased_of_isOpen hOpen] at h
  cases h

/-- **A settled sigma** is final or not whatever its sides are continued with. -/
theorem IsSettled.isFinalSigma_append (h : IsSettled before after) (left right : List Char) :
    isFinalSigma (before ++ left) (after ++ right) = isFinalSigma before after := by
  rcases h with hAfter | ⟨hBefore, hCalls⟩
  -- before a cased letter it is not final, whatever stands in front
  · rw [isFinalSigma, startsCased_append_of_not_isOpen (not_isOpen_of_startsCased hAfter),
      isFinalSigma, hAfter, Bool.not_true, Bool.and_false, Bool.and_false]
  · rw [isFinalSigma, startsCased_append_of_not_isOpen hBefore, isFinalSigma]
    cases hCased : startsCased before with
    | false => rw [Bool.false_and, Bool.false_and]
    | true => rw [startsCased_append_of_not_isOpen (hCalls hCased)]

/-- A sigma is settled if a cased letter on either side makes no difference. -/
theorem isSettled_of_eq {a b : Char} (ha : startsCased [a]) (hb : startsCased [b])
    (hRight : isFinalSigma before (after ++ [a]) = isFinalSigma before after)
    (hLeft : isFinalSigma (before ++ [b]) after = isFinalSigma before after) :
    IsSettled before after := by
  cases hAfter : startsCased after with
  | true => exact .inl hAfter
  | false =>
    refine .inr ⟨fun hOpen => ?_, fun hBefore hOpen => ?_⟩
    -- open before it, `b` makes it final
    · rw [isFinalSigma, startsCased_append_of_isOpen hOpen, hb, isFinalSigma,
        startsCased_of_isOpen hOpen, hAfter] at hLeft
      cases hLeft
    -- open after it, `a` makes it an inner one
    · rw [isFinalSigma, startsCased_append_of_isOpen hOpen, ha, isFinalSigma, hBefore,
        hAfter] at hRight
      cases hRight

/-! ## Pieces that are found everywhere -/

theorem eq_of_infix_cons {xs ys : List α} {a : α} (hLength : xs.length = ys.length)
    (hHead : xs.head? ≠ some a) (h : xs <:+: a :: ys) : xs = ys := by
  rcases List.infix_cons_iff.mp h with hPrefix | hInfix
  · rcases List.prefix_cons_iff.mp hPrefix with rfl | ⟨rest, rfl, -⟩
    · exact (List.length_eq_zero_iff.mp hLength.symm).symm
    · exact absurd rfl hHead
  · exact hInfix.eq_of_length hLength

theorem eq_of_infix_concat {xs ys : List α} {a : α} (hLength : xs.length = ys.length)
    (hLast : xs.getLast? ≠ some a) (h : xs <:+: ys ++ [a]) : xs = ys := by
  rw [← List.reverse_infix, List.reverse_concat] at h
  refine List.reverse_injective (eq_of_infix_cons ?_ ?_ h)
  · rw [List.length_reverse, List.length_reverse, hLength]
  · rwa [List.head?_reverse]

/-- There is a cased letter in lower case other than a given character. -/
theorem exists_cased_ne (x : Option Char) : ∃ c, startsCased [c] ∧
    (∀ before after, lowerBetween before [c] after = [c]) ∧ x ≠ some c := by
  have hLower : ∀ c, c ≠ 'Σ' → lowerChar c = [c] →
      ∀ before after, lowerBetween before [c] after = [c] := by
    intro c hSigma hChar before after
    rw [lowerBetween, lowerAt, if_neg hSigma, hChar, lowerBetween, List.append_nil]
  by_cases hx : x = some 'a'
  · refine ⟨'b', by decide +kernel, hLower 'b' (by decide) (by decide +kernel), ?_⟩
    rw [hx]
    decide
  · exact ⟨'a', by decide +kernel, hLower 'a' (by decide) (by decide +kernel), hx⟩

/-- **Pieces found everywhere.** The lower case of a piece occurs in that of each text that has the
piece exactly if all capital sigmas of the piece are settled in it. -/
theorem lower_infix_iff (cs : List Char) :
    (∀ text, cs <:+: text → lowerFrom [] cs <:+: lowerFrom [] text) ↔
      EachSigma IsSettled [] cs := by
  constructor
  · intro hFound
    -- one cased letter put after the piece and one put before it
    obtain ⟨a, ha, hLowerA, hLast⟩ := exists_cased_ne (lowerFrom [] cs).getLast?
    obtain ⟨b, hb, hLowerB, hFirst⟩ := exists_cased_ne (lowerFrom [] cs).head?
    have hRight : KeepsSigmas [] cs [a] := by
      have hInfix := hFound (cs ++ [a]) (List.prefix_append cs [a]).isInfix
      -- the lower case of the piece does not end with `a`, so it is found in front of it
      rw [lowerFrom_append, ← lowerBetween_nil _ [a], hLowerA] at hInfix
      refine lowerBetween_eq_lowerFrom_iff.mp (eq_of_infix_concat ?_ hLast hInfix).symm
      rw [← lowerBetween_nil]
      exact length_lowerBetween _ _ _ _ _
    have hLeft : KeepsSigmas [b] cs [] := by
      have hInfix := hFound (b :: cs) (List.suffix_cons b cs).isInfix
      rw [← List.singleton_append, lowerFrom_append, hLowerB] at hInfix
      rw [← lowerBetween_eq_lowerFrom_iff, lowerBetween_nil]
      refine (eq_of_infix_cons ?_ hFirst hInfix).symm
      rw [← lowerBetween_nil, ← lowerBetween_nil]
      exact length_lowerBetween _ _ _ _ _
    refine (hRight.and hLeft).mono fun l r h => ?_
    rw [List.append_nil, List.append_nil] at h
    exact isSettled_of_eq ha hb h.1 h.2
  -- around the piece may be anything, and no sigma of it takes notice
  · rintro hSettled text ⟨left, right, rfl⟩
    have hKept : KeepsSigmas left.reverse cs right :=
      hSettled.mono fun l r h => h.isFinalSigma_append left.reverse right
    rw [List.append_assoc]
    exact hKept.lower_infix

-- at the end of a piece the sigma is open to what comes next, before a number it is not
example : EachSigma IsSettled [] "ΟΔΟΣ 5".toList ∧ ¬EachSigma IsSettled [] "ΟΔΟΣ".toList := by
  decide +kernel

/-- A piece without a capital sigma is found everywhere. -/
theorem lower_infix_of_not_mem {text : List Char} (hSigma : 'Σ' ∉ cs) (h : cs <:+: text) :
    lowerFrom [] cs <:+: lowerFrom [] text :=
  (lower_infix_iff cs).mpr (eachSigma_of_not_mem hSigma) text h

end PollRoster.Text
