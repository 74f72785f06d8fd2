import Mathlib.Data.List.Chain
import Mathlib.Tactic.IntervalCases
import PollRoster.Json.Token
import PollRoster.Json.Writer

/-!
# How JSON is spelled

A value has many texts: white space may stand between two tokens, and a character of a literal may
stand for itself or be escaped. The tokens of a value are the same in all of them.

Main result: `tokens_of_spells` — a text that spells a value is cut into the tokens of that value.
-/

namespace PollRoster.Json

/-! ## Spellings -/

/-- The letters that name a character behind a backslash. -/
def letterEscapes : List (Char × Char) :=
  [('"', '"'), ('\\', '\\'), ('/', '/'), ('b', '\x08'), ('f', '\x0c'), ('n', '\n'), ('r', '\r'),
    ('t', '\t')]

/-- How a character of a literal may be spelled. -/
inductive SpellsChar : Char → List Char → Prop
  | itself (hControl : 0x20 ≤ c.toNat) (hQuote : c ≠ '"') (hSlash : c ≠ '\\') : SpellsChar c [c]
  | letter (h : (letter, c) ∈ letterEscapes) : SpellsChar c ['\\', letter]
  | unit (h : c.toNat < 0x10000) : SpellsChar c (unitEscape c.toNat)
  | pair (h : 0x10000 ≤ c.toNat) :
    SpellsChar c (unitEscape (0xD800 + (c.toNat - 0x10000) / 0x400) ++
      unitEscape (0xDC00 + (c.toNat - 0x10000) % 0x400))

inductive SpellsChars : List Char → List Char → Prop
  | nil : SpellsChars [] []
  | cons (hChar : SpellsChar c spelled) (hRest : SpellsChars cs rest) :
    SpellsChars (c :: cs) (spelled ++ rest)

/-- How a token may be spelled. Integers have as many digits as they need. -/
inductive SpellsToken : Token → List Char → Prop
  | beginArray : SpellsToken .beginArray ['[']
  | endArray : SpellsToken .endArray [']']
  | beginObject : SpellsToken .beginObject ['\x7b']
  | endObject : SpellsToken .endObject ['\x7d']
  | comma : SpellsToken .comma [',']
  | colon : SpellsToken .colon [':']
  | null : SpellsToken (.atom .null) ['n', 'u', 'l', 'l']
  | true : SpellsToken (.atom (.bool true)) ['t', 'r', 'u', 'e']
  | false : SpellsToken (.atom (.bool false)) ['f', 'a', 'l', 's', 'e']
  | integer (h : minId ≤ i ∧ i ≤ maxCount) : SpellsToken (.atom (.integer i)) (writeInteger i)
  | text (h : SpellsChars s.toList spelled) :
    SpellsToken (.text (some s)) ('"' :: (spelled ++ ['"']))

def isSpace (c : Char) : Bool := c ∈ [' ', '\t', '\n', '\r']

/-- How tokens may be spelled: with white space in front of each of them and behind the last. -/
inductive SpellsTokens : List Token → List Char → Prop
  | nil (hSpace : ∀ c ∈ space, isSpace c) : SpellsTokens [] space
  | cons (hSpace : ∀ c ∈ space, isSpace c) (hToken : SpellsToken t spelled)
    (hRest : SpellsTokens ts rest) : SpellsTokens (t :: ts) (space ++ (spelled ++ rest))

/-- The token of a value that is neither array nor object. -/
def scalarToken : Json → Token
  | .text s => .text s
  | value => .atom value

mutual

/-- The tokens of a value. -/
def tokensOf : Json → List Token
  | .array items => .beginArray :: (tokensOfItems items ++ [.endArray])
  | .object members => .beginObject :: (tokensOfMembers members ++ [.endObject])
  | value => [scalarToken value]

def tokensOfItems : List Json → List Token
  | [] => []
  | [value] => tokensOf value
  | value :: rest => tokensOf value ++ .comma :: tokensOfItems rest

def tokensOfMembers : List (Option String × Json) → List Token
  | [] => []
  | [(key, value)] => .text key :: .colon :: tokensOf value
  | (key, value) :: rest =>
    .text key :: .colon :: (tokensOf value ++ .comma :: tokensOfMembers rest)

end

/-- A text of a value. -/
def Spells (value : Json) (text : String) : Prop := SpellsTokens (tokensOf value) text.toList

/-! ## Values by structure -/

/-- Whether a value is neither array nor object. -/
def IsScalar : Json → Prop
  | .array _ | .object _ => False
  | _ => True

/-- Induction on a value: on its items or on the values of its members. -/
theorem induct {P : Json → Prop} (scalar : ∀ value, IsScalar value → P value)
    (array : ∀ items, (∀ value ∈ items, P value) → P (.array items))
    (object : ∀ members, (∀ m ∈ members, P m.2) → P (.object members)) (value : Json) :
    P value := by
  refine Json.rec (motive_1 := P) (motive_2 := fun items => ∀ value ∈ items, P value)
    (motive_3 := fun members => ∀ m ∈ members, P m.2) (motive_4 := fun m => P m.2)
    (scalar _ trivial) (fun _ => scalar _ trivial) (fun _ => scalar _ trivial)
    (fun _ => scalar _ trivial) (scalar _ trivial) (fun _ => scalar _ trivial) array object
    (scalar _ trivial) ?_ ?_ ?_ ?_ (fun _ _ hValue => hValue) value
  · exact fun _ h => nomatch h
  · exact fun _ _ hHead hTail => List.forall_mem_cons.mpr ⟨hHead, hTail⟩
  · exact fun _ h => nomatch h
  · exact fun _ _ hHead hTail => List.forall_mem_cons.mpr ⟨hHead, hTail⟩

theorem tokensOf_of_isScalar {value : Json} (h : IsScalar value) :
    tokensOf value = [scalarToken value] := by
  cases value with
  | array => exact h.elim
  | object => exact h.elim
  | _ => rfl

/-! ## Characters of a literal -/

theorem hexValue?_hexDigit : ∀ n < 16, hexValue? (hexDigit n) = some n := by decide

/-- A hexadecimal digit is read on to the unit that an escape names. -/
theorem tokensFrom_unicode_hexDigit (units : List Nat) {left : Nat} (hLeft : 1 < left)
    (value : Nat) {n : Nat} (h : n < 16) (rest : List Char) :
    tokensFrom (.unicode units left value) (hexDigit n :: rest) =
      tokensFrom (.unicode units (left - 1) (16 * value + n)) rest := by
  rw [tokensFrom, Mode.step, hexValue?_hexDigit n h]
  simp only [show ¬ left ≤ 1 from by omega, if_false, List.nil_append]

theorem tokensFrom_unicode_last (units : List Nat) (value : Nat) {n : Nat} (h : n < 16)
    (rest : List Char) :
    tokensFrom (.unicode units 1 value) (hexDigit n :: rest) =
      tokensFrom (.literal ((16 * value + n) :: units)) rest := by
  rw [tokensFrom, Mode.step, hexValue?_hexDigit n h]
  rfl

theorem tokensFrom_literal_unitEscape (units : List Nat) {u : Nat} (h : u < 0x10000)
    (rest : List Char) :
    tokensFrom (.literal units) (unitEscape u ++ rest) =
      tokensFrom (.literal (u :: units)) rest := by
  have hStart : tokensFrom (.literal units) (unitEscape u ++ rest) =
      tokensFrom (.unicode units 4 0) (hexDigit (u / 4096 % 16) :: hexDigit (u / 256 % 16) ::
        hexDigit (u / 16 % 16) :: hexDigit (u % 16) :: rest) := rfl
  have hUnit : 16 * (16 * (16 * (16 * 0 + u / 4096 % 16) + u / 256 % 16) + u / 16 % 16) + u % 16 =
      u := by omega
  rw [hStart, tokensFrom_unicode_hexDigit _ (by decide) _ (by omega),
    tokensFrom_unicode_hexDigit _ (by decide) _ (by omega),
    tokensFrom_unicode_hexDigit _ (by decide) _ (by omega),
    tokensFrom_unicode_last _ _ (by omega), hUnit]

/-- A character that is one unit is read back from it. -/
theorem joinUnits_toNat_cons (c : Char) (later : List Nat) :
    joinUnits (c.toNat :: later) = (joinUnits later).map (c :: ·) := by
  have hValid : c.toNat < 0xD800 ∨ 0xDFFF < c.toNat ∧ c.toNat < 0x110000 := c.valid
  rw [joinUnits.eq_def]
  dsimp only
  rw [illFormedUnit, if_neg (by omega), if_neg (by omega), if_neg (by omega), Char.ofNat_toNat]

/-- A character beyond the first plane is read back from the two halves of its pair. -/
theorem joinUnits_pair_cons {c : Char} (h : 0x10000 ≤ c.toNat) (later : List Nat) :
    joinUnits ((0xD800 + (c.toNat - 0x10000) / 0x400) ::
      (0xDC00 + (c.toNat - 0x10000) % 0x400) :: later) = (joinUnits later).map (c :: ·) := by
  have hValid : c.toNat < 0xD800 ∨ 0xDFFF < c.toNat ∧ c.toNat < 0x110000 := c.valid
  have hNumber : 0x10000 + (0xD800 + (c.toNat - 0x10000) / 0x400 - 0xD800) * 0x400 +
      (0xDC00 + (c.toNat - 0x10000) % 0x400 - 0xDC00) = c.toNat := by omega
  simp only [joinUnits, hNumber, Char.ofNat_toNat]
  rw [if_pos (by omega), if_pos (by omega)]

/-- The units that a spelled character leaves in the literal, and what they are read back as. -/
theorem exists_units_of_spellsChar (h : SpellsChar c spelled) :
    ∃ us, (∀ units rest, tokensFrom (.literal units) (spelled ++ rest) =
        tokensFrom (.literal (us.reverse ++ units)) rest) ∧
      ∀ later, joinUnits (us ++ later) = (joinUnits later).map (c :: ·) := by
  cases h with
  | itself hControl hQuote hSlash =>
    refine ⟨[c.toNat], fun units rest => ?_, joinUnits_toNat_cons c⟩
    rw [List.singleton_append, tokensFrom, Mode.step, if_neg hQuote, if_neg hSlash,
      if_neg (Nat.not_lt.mpr hControl)]
    rfl
  | letter hLetter =>
    refine ⟨[c.toNat], fun units rest => ?_, joinUnits_toNat_cons c⟩
    simp only [letterEscapes, List.mem_cons, Prod.mk.injEq, List.not_mem_nil, or_false] at hLetter
    obtain h | h | h | h | h | h | h | h := hLetter <;> obtain ⟨rfl, rfl⟩ := h <;> rfl
  | unit hUnit =>
    exact ⟨[c.toNat], fun units rest => tokensFrom_literal_unitEscape units hUnit rest,
      joinUnits_toNat_cons c⟩
  | pair hPair =>
    have hValid : c.toNat < 0xD800 ∨ 0xDFFF < c.toNat ∧ c.toNat < 0x110000 := c.valid
    refine ⟨[_, _], fun units rest => ?_, joinUnits_pair_cons hPair⟩
    rw [List.append_assoc, tokensFrom_literal_unitEscape _ (by omega),
      tokensFrom_literal_unitEscape _ (by omega)]
    rfl

theorem exists_units_of_spellsChars (h : SpellsChars cs spelled) :
    ∃ us, (∀ units rest, tokensFrom (.literal units) (spelled ++ rest) =
        tokensFrom (.literal (us.reverse ++ units)) rest) ∧ joinUnits us = some cs := by
  induction h with
  | nil => exact ⟨[], fun _ _ => rfl, rfl⟩
  | cons hChar _ ih =>
    obtain ⟨us, hRead, hJoin⟩ := exists_units_of_spellsChar hChar
    obtain ⟨later, hReadLater, hJoinLater⟩ := ih
    refine ⟨us ++ later, fun units rest => ?_, ?_⟩
    · rw [List.append_assoc, hRead, hReadLater, List.reverse_append, List.append_assoc]
    · rw [hJoin, hJoinLater, Option.map_some]

/-- A spelled literal is read back up to the quote that ends it. -/
theorem tokensFrom_literal_of_spellsChars (h : SpellsChars cs spelled) (rest : List Char) :
    tokensFrom (.literal []) (spelled ++ '"' :: rest) =
      .text (some (String.ofList cs)) :: tokensFrom .between rest := by
  obtain ⟨us, hRead, hJoin⟩ := exists_units_of_spellsChars h
  rw [hRead, List.append_nil, tokensFrom, Mode.step, if_pos rfl, List.reverse_reverse, hJoin]
  rfl

/-! ## Integers -/

namespace Numeral

/-- A number of which at most the sign has been read. -/
def signed (negative : Bool) : Numeral := ⟨.sign, negative, 0, 0, false, false, 0⟩

/-- A whole number as it stands once its last digit has been read. -/
def whole (negative : Bool) (n : Nat) : Numeral :=
  ⟨if n = 0 then .zero else .whole, negative, n, 0, false, false, 0⟩

theorem digit?_digitChar : ∀ d < 10, digit? (Nat.digitChar d) = some d := by decide

theorem push?_signed (negative : Bool) {d : Nat} (h : d < 10) :
    (signed negative).push? (Nat.digitChar d) = some (whole negative d) := by
  interval_cases d <;> rfl

theorem push?_whole (negative : Bool) {n d : Nat} (hPositive : 0 < n) (hDigit : d < 10)
    (hRoom : 10 * n + d ≤ maxCount) :
    (whole negative n).push? (Nat.digitChar d) = some (whole negative (10 * n + d)) := by
  have hStage (m : Nat) (hm : 0 < m) :
      whole negative m = ⟨.whole, negative, m, 0, false, false, 0⟩ := by
    rw [whole, if_neg (by omega)]
  rw [hStage n hPositive, hStage _ (by omega), push?, digit?_digitChar d hDigit]
  simp only [pushDigit, Bool.false_or, decide_eq_true_eq, if_neg (Nat.not_lt.mpr hRoom)]
  rfl

/-- The digits of a number that 64 bits hold are read to that number. -/
theorem foldlM_push?_toDigits (negative : Bool) {n : Nat} (h : n ≤ maxCount) :
    (Nat.toDigits 10 n).foldlM push? (signed negative) = some (whole negative n) := by
  -- the last digit is read last
  induction n using Nat.strongRecOn with
  | ind n ih =>
    by_cases hShort : n < 10
    · rw [Nat.toDigits_of_lt_base hShort, List.foldlM_cons, push?_signed negative hShort]
      rfl
    · have hFront := ih (n / 10) (by omega) (by omega)
      have hSplit : 10 * (n / 10) + n % 10 = n := Nat.div_add_mod n 10
      have hLast := push?_whole negative (n := n / 10) (d := n % 10) (by omega) (by omega)
        (by omega)
      rw [Nat.toDigits_of_base_le (by decide) (by omega), List.foldlM_append, hFront]
      rw [hSplit] at hLast
      simpa using hLast

theorem value?_whole {negative : Bool} {n : Nat} (hSign : negative → n ≠ 0 ∧ minId ≤ -(n : Int)) :
    (whole negative n).value? = some (.integer (if negative then -n else n)) := by
  have hNarrow : (negative && (n == 0 || decide (-(n : Int) < minId))) = false := by
    cases negative with
    | false => rfl
    | true =>
      obtain ⟨hZero, hLow⟩ := hSign rfl
      simp [hZero, hLow]
  have hValue (stage : Stage) (h : stage = .zero ∨ stage = .whole) :
      value? ⟨stage, negative, n, 0, false, false, 0⟩ =
        some (.integer (if negative then -n else n)) := by
    obtain rfl | rfl := h <;>
      simp only [value?, hNarrow, Bool.false_or, Bool.false_eq_true, if_false]
  exact hValue _ (by split <;> simp)

/-- A number without a sign starts with its first digit. -/
theorem start?_of_push? (h : (signed false).push? c = some n) : start? c = some n := by
  rw [start?, if_neg ?_]
  · exact h
  · rintro rfl
    exact nomatch h

end Numeral

theorem tokensFrom_number (h : cs.foldlM Numeral.push? n = some m) (rest : List Char) :
    tokensFrom (.number n) (cs ++ rest) = tokensFrom (.number m) rest := by
  induction cs generalizing n with
  | nil =>
    obtain rfl : n = m := Option.some.inj h
    rfl
  | cons c cs ih =>
    rw [List.foldlM_cons] at h
    obtain ⟨next, hNext, hRest⟩ := Option.bind_eq_some_iff.mp h
    rw [List.cons_append, tokensFrom, Mode.step, hNext]
    exact ih hRest

/-- A character that can start a number begins no other token. -/
theorem begin_of_start? (h : Numeral.start? c = some n) : Mode.begin c = ([], .number n) := by
  unfold Mode.begin
  split
  case h_15 => rw [h]
  all_goals exact nomatch h

/-- The characters that can stand behind a number in a text that goes on. -/
def isDelimiter (c : Char) : Bool := c ∈ [' ', '\t', '\n', '\r', ',', ']', '\x7d']

/-- A delimiter neither continues a number nor spoils it. -/
theorem push?_of_isDelimiter (h : isDelimiter c) (negative : Bool) (n : Nat) :
    (Numeral.whole negative n).push? c = none ∧ (Numeral.whole negative n).spoils c = false := by
  have hOther : Numeral.digit? c = none ∧ c ≠ '.' ∧ ¬ (c = 'e' ∨ c = 'E') := by
    have hAll : ∀ d ∈ [' ', '\t', '\n', '\r', ',', ']', '\x7d'],
        Numeral.digit? d = none ∧ d ≠ '.' ∧ ¬ (d = 'e' ∨ d = 'E') := by
      simp [Numeral.digit?]
    exact hAll c (of_decide_eq_true h)
  obtain ⟨hDigit, hPoint, hMark⟩ := hOther
  by_cases hn : n = 0 <;>
    simp [Numeral.whole, Numeral.push?, Numeral.spoils, hn, hDigit, hPoint, hMark]

/-- A number may end in front of the given characters. -/
def EndsNumber (rest : List Char) : Prop := ∀ c ∈ rest.head?, isDelimiter c

theorem endsNumber_cons (h : isDelimiter c) (rest : List Char) : EndsNumber (c :: rest) := by
  intro d hd
  obtain rfl : c = d := Option.some.inj hd
  exact h

theorem tokensFrom_number_whole {negative : Bool} {n : Nat}
    (hSign : negative → n ≠ 0 ∧ minId ≤ -(n : Int)) (hEnd : EndsNumber rest) :
    tokensFrom (.number (.whole negative n)) rest =
      .atom (.integer (if negative then -n else n)) :: tokensFrom .between rest := by
  have hValue := Numeral.value?_whole hSign
  cases rest with
  | nil => rw [tokensFrom, Mode.finish, hValue]; rfl
  | cons c cs =>
    obtain ⟨hPush, hSpoils⟩ := push?_of_isDelimiter (hEnd c rfl) negative n
    rw [tokensFrom, Mode.step, hPush, hValue]
    simp only [hSpoils]
    rfl

theorem tokensFrom_writeInteger (h : minId ≤ i ∧ i ≤ maxCount) (hEnd : EndsNumber rest) :
    tokensFrom .between (writeInteger i ++ rest) =
      .atom (.integer i) :: tokensFrom .between rest := by
  obtain ⟨hLow, hHigh⟩ := h
  have hRoom : i.natAbs ≤ maxCount := by
    simp only [minId, maxCount] at hLow hHigh ⊢
    omega
  by_cases hNegative : i < 0
  · have hStart : tokensFrom .between (writeInteger i ++ rest) =
        tokensFrom (.number (.signed true)) (Nat.toDigits 10 i.natAbs ++ rest) := by
      rw [writeInteger, if_pos hNegative]
      rfl
    rw [hStart, tokensFrom_number (Numeral.foldlM_push?_toDigits true hRoom),
      tokensFrom_number_whole (fun _ => ⟨by omega, by omega⟩) hEnd, if_pos rfl]
    congr
    omega
  · have hDigits := Numeral.foldlM_push?_toDigits false hRoom
    rw [writeInteger, if_neg hNegative]
    cases hText : Nat.toDigits 10 i.natAbs with
    | nil => exact absurd hText Nat.toDigits_ne_nil
    | cons c cs =>
      rw [hText, List.foldlM_cons] at hDigits
      obtain ⟨first, hFirst, hRest⟩ := Option.bind_eq_some_iff.mp hDigits
      have hBegin := begin_of_start? (Numeral.start?_of_push? hFirst)
      rw [List.cons_append, tokensFrom, Mode.step, hBegin, List.nil_append,
        tokensFrom_number hRest, tokensFrom_number_whole (by simp) hEnd, if_neg Bool.false_ne_true]
      congr
      omega

/-! ## Tokens -/

/-- Whether the token may stand behind a finished value. -/
def Token.isDivider : Token → Bool
  | .comma | .endArray | .endObject => true
  | _ => false

/-- What a token needs of the next: a number or word stands in front of a divider. -/
def Token.Precedes (t u : Token) : Prop := (∃ value, t = .atom value) → u.isDivider

/-- One spelled token is cut off the text. -/
theorem tokensFrom_of_spellsToken (h : SpellsToken t spelled)
    (hEnd : (∃ value, t = .atom value) → EndsNumber rest) :
    tokensFrom .between (spelled ++ rest) = t :: tokensFrom .between rest := by
  cases h with
  | integer hBounds => exact tokensFrom_writeInteger hBounds (hEnd ⟨_, rfl⟩)
  | text hText =>
    rw [List.cons_append, List.append_assoc]
    exact (tokensFrom_literal_of_spellsChars hText rest).trans (by rw [String.ofList_toList])
  | _ => rfl

theorem begin_of_isSpace (h : isSpace c) : Mode.begin c = ([], .between) := by
  have hAll : ∀ d ∈ [' ', '\t', '\n', '\r'], Mode.begin d = ([], .between) := by
    simp [Mode.begin]
  exact hAll c (of_decide_eq_true h)

theorem isDelimiter_of_isSpace (h : isSpace c) : isDelimiter c := by
  have hAll : ∀ d ∈ [' ', '\t', '\n', '\r'], isDelimiter d := by simp [isDelimiter]
  exact hAll c (of_decide_eq_true h)

theorem tokensFrom_space (h : ∀ c ∈ space, isSpace c) (rest : List Char) :
    tokensFrom .between (space ++ rest) = tokensFrom .between rest := by
  induction space with
  | nil => rfl
  | cons c space ih =>
    obtain ⟨hc, hSpace⟩ := List.forall_mem_cons.mp h
    rw [List.cons_append, tokensFrom, Mode.step, begin_of_isSpace hc]
    exact ih hSpace

/-- White space, or a spelled divider behind it, ends a number. -/
theorem endsNumber_of_spellsTokens (h : SpellsTokens ts rest)
    (hDivider : ∀ t ∈ ts.head?, t.isDivider) : EndsNumber rest := by
  have hSpaced {space later : List Char} (hSpace : ∀ c ∈ space, isSpace c)
      (hLater : EndsNumber later) : EndsNumber (space ++ later) := by
    cases space with
    | nil => exact hLater
    | cons c space =>
      exact endsNumber_cons (isDelimiter_of_isSpace (hSpace c List.mem_cons_self)) _
  cases h with
  | nil hSpace =>
    have hEnd : EndsNumber [] := nofun
    simpa using hSpaced hSpace hEnd
  | cons hSpace hToken _ =>
    refine hSpaced hSpace ?_
    have hHead := hDivider _ rfl
    cases hToken with
    | comma | endArray | endObject => exact endsNumber_cons (by decide) _
    | _ => exact absurd hHead Bool.false_ne_true

/-- Spelled tokens are cut apart again. -/
theorem tokensFrom_of_spellsTokens (h : SpellsTokens ts spelled)
    (hOrder : ts.IsChain Token.Precedes) : tokensFrom .between spelled = ts := by
  induction h with
  | nil hSpace => simpa [tokensFrom, Mode.finish] using tokensFrom_space hSpace []
  | cons hSpace hToken hRest ih =>
    obtain ⟨hNext, hOrder⟩ := List.isChain_cons.mp hOrder
    rw [tokensFrom_space hSpace, tokensFrom_of_spellsToken hToken, ih hOrder]
    exact fun hAtom => endsNumber_of_spellsTokens hRest fun u hu => hNext u hu hAtom

/-! ## Values -/

theorem isChain_append_divider (hFront : ts.IsChain Token.Precedes) (hDivider : u.isDivider)
    (hBack : (u :: us).IsChain Token.Precedes) : (ts ++ u :: us).IsChain Token.Precedes := by
  refine List.isChain_append.mpr ⟨hFront, hBack, ?_⟩
  intro _ _ v hv _
  obtain rfl : u = v := Option.some.inj hv
  exact hDivider

theorem isChain_cons_of_not_atom (h : ∀ value, t ≠ .atom value)
    (hRest : ts.IsChain Token.Precedes) : (t :: ts).IsChain Token.Precedes :=
  List.isChain_cons.mpr ⟨fun _ _ ⟨value, hAtom⟩ => absurd hAtom (h value), hRest⟩

theorem isChain_tokensOfItems (h : ∀ value ∈ items, (tokensOf value).IsChain Token.Precedes) :
    (tokensOfItems items).IsChain Token.Precedes := by
  induction items with
  | nil => exact .nil
  | cons value rest ih =>
    obtain ⟨hValue, hRest⟩ := List.forall_mem_cons.mp h
    cases rest with
    | nil => exact hValue
    | cons => exact isChain_append_divider hValue rfl (isChain_cons_of_not_atom nofun (ih hRest))

theorem isChain_tokensOfMembers (h : ∀ m ∈ members, (tokensOf m.2).IsChain Token.Precedes) :
    (tokensOfMembers members).IsChain Token.Precedes := by
  induction members with
  | nil => exact .nil
  | cons m rest ih =>
    obtain ⟨hValue, hRest⟩ := List.forall_mem_cons.mp h
    cases rest with
    | nil => exact isChain_cons_of_not_atom nofun (isChain_cons_of_not_atom nofun hValue)
    | cons =>
      refine isChain_cons_of_not_atom nofun (isChain_cons_of_not_atom nofun ?_)
      exact isChain_append_divider hValue rfl (isChain_cons_of_not_atom nofun (ih hRest))

/-- In the tokens of a value, a divider follows every number and word. -/
theorem isChain_tokensOf (value : Json) : (tokensOf value).IsChain Token.Precedes := by
  induction value using induct with
  | scalar value hScalar =>
    rw [tokensOf_of_isScalar hScalar]
    exact .singleton _
  | array items ih =>
    refine isChain_cons_of_not_atom nofun ?_
    exact isChain_append_divider (isChain_tokensOfItems ih) rfl (.singleton _)
  | object members ih =>
    refine isChain_cons_of_not_atom nofun ?_
    exact isChain_append_divider (isChain_tokensOfMembers ih) rfl (.singleton _)

/-- A text that spells a value is cut into the tokens of that value. -/
theorem tokens_of_spells (h : Spells value s) : tokens s = tokensOf value :=
  tokensFrom_of_spellsTokens h (isChain_tokensOf value)

end PollRoster.Json
