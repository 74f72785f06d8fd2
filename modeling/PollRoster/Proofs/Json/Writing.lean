import PollRoster.Json.Decode
import PollRoster.Proofs.Json.Reading

/-!
# Writing data as JSON

The compact text of a datum is one of its texts, so it is read back as the datum.

Main results:

* `spells_render` — the compact text of a datum spells it.
* `isKeepable_of_isDatum` — a datum can be kept for later, unless it is nested too deep.
-/

namespace PollRoster.Json

mutual

/-- Whether the value is made as records are: of texts, words and integers of 64 bits, with arrays
and objects nested at most `depth` deep. -/
def IsDatum (depth : Nat) : Json → Prop
  | .array items => 0 < depth ∧ AreData (depth - 1) items
  | .object members => 0 < depth ∧ AreMembers (depth - 1) members
  | .integer i => minId ≤ i ∧ i ≤ maxCount
  | .text s => s.isSome
  | .real _ | .huge | .broken => False
  | .null | .bool _ => True

def AreData (depth : Nat) : List Json → Prop
  | [] => True
  | value :: rest => IsDatum depth value ∧ AreData depth rest

def AreMembers (depth : Nat) : List (Option String × Json) → Prop
  | [] => True
  | (key, value) :: rest => key.isSome ∧ IsDatum depth value ∧ AreMembers depth rest

end

theorem spellsChar_letter (hNumber : c.toNat = n) (h : (letter, Char.ofNat n) ∈ letterEscapes) :
    SpellsChar c ['\\', letter] := by
  subst hNumber
  rw [Char.ofNat_toNat] at h
  exact .letter h

theorem spellsChar_writeChar (c : Char) : SpellsChar c (writeChar c) := by
  have choose {p : Prop} [Decidable p] {one other : List Char} (hOne : p → SpellsChar c one)
      (hOther : ¬p → SpellsChar c other) : SpellsChar c (if p then one else other) := by
    split
    case isTrue h => exact hOne h
    case isFalse h => exact hOther h
  -- the escapes are tried in turn
  refine choose (fun hQuote => .letter (by rw [hQuote]; decide)) fun hQuote => ?_
  refine choose (fun hSlash => .letter (by rw [hSlash]; decide)) fun hSlash => ?_
  refine choose (fun hBack => spellsChar_letter hBack (by decide)) fun _ => ?_
  refine choose (fun hFeed => spellsChar_letter hFeed (by decide)) fun _ => ?_
  refine choose (fun hLine => spellsChar_letter hLine (by decide)) fun _ => ?_
  refine choose (fun hReturn => spellsChar_letter hReturn (by decide)) fun _ => ?_
  refine choose (fun hTab => spellsChar_letter hTab (by decide)) fun _ => ?_
  refine choose (fun hControl => .unit (by omega)) fun hControl => ?_
  refine choose (fun _ => .itself (by omega) hQuote hSlash) fun _ => ?_
  exact choose (fun hPlane => .unit hPlane) fun hPlane => .pair (by omega)

theorem spellsChars_flatMap_writeChar (cs : List Char) :
    SpellsChars cs (cs.flatMap writeChar) := by
  induction cs with
  | nil => exact .nil
  | cons c cs ih => exact .cons (spellsChar_writeChar c) ih

theorem spellsToken_writeText (s : String) : SpellsToken (.text (some s)) (writeText (some s)) :=
  .text (spellsChars_flatMap_writeChar s.toList)

theorem spellsToken_write (h : IsDatum depth value) (hScalar : IsScalar value) :
    SpellsToken (scalarToken value) (write value) := by
  cases value with
  | null => exact .null
  | bool b => cases b; exacts [.false, .true]
  | integer i => exact .integer h
  | text s =>
    obtain ⟨s, rfl⟩ := Option.isSome_iff_exists.mp h
    exact spellsToken_writeText s
  | real | huge | broken => exact h.elim
  | array | object => exact hScalar.elim

theorem SpellsTokens.tight (hToken : SpellsToken t spelled) (hRest : SpellsTokens ts rest) :
    SpellsTokens (t :: ts) (spelled ++ rest) :=
  .cons (List.forall_mem_nil _) hToken hRest

theorem SpellsTokens.mark (hToken : SpellsToken t [c]) (hRest : SpellsTokens ts rest) :
    SpellsTokens (t :: ts) (c :: rest) :=
  .tight hToken hRest

/-- Whether the value may be written in front of any spelled tokens. -/
def IsWellWritten (value : Json) : Prop :=
  ∀ ts rest, SpellsTokens ts rest → SpellsTokens (tokensOf value ++ ts) (write value ++ rest)

theorem spellsTokens_writeItems (h : ∀ value ∈ items, IsWellWritten value)
    (hRest : SpellsTokens ts rest) :
    SpellsTokens (tokensOfItems items ++ ts) (writeItems items ++ rest) := by
  induction items with
  | nil => exact hRest
  | cons value items ih =>
    obtain ⟨hValue, hItems⟩ := List.forall_mem_cons.mp h
    cases items with
    | nil => exact hValue _ _ hRest
    | cons =>
      simp only [tokensOfItems, writeItems, List.append_assoc, List.cons_append]
      exact hValue _ _ (.mark .comma (ih hItems))

theorem spellsTokens_writeMembers (h : ∀ m ∈ members, m.1.isSome ∧ IsWellWritten m.2)
    (hRest : SpellsTokens ts rest) :
    SpellsTokens (tokensOfMembers members ++ ts) (writeMembers members ++ rest) := by
  induction members with
  | nil => exact hRest
  | cons m members ih =>
    obtain ⟨⟨hKey, hValue⟩, hMembers⟩ := List.forall_mem_cons.mp h
    obtain ⟨key, value⟩ := m
    obtain ⟨key, rfl⟩ := Option.isSome_iff_exists.mp hKey
    cases members with
    | nil =>
      simp only [tokensOfMembers, writeMembers, List.append_assoc, List.cons_append]
      exact .tight (spellsToken_writeText key) (.mark .colon (hValue _ _ hRest))
    | cons =>
      simp only [tokensOfMembers, writeMembers, List.append_assoc, List.cons_append]
      refine .tight (spellsToken_writeText key) (.mark .colon (hValue _ _ ?_))
      exact .mark .comma (ih hMembers)

theorem areData_iff : AreData depth items ↔ ∀ value ∈ items, IsDatum depth value := by
  induction items with
  | nil => simp [AreData]
  | cons value items ih => rw [AreData, ih, List.forall_mem_cons]

theorem areMembers_iff :
    AreMembers depth members ↔ ∀ m ∈ members, m.1.isSome ∧ IsDatum depth m.2 := by
  induction members with
  | nil => simp [AreMembers]
  | cons m members ih => rw [AreMembers, ih, List.forall_mem_cons, and_assoc]

theorem isWellWritten_of_isDatum (h : IsDatum depth value) : IsWellWritten value := by
  induction value using induct generalizing depth with
  | scalar value hScalar =>
    intro ts rest hRest
    rw [tokensOf_of_isScalar hScalar]
    exact .tight (spellsToken_write h hScalar) hRest
  | array items ih =>
    intro ts rest hRest
    have hItems := areData_iff.mp h.2
    simp only [tokensOf, write, List.append_assoc, List.cons_append, List.nil_append]
    refine .mark .beginArray (spellsTokens_writeItems
      (fun value hv => ih value hv (hItems value hv)) ?_)
    exact .mark .endArray hRest
  | object members ih =>
    intro ts rest hRest
    have hMembers := areMembers_iff.mp h.2
    simp only [tokensOf, write, List.append_assoc, List.cons_append, List.nil_append]
    refine .mark .beginObject (spellsTokens_writeMembers
      (fun m hm => ⟨(hMembers m hm).1, ih m hm (hMembers m hm).2⟩) ?_)
    exact .mark .endObject hRest

/-- The compact text of a datum spells it. -/
theorem spells_render (h : IsDatum depth value) : Spells value (render value) := by
  have hWritten := isWellWritten_of_isDatum h [] [] (.nil (List.forall_mem_nil _))
  rw [List.append_nil, List.append_nil] at hWritten
  rwa [Spells, render, String.toList_ofList]

theorem areKeepable_iff : areKeepable depth items ↔ ∀ value ∈ items, isKeepable depth value := by
  induction items with
  | nil => simp [areKeepable]
  | cons value items ih => rw [areKeepable, Bool.and_eq_true, ih, List.forall_mem_cons]

theorem areKeepableMembers_iff : areKeepableMembers depth members ↔
    ∀ m ∈ members, m.1.isSome ∧ isKeepable depth m.2 := by
  induction members with
  | nil => simp [areKeepableMembers]
  | cons m members ih =>
    rw [areKeepableMembers, Bool.and_eq_true, Bool.and_eq_true, ih, List.forall_mem_cons]

/-- A datum can be kept for later unless it is nested too deep. -/
theorem isKeepable_of_isDatum (h : IsDatum depth value) (hDepth : depth ≤ limit) :
    isKeepable limit value := by
  induction value using induct generalizing depth limit with
  | scalar value hScalar =>
    cases value with
    | array | object => exact hScalar.elim
    | real | huge | broken => exact h.elim
    | text s =>
      obtain ⟨s, rfl⟩ := Option.isSome_iff_exists.mp h
      rfl
    | _ => rfl
  | array items ih =>
    obtain ⟨hDeep, hItems⟩ := h
    refine Bool.and_eq_true_iff.mpr ⟨decide_eq_true (by omega), areKeepable_iff.mpr ?_⟩
    exact fun value hv => ih value hv (areData_iff.mp hItems value hv) (by omega)
  | object members ih =>
    obtain ⟨hDeep, hMembers⟩ := h
    refine Bool.and_eq_true_iff.mpr ⟨decide_eq_true (by omega), areKeepableMembers_iff.mpr ?_⟩
    intro m hm
    obtain ⟨hKey, hValue⟩ := areMembers_iff.mp hMembers m hm
    exact ⟨hKey, ih m hm hValue (by omega)⟩

end PollRoster.Json
