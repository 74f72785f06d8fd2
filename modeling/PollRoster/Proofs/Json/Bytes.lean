import PollRoster.Proofs.Json.Reading
import PollRoster.Proofs.Utf8

/-!
# Reading JSON from bytes

Bytes that encode a text are read as the text is. Bytes that encode none may still be read to their
end, if what is no character stands in literals only; but such a literal has no text, so nobody who
asks for the text is given one that was made up.

Main results:

* `readBytes_encodeUtf8`, `readBytes_of_spells` — the bytes of a text.
* `tokensFromParts_literal_none` — bytes in a literal that are no character.
-/

namespace PollRoster.Json

/-! ## The bytes of a text -/

theorem tokensFromParts_map_some (mode : Mode) (cs : List Char) :
    tokensFromParts mode (cs.map some) = tokensFrom mode cs := by
  induction cs generalizing mode with
  | nil => rfl
  | cons c cs ih =>
    rw [List.map_cons, tokensFromParts, tokensFrom, ih]
    rfl

/-- **The bytes of a text** are read as the text is. -/
theorem readBytes_encodeUtf8 (s : String) : readBytes (Text.encodeUtf8 s) = read s := by
  rw [readBytes, tokensOfBytes, Text.partsOfBytes_encodeUtf8, tokensFromParts_map_some]
  rfl

theorem readBytes_of_spells (h : Spells value s) :
    readBytes (Text.encodeUtf8 s) = ⟨value, true⟩ := by
  rw [readBytes_encodeUtf8, read_of_spells h]

/-! ## Bytes that are no text -/

theorem joinUnits_of_mem {units : List Nat} (h : illFormedUnit ∈ units) :
    joinUnits units = none := by
  fun_induction joinUnits units with
  | case1 => exact absurd h List.not_mem_nil
  -- the units of a pair are smaller
  | case2 u hHigh v rest hLow ih =>
    simp only [List.mem_cons, illFormedUnit] at h
    have hRest : illFormedUnit ∈ rest := by
      rcases h with hu | hv | hRest
      · omega
      · omega
      · exact hRest
    rw [ih hRest, Option.map_none]
  | case7 u rest _ _ hSmall ih =>
    rcases List.mem_cons.mp h with rfl | hRest
    · exact absurd (Nat.le_refl _) hSmall
    · rw [ih hRest, Option.map_none]
  | _ => rfl

/-- Whether the reader stands in a literal that has bytes which are no character. -/
def Mode.IsMarked : Mode → Prop
  | .literal units | .escape units | .unicode units _ _ => illFormedUnit ∈ units
  | _ => False

/-- A marked literal has no text, if it ends at all. -/
theorem tokensFromParts_of_isMarked {mode : Mode} (h : mode.IsMarked)
    (parts : List (Option Char)) :
    ∃ rest, tokensFromParts mode parts = .text none :: rest ∨
      tokensFromParts mode parts = .bad :: rest := by
  -- the mark stays until the literal is closed or turns out to be ill-formed
  induction parts generalizing mode with
  | nil =>
    cases mode with
    | literal | escape | unicode => exact ⟨[], .inr rfl⟩
    | _ => exact h.elim
  | cons part parts ih =>
    rw [tokensFromParts]
    cases mode with
    | literal units =>
      have hLiteral (u : Nat) : (Mode.literal (u :: units)).IsMarked := List.mem_cons_of_mem u h
      have hEscape : (Mode.escape units).IsMarked := h
      cases part with
      | none => exact ih (hLiteral illFormedUnit)
      | some c =>
        rw [Mode.stepPart, Mode.step]
        split_ifs
        · rw [joinUnits_of_mem (List.mem_reverse.mpr h)]
          exact ⟨_, .inl rfl⟩
        · exact ih hEscape
        · exact ⟨_, .inr rfl⟩
        · exact ih (hLiteral c.toNat)
    | escape units =>
      have hLiteral (u : Nat) : (Mode.literal (u :: units)).IsMarked := List.mem_cons_of_mem u h
      have hUnicode : (Mode.unicode units 4 0).IsMarked := h
      cases part with
      | none => exact ⟨_, .inr rfl⟩
      | some c =>
        rw [Mode.stepPart, Mode.step]
        split_ifs
        · exact ih hUnicode
        · cases escapeUnit? c with
          | some u => exact ih (hLiteral u)
          | none => exact ⟨_, .inr rfl⟩
    | unicode units left value =>
      have hLiteral (u : Nat) : (Mode.literal (u :: units)).IsMarked := List.mem_cons_of_mem u h
      have hUnicode (v : Nat) : (Mode.unicode units (left - 1) v).IsMarked := h
      cases part with
      | none => exact ⟨_, .inr rfl⟩
      | some c =>
        rw [Mode.stepPart, Mode.step]
        cases hexValue? c with
        | none => exact ⟨_, .inr rfl⟩
        | some d =>
          dsimp only
          split_ifs
          · exact ih (hLiteral _)
          · exact ih (hUnicode _)
    | _ => exact h.elim

/-- **Bytes that are no character** cost the literal in which they stand its text. -/
theorem tokensFromParts_literal_none (units : List Nat) (parts : List (Option Char)) :
    ∃ rest, tokensFromParts (.literal units) (none :: parts) = .text none :: rest ∨
      tokensFromParts (.literal units) (none :: parts) = .bad :: rest := by
  have hMarked : (Mode.literal (illFormedUnit :: units)).IsMarked := List.mem_cons_self
  exact tokensFromParts_of_isMarked hMarked parts

end PollRoster.Json
