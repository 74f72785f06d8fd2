import PollRoster.Text.Utf8

/-!
# Texts come back from their bytes

A character is written in one to four bytes, and behind the last of them the machine that reads
bytes is at the start again. So the bytes of a text are read as its characters, and nothing is
marked.

Main results:

* `readUtf8_utf8EncodeChar` — one character in front of any other bytes.
* `partsOfBytes_encodeUtf8`, `decodeUtf8?_utf8Bytes` — a whole text.
-/

namespace PollRoster.Text

variable {value left low high b : Nat}

/-! ## One byte -/

/-- The first byte of three, with the bounds that it sets for the second one: they keep out what two
bytes can hold, and the surrogates. -/
theorem leadByte?_three (h : 0xE0 ≤ b ∧ b ≤ 0xEF) :
    ∃ low high, leadByte? b = some (.inside (b - 0xE0) 2 low high) ∧
      ∀ x, 0x80 ≤ x → x ≤ 0xBF → (b = 0xE0 → 0xA0 ≤ x) → (b = 0xED → x ≤ 0x9F) →
        low ≤ x ∧ x ≤ high := by
  have hNotTwo : ¬(0xC2 ≤ b ∧ b ≤ 0xDF) := by omega
  rw [leadByte?, if_neg hNotTwo]
  by_cases hFirst : b = 0xE0
  · subst hFirst
    exact ⟨_, _, rfl, fun x _ hHigh hLow _ => ⟨hLow rfl, hHigh⟩⟩
  by_cases hSurrogates : b = 0xED
  · subst hSurrogates
    exact ⟨_, _, rfl, fun x hLow _ _ hHigh => ⟨hLow, hHigh rfl⟩⟩
  have hOther : 0xE1 ≤ b ∧ b ≤ 0xEF := by omega
  rw [if_neg hFirst, if_neg hSurrogates, if_pos hOther]
  exact ⟨_, _, rfl, fun x hLow hHigh _ _ => ⟨hLow, hHigh⟩⟩

/-- The first byte of four, with the bounds that it sets for the second one: they keep out what
three bytes can hold, and what lies beyond the last character. -/
theorem leadByte?_four (h : 0xF0 ≤ b ∧ b ≤ 0xF4) :
    ∃ low high, leadByte? b = some (.inside (b - 0xF0) 3 low high) ∧
      ∀ x, 0x80 ≤ x → x ≤ 0xBF → (b = 0xF0 → 0x90 ≤ x) → (b = 0xF4 → x ≤ 0x8F) →
        low ≤ x ∧ x ≤ high := by
  have hNotTwo : ¬(0xC2 ≤ b ∧ b ≤ 0xDF) := by omega
  have hNotThree : ¬(0xE1 ≤ b ∧ b ≤ 0xEF) := by omega
  rw [leadByte?, if_neg hNotTwo, if_neg (by omega), if_neg (by omega), if_neg hNotThree]
  by_cases hFirst : b = 0xF0
  · subst hFirst
    exact ⟨_, _, rfl, fun x _ hHigh hLow _ => ⟨hLow rfl, hHigh⟩⟩
  by_cases hLast : b = 0xF4
  · subst hLast
    exact ⟨_, _, rfl, fun x hLow _ _ hHigh => ⟨hLow, hHigh rfl⟩⟩
  have hOther : 0xF1 ≤ b ∧ b ≤ 0xF3 := by omega
  rw [if_neg hFirst, if_pos hOther]
  exact ⟨_, _, rfl, fun x hLow hHigh _ _ => ⟨hLow, hHigh⟩⟩

theorem readUtf8_ascii (h : b < 0x80) (rest : List Nat) :
    readUtf8 .start (b :: rest) = some (Char.ofNat b) :: readUtf8 .start rest := by
  rw [readUtf8, Utf8State.step, beginChar, if_pos h]
  rfl

theorem readUtf8_lead (hNotAscii : 0x80 ≤ b)
    (h : leadByte? b = some (.inside value left low high)) (rest : List Nat) :
    readUtf8 .start (b :: rest) = readUtf8 (.inside value left low high) rest := by
  rw [readUtf8, Utf8State.step, beginChar, if_neg (Nat.not_lt.mpr hNotAscii), h]
  rfl

/-- Inside a character, a byte within the bounds is taken in. -/
theorem readUtf8_inside (h : low ≤ b ∧ b ≤ high) (hMore : 1 < left) (rest : List Nat) :
    readUtf8 (.inside value left low high) (b :: rest) =
      readUtf8 (.inside (0x40 * value + (b - 0x80)) (left - 1) 0x80 0xBF) rest := by
  rw [readUtf8, Utf8State.step, if_pos h]
  simp only [if_neg (Nat.not_le.mpr hMore), List.nil_append]

/-- The last byte of a character completes it. -/
theorem readUtf8_last (h : low ≤ b ∧ b ≤ high) (rest : List Nat) :
    readUtf8 (.inside value 1 low high) (b :: rest) =
      some (Char.ofNat (0x40 * value + (b - 0x80))) :: readUtf8 .start rest := by
  rw [readUtf8, Utf8State.step, if_pos h]
  rfl

/-! ## Characters -/

/-- **A character** is read back from its bytes, whatever other bytes follow. -/
theorem readUtf8_utf8EncodeChar (c : Char) (rest : List Nat) :
    readUtf8 .start ((String.utf8EncodeChar c).map UInt8.toNat ++ rest) =
      some c :: readUtf8 .start rest := by
  have hValid : c.toNat < 0xD800 ∨ 0xDFFF < c.toNat ∧ c.toNat < 0x110000 := c.valid
  -- what is read is a number, and it is the number of `c`
  suffices hNumber : readUtf8 .start ((String.utf8EncodeChar c).map UInt8.toNat ++ rest) =
      some (Char.ofNat c.toNat) :: readUtf8 .start rest by
    rwa [Char.ofNat_toNat] at hNumber
  rw [String.utf8EncodeChar, show c.val.toNat = c.toNat from rfl]
  generalize c.toNat = n at hValid
  -- by the number of bytes
  by_cases hOne : n ≤ 127
  · rw [if_pos hOne, List.map_singleton, List.singleton_append, UInt8.toNat_ofNat',
      readUtf8_ascii (by omega), Nat.mod_eq_of_lt (by omega)]
  by_cases hTwo : n ≤ 2047
  · rw [if_neg hOne, if_pos hTwo]
    simp only [List.map_cons, List.map_nil, List.cons_append, List.nil_append,
      UInt8.toNat_ofNat']
    have hLead : leadByte? ((n / 64 % 32 + 192) % 2 ^ 8) =
        some (.inside ((n / 64 % 32 + 192) % 2 ^ 8 - 0xC0) 1 0x80 0xBF) :=
      if_pos (by omega)
    have hValue : 0x40 * ((n / 64 % 32 + 192) % 2 ^ 8 - 0xC0) +
        ((n % 64 + 128) % 2 ^ 8 - 0x80) = n := by omega
    rw [readUtf8_lead (by omega) hLead, readUtf8_last (by omega), hValue]
  by_cases hThree : n ≤ 65535
  · rw [if_neg hOne, if_neg hTwo, if_pos hThree]
    simp only [List.map_cons, List.map_nil, List.cons_append, List.nil_append,
      UInt8.toNat_ofNat']
    obtain ⟨low, high, hLead, hBounds⟩ :=
      leadByte?_three (b := (n / 4096 % 16 + 224) % 2 ^ 8) (by omega)
    have hValue : 0x40 * (0x40 * ((n / 4096 % 16 + 224) % 2 ^ 8 - 0xE0) +
        ((n / 64 % 64 + 128) % 2 ^ 8 - 0x80)) + ((n % 64 + 128) % 2 ^ 8 - 0x80) = n := by omega
    rw [readUtf8_lead (by omega) hLead,
      readUtf8_inside (hBounds _ (by omega) (by omega) (by omega) (by omega)) (by decide),
      readUtf8_last (by omega), hValue]
  · rw [if_neg hOne, if_neg hTwo, if_neg hThree]
    simp only [List.map_cons, List.map_nil, List.cons_append, List.nil_append,
      UInt8.toNat_ofNat']
    obtain ⟨low, high, hLead, hBounds⟩ :=
      leadByte?_four (b := (n / 262144 % 8 + 240) % 2 ^ 8) (by omega)
    have hValue : 0x40 * (0x40 * (0x40 * ((n / 262144 % 8 + 240) % 2 ^ 8 - 0xF0) +
        ((n / 4096 % 64 + 128) % 2 ^ 8 - 0x80)) + ((n / 64 % 64 + 128) % 2 ^ 8 - 0x80)) +
          ((n % 64 + 128) % 2 ^ 8 - 0x80) = n := by omega
    rw [readUtf8_lead (by omega) hLead,
      readUtf8_inside (hBounds _ (by omega) (by omega) (by omega) (by omega)) (by decide),
      readUtf8_inside (by omega) (by decide), readUtf8_last (by omega), hValue]

/-! ## Texts -/

theorem readUtf8_utf8Bytes (cs : List Char) : readUtf8 .start (utf8Bytes cs) = cs.map some := by
  induction cs with
  | nil => rfl
  | cons c cs ih =>
    have hSplit : utf8Bytes (c :: cs) =
        (String.utf8EncodeChar c).map UInt8.toNat ++ utf8Bytes cs := rfl
    rw [hSplit, readUtf8_utf8EncodeChar, ih, List.map_cons]

/-- **A text** has no part that is no character. -/
theorem partsOfBytes_encodeUtf8 (s : String) : partsOfBytes (encodeUtf8 s) = s.toList.map some := by
  rw [partsOfBytes, encodeUtf8, List.map_flatMap]
  exact readUtf8_utf8Bytes s.toList

theorem decodeUtf8?_utf8Bytes (cs : List Char) :
    decodeUtf8? (utf8Bytes cs) = some (String.ofList cs) := by
  simp [decodeUtf8?, readUtf8_utf8Bytes, List.filterMap_map]

end PollRoster.Text
