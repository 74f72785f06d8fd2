/-!
# UTF-8

Texts as bytes and back. Bytes are natural numbers below 256. A machine reads them one at a time;
where they are ill-formed it marks each longest part that begins like a character and is none.

* `encodeUtf8` writes a text, `utf8Bytes` its characters.
* `decodeUtf8?` reads well-formed bytes only; `decodeUtf8Lossy` reads any, with a replacement
  character for each mark; `partsOfBytes` keeps the marks.
-/

namespace PollRoster.Text

def utf8Bytes (cs : List Char) : List Nat :=
  cs.flatMap fun c => (String.utf8EncodeChar c).map UInt8.toNat

def encodeUtf8 (s : String) : List UInt8 := s.toList.flatMap String.utf8EncodeChar

/-- Where the machine stands between two bytes. -/
inductive Utf8State where
  | start
  /-- Inside a character: the value so far, how many bytes are to come, and the bounds of the next
  one. -/
  | inside (value left low high : Nat)
  deriving DecidableEq, Repr

/-- The state after the first byte of a character of several bytes. Bounds on the second byte keep
out surrogates, values beyond the last character, and values that fewer bytes can hold. -/
def leadByte? (b : Nat) : Option Utf8State :=
  if 0xC2 ≤ b ∧ b ≤ 0xDF then some (.inside (b - 0xC0) 1 0x80 0xBF)
  else if b = 0xE0 then some (.inside 0 2 0xA0 0xBF)
  else if b = 0xED then some (.inside 0xD 2 0x80 0x9F)
  else if 0xE1 ≤ b ∧ b ≤ 0xEF then some (.inside (b - 0xE0) 2 0x80 0xBF)
  else if b = 0xF0 then some (.inside 0 3 0x90 0xBF)
  else if 0xF1 ≤ b ∧ b ≤ 0xF3 then some (.inside (b - 0xF0) 3 0x80 0xBF)
  else if b = 0xF4 then some (.inside 4 3 0x80 0x8F)
  else none

/-- Reads a byte where a character has to begin. -/
def beginChar (b : Nat) : List (Option Char) × Utf8State :=
  if b < 0x80 then ([some (Char.ofNat b)], .start)
  else match leadByte? b with
    | some state => ([], state)
    | none => ([none], .start)

/-- Reads a byte: the characters and marks that it completes, and the state behind it. -/
def Utf8State.step (state : Utf8State) (b : Nat) : List (Option Char) × Utf8State :=
  match state with
  | .start => beginChar b
  | .inside value left low high =>
    if low ≤ b ∧ b ≤ high then
      let value := 0x40 * value + (b - 0x80)
      if left ≤ 1 then ([some (Char.ofNat value)], .start)
      else ([], .inside value (left - 1) 0x80 0xBF)
    else (none :: (beginChar b).1, (beginChar b).2)

/-- What the end of the bytes completes. -/
def Utf8State.finish : Utf8State → List (Option Char)
  | .start => []
  | .inside _ _ _ _ => [none]

/-- The characters and marks of the bytes read on from a state. -/
def readUtf8 (state : Utf8State) : List Nat → List (Option Char)
  | [] => state.finish
  | b :: bytes => (state.step b).1 ++ readUtf8 (state.step b).2 bytes

/-- The characters of any bytes, with `none` for each part that is no character. -/
def partsOfBytes (bytes : List UInt8) : List (Option Char) :=
  readUtf8 .start (bytes.map UInt8.toNat)

/-- The text of well-formed bytes. -/
def decodeUtf8? (bytes : List Nat) : Option String :=
  let found := readUtf8 .start bytes
  if found.all Option.isSome then some (String.ofList (found.filterMap id)) else none

def decodeUtf8Lossy (bytes : List Nat) : String :=
  String.ofList ((readUtf8 .start bytes).map (·.getD '\ufffd'))

end PollRoster.Text
