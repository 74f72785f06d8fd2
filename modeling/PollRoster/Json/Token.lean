import PollRoster.Bounds
import PollRoster.Json.Value
import PollRoster.Text.Utf8

/-!
# JSON tokens

Cutting a text into tokens, one character at a time. White space separates tokens and gives none. A
text that cannot be cut further ends in the token `bad`. Bytes are cut in the same way. Those that
are no characters may stand in a literal only, and one that has them is known to end but has no
text.
-/

namespace PollRoster.Json

inductive Token where
  | beginArray
  | endArray
  | beginObject
  | endObject
  | comma
  | colon
  | text (s : Option String)
  /-- A number or one of the words `null`, `true` and `false`. -/
  | atom (value : Json)
  | bad

/-! ## Numbers -/

/-- How far a number has been read: what its last character was. -/
inductive Numeral.Stage where
  | sign | zero | whole | point | fraction | mark | exponentSign | exponent

/-- The part of a number read so far. Without the exponent it stands for `significand · 10 ^ scale`.
The significand keeps to 64 bits: the first digit that would lead beyond them and the digits after
it are left out, and `full` says that this has begun. Behind the decimal point it begins anew. -/
structure Numeral where
  stage : Numeral.Stage
  negative : Bool
  significand : Nat
  scale : Int
  full : Bool
  exponentNegative : Bool
  exponent : Nat

namespace Numeral

/-- Adds a digit to the significand if it has room for it. A digit that is left out in front of the
decimal point raises the scale, and one that is kept behind it lowers the scale. -/
def pushDigit (n : Numeral) (stage : Stage) (behindPoint : Bool) (d : Nat) : Numeral :=
  let longer := 10 * n.significand + d
  if n.full || maxCount < longer then
    { n with stage := stage, full := true, scale := n.scale + (if behindPoint then 0 else 1) }
  else
    { n with
      stage := stage, significand := longer, scale := n.scale - (if behindPoint then 1 else 0) }

/-- The integer of 53 significant bits that is nearest to `n`; of two the one with an even last
bit. -/
def nearestDouble (n : Nat) : Nat :=
  let unit := Nat.pow 2 (n.log2 - 52)
  let quotient := n / unit
  let twice := 2 * (n % unit)
  let up := unit < twice || (twice == unit && quotient % 2 == 1)
  (quotient + (if up then 1 else 0)) * unit

/-- The greatest power of ten that a double holds has this exponent. -/
def maxPower : Int := 308

/-- Whether `significand · 10 ^ scale` is beyond the doubles. Both factors are rounded to doubles
first, and their product is when it is at least `2^1024 - 2^970`, from where on doubles are rounded
to infinity. -/
def overflows (significand : Nat) (scale : Int) : Bool :=
  if significand == 0 || scale < 0 then false
  else if maxPower < scale then true
  else Nat.pow 2 1024 - Nat.pow 2 970 ≤
    nearestDouble significand * nearestDouble (Nat.pow 10 scale.toNat)

/-- The value of a number that is no integer of 64 bits. -/
def realValue (d : Decimal) : Json :=
  if overflows d.significand d.scale then .huge else .real d

/-- The value of a number that may end here, or `none` when it may not. Negative zero and whole
numbers beyond 64 bits are no integers. -/
def value? (n : Numeral) : Option Json :=
  let exponent : Int := if n.exponentNegative then -(n.exponent : Int) else n.exponent
  match n.stage with
  | .zero | .whole =>
    let wide := n.negative && (n.significand == 0 || -(n.significand : Int) < minId)
    some (if n.full || wide then realValue ⟨n.negative, n.significand, n.scale⟩
      else .integer (if n.negative then -n.significand else n.significand))
  | .fraction | .exponent => some (realValue ⟨n.negative, n.significand, n.scale + exponent⟩)
  | .sign | .point | .mark | .exponentSign => none

def digit? (c : Char) : Option Nat :=
  if '0' ≤ c ∧ c ≤ '9' then some (c.toNat - '0'.toNat) else none

/-- The number read on over `c`; `none` when `c` does not continue it. -/
def push? (n : Numeral) (c : Char) : Option Numeral :=
  let isMark := c = 'e' ∨ c = 'E'
  match n.stage, digit? c with
  -- nothing but a point or an exponent may follow a leading zero
  | .sign, some 0 => some { n with stage := .zero }
  | .sign, some d | .whole, some d => some (n.pushDigit .whole false d)
  | .point, some d | .fraction, some d => some (n.pushDigit .fraction true d)
  | .mark, some d | .exponentSign, some d | .exponent, some d =>
    some { n with stage := .exponent, exponent := 10 * n.exponent + d }
  | .zero, none | .whole, none =>
    -- there may be room again behind the point
    if c = '.' then some { n with stage := .point, full := false }
    else if isMark then some { n with stage := .mark }
    else none
  | .fraction, none => if isMark then some { n with stage := .mark } else none
  | .mark, none =>
    if c = '+' then some { n with stage := .exponentSign }
    else if c = '-' then some { n with stage := .exponentSign, exponentNegative := true }
    else none
  | _, _ => none

def start? (c : Char) : Option Numeral :=
  if c = '-' then some ⟨.sign, true, 0, 0, false, false, 0⟩
  else push? ⟨.sign, false, 0, 0, false, false, 0⟩ c

/-- A digit after a leading zero ends no number but spoils it. -/
def spoils (n : Numeral) (c : Char) : Bool :=
  match n.stage with
  | .zero => (digit? c).isSome
  | _ => false

end Numeral

/-! ## String literals -/

/-- The unit of bytes in a literal that are no character. It lies beyond all others. -/
def illFormedUnit : Nat := 0x110000

/-- The characters of a literal from its code units: each unescaped character is one unit, and an
escape names a UTF-16 unit, so two halves of a surrogate pair make one character. Half a pair makes
none, nor do bytes that are no character. -/
def joinUnits : List Nat → Option (List Char)
  | [] => some []
  | u :: rest =>
    if 0xD800 ≤ u ∧ u < 0xDC00 then
      match rest with
      | v :: rest =>
        if 0xDC00 ≤ v ∧ v < 0xE000 then
          (joinUnits rest).map
            (Char.ofNat (0x10000 + (u - 0xD800) * 0x400 + (v - 0xDC00)) :: ·)
        else none
      | [] => none
    else if 0xDC00 ≤ u ∧ u < 0xE000 then none
    else if illFormedUnit ≤ u then none
    else (joinUnits rest).map (Char.ofNat u :: ·)

/-- The unit named by an escape of one letter. -/
def escapeUnit? : Char → Option Nat
  | '"' => some 0x22
  | '\\' => some 0x5C
  | '/' => some 0x2F
  | 'b' => some 0x08
  | 'f' => some 0x0C
  | 'n' => some 0x0A
  | 'r' => some 0x0D
  | 't' => some 0x09
  | _ => none

def hexValue? (c : Char) : Option Nat :=
  if '0' ≤ c ∧ c ≤ '9' then some (c.toNat - '0'.toNat)
  else if 'a' ≤ c ∧ c ≤ 'f' then some (c.toNat - 'a'.toNat + 10)
  else if 'A' ≤ c ∧ c ≤ 'F' then some (c.toNat - 'A'.toNat + 10)
  else none

/-! ## Cutting -/

/-- Where the reader stands between two characters. Units of a literal are kept last first. -/
inductive Mode where
  | between
  /-- Inside a word; `rest` is still to come. -/
  | word (rest : List Char) (value : Json)
  | number (n : Numeral)
  | literal (units : List Nat)
  | escape (units : List Nat)
  /-- Inside a `\u` escape with `left` digits to come and the value of those read. -/
  | unicode (units : List Nat) (left value : Nat)
  | failed

/-- The first character of a token, or white space between two. -/
def Mode.begin (c : Char) : List Token × Mode :=
  match c with
  | ' ' | '\t' | '\n' | '\r' => ([], .between)
  | '[' => ([.beginArray], .between)
  | ']' => ([.endArray], .between)
  | '\x7b' => ([.beginObject], .between)
  | '\x7d' => ([.endObject], .between)
  | ',' => ([.comma], .between)
  | ':' => ([.colon], .between)
  | '"' => ([], .literal [])
  | 'n' => ([], .word ['u', 'l', 'l'] .null)
  | 't' => ([], .word ['r', 'u', 'e'] (.bool true))
  | 'f' => ([], .word ['a', 'l', 's', 'e'] (.bool false))
  | c =>
    match Numeral.start? c with
    | some n => ([], .number n)
    | none => ([.bad], .failed)

/-- Reads one character: the tokens that it completes and where the reader stands then. -/
def Mode.step (mode : Mode) (c : Char) : List Token × Mode :=
  match mode with
  | .between => Mode.begin c
  | .word [] value => ([.atom value, .bad], .failed)
  | .word [r] value => if c = r then ([.atom value], .between) else ([.bad], .failed)
  | .word (r :: rest) value => if c = r then ([], .word rest value) else ([.bad], .failed)
  | .number n =>
    match n.push? c with
    | some n => ([], .number n)
    -- the character is none of the number, so it begins the next token
    | none =>
      match n.value? with
      | none => ([.bad], .failed)
      | some value =>
        if n.spoils c then ([.bad], .failed)
        else
          let (tokens, mode) := Mode.begin c
          (.atom value :: tokens, mode)
  | .literal units =>
    if c = '"' then ([.text ((joinUnits units.reverse).map String.ofList)], .between)
    else if c = '\\' then ([], .escape units)
    else if c.toNat < 0x20 then ([.bad], .failed)
    else ([], .literal (c.toNat :: units))
  | .escape units =>
    if c = 'u' then ([], .unicode units 4 0)
    else
      match escapeUnit? c with
      | some u => ([], .literal (u :: units))
      | none => ([.bad], .failed)
  | .unicode units left value =>
    match hexValue? c with
    | none => ([.bad], .failed)
    | some d =>
      if left ≤ 1 then ([], .literal ((16 * value + d) :: units))
      else ([], .unicode units (left - 1) (16 * value + d))
  | .failed => ([], .failed)

/-- What the end of the text completes. -/
def Mode.finish : Mode → List Token
  | .between | .failed => []
  | .number n =>
    match n.value? with
    | some value => [.atom value]
    | none => [.bad]
  | .word _ _ | .literal _ | .escape _ | .unicode _ _ _ => [.bad]

/-- The tokens of the characters read on from `mode`. -/
def tokensFrom (mode : Mode) : List Char → List Token
  | [] => mode.finish
  | c :: cs => (mode.step c).1 ++ tokensFrom (mode.step c).2 cs

def tokens (s : String) : List Token := tokensFrom .between s.toList

/-! ## Bytes -/

/-- Reads one part of bytes. What is no character leaves a literal without a text, and is as bad as
a replacement character in any other place. -/
def Mode.stepPart (mode : Mode) : Option Char → List Token × Mode
  | some c => mode.step c
  | none =>
    match mode with
    | .literal units => ([], .literal (illFormedUnit :: units))
    | mode => mode.step '\ufffd'

/-- The tokens of the parts read on from `mode`. -/
def tokensFromParts (mode : Mode) : List (Option Char) → List Token
  | [] => mode.finish
  | part :: parts => (mode.stepPart part).1 ++ tokensFromParts (mode.stepPart part).2 parts

def tokensOfBytes (bytes : List UInt8) : List Token :=
  tokensFromParts .between (Text.partsOfBytes bytes)

end PollRoster.Json
