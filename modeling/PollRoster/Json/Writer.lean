import PollRoster.Json.Value

/-!
# Writing JSON

The compact text of a value in ASCII. Characters beyond ASCII are written as escapes, those beyond
the first plane as surrogate pairs. The values that stand for no datum have a text too, one that is
read back as the same value.
-/

namespace PollRoster.Json

def hexDigit (n : Nat) : Char :=
  if n < 10 then Char.ofNat ('0'.toNat + n) else Char.ofNat ('a'.toNat + (n - 10))

/-- The escape of a UTF-16 unit. -/
def unitEscape (u : Nat) : List Char :=
  ['\\', 'u', hexDigit (u / 4096 % 16), hexDigit (u / 256 % 16), hexDigit (u / 16 % 16),
    hexDigit (u % 16)]

def writeChar (c : Char) : List Char :=
  let n := c.toNat
  if c = '"' then ['\\', '"']
  else if c = '\\' then ['\\', '\\']
  else if n = 0x08 then ['\\', 'b']
  else if n = 0x0C then ['\\', 'f']
  else if n = 0x0A then ['\\', 'n']
  else if n = 0x0D then ['\\', 'r']
  else if n = 0x09 then ['\\', 't']
  else if n < 0x20 then unitEscape n
  else if n < 0x80 then [c]
  else if n < 0x10000 then unitEscape n
  else
    unitEscape (0xD800 + (n - 0x10000) / 0x400) ++ unitEscape (0xDC00 + (n - 0x10000) % 0x400)

/-- The literal of a text; half of a surrogate pair stands for a text that has no characters. -/
def writeText : Option String → List Char
  | some s => '"' :: s.toList.flatMap writeChar ++ ['"']
  | none => '"' :: unitEscape 0xD800 ++ ['"']

def writeInteger (i : Int) : List Char :=
  if i < 0 then '-' :: Nat.toDigits 10 i.natAbs else Nat.toDigits 10 i.natAbs

/-- The significand of a decimal number with the scale as its exponent. -/
def writeDecimal (d : Decimal) : List Char :=
  let digits := Nat.toDigits 10 d.significand ++ 'e' :: writeInteger d.scale
  if d.negative then '-' :: digits else digits

mutual

def write : Json → List Char
  | .null => ['n', 'u', 'l', 'l']
  | .bool true => ['t', 'r', 'u', 'e']
  | .bool false => ['f', 'a', 'l', 's', 'e']
  | .integer i => writeInteger i
  | .real d => writeDecimal d
  | .huge => ['1', 'e', '9', '9', '9']
  | .text s => writeText s
  | .array items => '[' :: writeItems items ++ [']']
  | .object members => '\x7b' :: writeMembers members ++ ['\x7d']
  | .broken => []

def writeItems : List Json → List Char
  | [] => []
  | [value] => write value
  | value :: rest => write value ++ ',' :: writeItems rest

def writeMembers : List (Option String × Json) → List Char
  | [] => []
  | [(key, value)] => writeText key ++ ':' :: write value
  | (key, value) :: rest => writeText key ++ ':' :: write value ++ ',' :: writeMembers rest

end

def render (value : Json) : String := String.ofList (write value)

end PollRoster.Json
