import PollRoster.Http.Authority
import PollRoster.Text.Utf8

/-!
# Request targets

The path and the query that a request names, and their percent escapes. A query is a list of named
values in which a plus sign stands for a space. A target is written from its path on, as a whole
with scheme and authority, or as an authority alone, which names no path.
-/

namespace PollRoster.Http

/-- The value of a hexadecimal digit given as a byte. -/
def hexByte? (b : Nat) : Option Nat :=
  if 0x30 ≤ b ∧ b ≤ 0x39 then some (b - 0x30)
  else if 0x41 ≤ b ∧ b ≤ 0x46 then some (b - 0x41 + 10)
  else if 0x61 ≤ b ∧ b ≤ 0x66 then some (b - 0x61 + 10)
  else none

/-- The byte that an escape of these three bytes stands for. -/
def escaped? (percent high low : Nat) : Option Nat :=
  if percent = 0x25 then do
    return 16 * (← hexByte? high) + (← hexByte? low)
  else none

/-- Bytes with their escapes replaced. A percent sign that begins no escape stands for itself. -/
def percentDecode : List Nat → List Nat
  | b :: high :: low :: rest =>
    match escaped? b high low with
    | some byte => byte :: percentDecode rest
    | none => b :: percentDecode (high :: low :: rest)
  | bytes => bytes

/-- The parts between the occurrences of a separator. -/
def splitParts (separator : Nat) : List Nat → List (List Nat)
  | [] => [[]]
  | b :: bytes =>
    match splitParts separator bytes with
    | [] => [[b]]
    | part :: parts => if b = separator then [] :: part :: parts else (b :: part) :: parts

/-- The text that a name or value of a query stands for. -/
def decodeFormText (bytes : List Nat) : String :=
  Text.decodeUtf8Lossy (percentDecode (bytes.map fun b => if b = 0x2B then 0x20 else b))

/-- The name and the value of a part of a query; without an equals sign the value is empty. -/
def decodeFormPart (bytes : List Nat) : String × String :=
  (decodeFormText (bytes.takeWhile (· ≠ 0x3D)),
    decodeFormText ((bytes.dropWhile (· ≠ 0x3D)).drop 1))

/-- The names and values of a query, in order. Empty parts are passed over. -/
def readQuery (query : List Char) : List (String × String) :=
  ((splitParts 0x26 (Text.utf8Bytes query)).filter (!·.isEmpty)).map decodeFormPart

/-- The text of a part of a path, unless its bytes are ill-formed. -/
def decodePathPart? (part : List Char) : Option String :=
  Text.decodeUtf8? (percentDecode (Text.utf8Bytes part))

/-! ## Forms of a target -/

/-- The path of a target and its query, without the fragment. -/
structure Target where
  path : List Char
  query : List Char
  deriving DecidableEq, Repr

namespace Target

/-- The characters that may stand in a path without an escape. Characters beyond ASCII may. -/
def isPathChar (c : Char) : Bool :=
  ' ' < c && ['#', '<', '>', '?', '\x60'].all (· ≠ c)

/-- The characters that may stand in a query without an escape. -/
def isQueryChar (c : Char) : Bool :=
  ' ' < c && ['"', '#', '<', '>'].all (· ≠ c)

/-- The target that is written from its path on. -/
def ofPathAndQuery? (cs : List Char) : Option Target :=
  let named := cs.takeWhile (· ≠ '#')
  let path := named.takeWhile (· ≠ '?')
  let query := (named.dropWhile (· ≠ '?')).drop 1
  if path.all isPathChar && query.all isQueryChar then some ⟨path, query⟩ else none

def isSchemeChar (c : Char) : Bool := c.isAlphanum || ['+', '-', '.', '~'].contains c

def maxSchemeLength : Nat := 64

def maxLength : Nat := 65534

/-- The target behind a scheme: an authority comes first. -/
def ofAbsolute? (scheme rest : List Char) : Option Target :=
  if scheme.length ≤ maxSchemeLength && isAuthority (rest.takeWhile (!endsAuthority ·)) then
    ofPathAndQuery? (rest.dropWhile (!endsAuthority ·))
  else none

/-- The target that a text stands for, unless it is ill-formed. -/
def ofText? (text : String) : Option Target :=
  let cs := text.toList
  if maxLength < text.utf8ByteSize then none
  else match cs with
    | '/' :: _ => ofPathAndQuery? cs
    | _ =>
      match cs.dropWhile isSchemeChar with
      | ':' :: '/' :: '/' :: rest => ofAbsolute? (cs.takeWhile isSchemeChar) rest
      | _ => if isAuthority cs then some ⟨[], []⟩ else none

end Target

end PollRoster.Http
