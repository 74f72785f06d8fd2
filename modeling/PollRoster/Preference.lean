import PollRoster.Bounds
import PollRoster.Order
import PollRoster.Text.Blank
import PollRoster.Text.DecimalDigit
import PollRoster.Text.Numeral

/-!
# Seat preferences in words

Representatives say in their own words where they want to serve. Of such a text only section numbers
and ranges of them are read; everything else is passed over.

* `Preference.mentions` finds the mentions: a run of decimal digits, or two runs with a hyphen and
  perhaps white space between them.
* `Preference.read` turns them into section numbers. Ranges that are too wide are kept apart.
-/

namespace PollRoster

/-- A range of section numbers, both ends included. -/
structure NumberRange where
  low : Nat
  high : Nat
  deriving DecidableEq, Repr

/-- What a preference text asks for. -/
structure Preference where
  /-- The section numbers, ascending. -/
  numbers : List Nat
  /-- The ranges that are too wide, in text order. -/
  oversized : List NumberRange
  deriving DecidableEq, Repr

namespace Preference

/-- The widest distance between the ends of a range that is read. -/
def maxRangeSpan : Nat := 10000

/-! ## Mentions -/

/-- A number or a range as it stands in a text: the digits of its ends. -/
structure Mention where
  first : List Char
  last : Option (List Char)
  deriving DecidableEq, Repr

/-- What has been read of a mention. Digits are kept last first. -/
inductive Reading where
  | outside
  | first (digits : List Char)
  /-- Behind the first run, perhaps behind a hyphen too: a second run may follow. -/
  | gap (digits : List Char) (hyphen : Bool)
  | second (digits last : List Char)

/-- The mention that ends here, if one does. -/
def Reading.finish : Reading → List Mention
  | .outside => []
  | .first digits | .gap digits _ => [⟨digits.reverse, none⟩]
  | .second digits last => [⟨digits.reverse, some last.reverse⟩]

/-- Reads one character: the mention that it ends, if any, and what is read then. A hyphen or white
space behind a first run ends it only when no second run follows. -/
def Reading.step (r : Reading) (c : Char) : List Mention × Reading :=
  if Text.isDecimalDigit c then
    match r with
    | .outside => ([], .first [c])
    | .first digits => ([], .first (c :: digits))
    | .gap digits true => ([], .second digits [c])
    -- two numbers with only white space between them are two mentions
    | .gap digits false => ([⟨digits.reverse, none⟩], .first [c])
    | .second digits last => ([], .second digits (c :: last))
  else if Text.isBlank c then
    match r with
    | .first digits => ([], .gap digits false)
    | .gap digits hyphen => ([], .gap digits hyphen)
    | r => (r.finish, .outside)
  else if c = '-' then
    match r with
    | .first digits | .gap digits false => ([], .gap digits true)
    | r => (r.finish, .outside)
  else (r.finish, .outside)

/-- The mentions of the characters read on from `r`. -/
def mentionsFrom (r : Reading) : List Char → List Mention
  | [] => r.finish
  | c :: cs => (r.step c).1 ++ mentionsFrom (r.step c).2 cs

def mentions (text : String) : List Mention := mentionsFrom .outside text.toList

/-! ## Numbers -/

/-- The section number written with the given digits. Digits beyond ASCII and numbers that are too
large name none. -/
def number? (digits : List Char) : Option Nat :=
  (Text.readNumber digits).filter (· ≤ maxNumber)

def nothing : Preference := ⟨[], []⟩

/-- Adds the numbers of a range, whichever end comes first, or keeps it apart. -/
def addRange (p : Preference) (a b : Nat) : Preference :=
  let low := min a b
  let high := max a b
  if maxRangeSpan < high - low then { p with oversized := p.oversized ++ [⟨low, high⟩] }
  else { p with numbers := insertRange low high p.numbers }

/-- Adds what a mention asks for; one with an end that is no number asks for nothing. -/
def addMention (p : Preference) (m : Mention) : Preference :=
  match number? m.first, m.last with
  | none, _ => p
  | some a, none => p.addRange a a
  | some a, some last =>
    match number? last with
    | none => p
    | some b => p.addRange a b

def read (text : String) : Preference :=
  (mentions text).foldl addMention nothing

end Preference

end PollRoster
