import PollRoster.Bounds
import PollRoster.Decimal
import PollRoster.Text.Numeral

/-!
# Values written into columns

A column turns a value of another type into one of its own if it can. So a number column takes the
number that a text begins with, and a text column takes the text of a number.
-/

namespace PollRoster

/-- A value as a statement names it, whatever column it is for. -/
inductive ColumnValue where
  | empty
  | integer (i : Int)
  | real (d : Decimal)
  | text (s : String)
  deriving DecidableEq, Repr

namespace ColumnValue

/-- The digits of a real number that its text keeps. -/
def realDigits : Nat := 15

def isBlank (c : Char) : Bool :=
  c = ' ' || (0x09 ≤ c.toNat && c.toNat ≤ 0x0D)

/-- The number that the digits at the beginning of a text make, 0 without a digit. -/
def leadingNat (cs : List Char) : Nat :=
  (Text.readNumber (cs.takeWhile fun c => (Text.digitValue? c).isSome)).getD 0

/-- The integer that a text begins with, 0 when it begins with none. -/
def leadingInteger (s : String) : Int :=
  match s.toList.dropWhile isBlank with
  | '-' :: cs => -(leadingNat cs : Int)
  | '+' :: cs => leadingNat cs
  | cs => leadingNat cs

def number? : ColumnValue → Option Int
  | empty => none
  | integer i => some i
  | real d => some d.whole
  | text s => some (leadingInteger s)

/-- What a text column takes. An integer of more than 64 bits is written as a real number. -/
def text? : ColumnValue → Option String
  | empty => none
  | integer i =>
    some (if minId ≤ i && i ≤ maxId then s!"{i}" else (Decimal.ofInt i).text realDigits)
  | real d => some (d.text realDigits)
  | text s => some s

/-- Whether the value can stand in a statement, which ends at the first character NUL. -/
def isWritable : ColumnValue → Bool
  | text s => !s.toList.contains '\x00'
  | _ => true

end ColumnValue

end PollRoster
