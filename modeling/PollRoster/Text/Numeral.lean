/-!
# Numerals in texts

Reading whole numbers written with the ASCII digits. A numeral has at least one digit, may have
leading zeros, and is refused when its value leaves the bounds that the reader asks for.
-/

namespace PollRoster.Text

def digitValue? (c : Char) : Option Nat :=
  if '0' ≤ c ∧ c ≤ '9' then some (c.toNat - '0'.toNat) else none

/-- The value of a run of digits read on from the value `n` of the digits before it. -/
def readDigits (n : Nat) : List Char → Option Nat
  | [] => some n
  | c :: cs => (digitValue? c).bind fun d => readDigits (10 * n + d) cs

/-- The value of a run of one or more digits. -/
def readNumber : List Char → Option Nat
  | [] => none
  | cs => readDigits 0 cs

def natUpTo? (high : Nat) (s : String) : Option Nat :=
  let digits := match s.toList with
    | '+' :: cs => cs
    | cs => cs
  (readNumber digits).filter (· ≤ high)

/-- An integer between `low` and `high`, with an optional sign. -/
def intBetween? (low high : Int) (s : String) : Option Int :=
  let value := match s.toList with
    | '-' :: cs => (readNumber cs).map fun n => -(n : Int)
    | '+' :: cs => (readNumber cs).map Int.ofNat
    | cs => (readNumber cs).map Int.ofNat
  value.filter fun i => low ≤ i && i ≤ high

end PollRoster.Text
