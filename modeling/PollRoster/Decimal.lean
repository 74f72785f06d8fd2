/-!
# Decimal numbers

Numbers as they are written: digits, and a power of ten that moves the decimal point. A number has a
whole part, and a text that shows its leading digits only.
-/

namespace PollRoster

/-- The number `significand · 10 ^ scale`, or its negative. -/
structure Decimal where
  negative : Bool
  significand : Nat
  scale : Int
  deriving DecidableEq, Repr

namespace Decimal

def ofInt (i : Int) : Decimal := ⟨decide (i < 0), i.natAbs, 0⟩

def digits (d : Decimal) : List Char := Nat.toDigits 10 d.significand

/-- The part in front of the decimal point. -/
def whole (d : Decimal) : Int :=
  let n : Nat :=
    if d.significand = 0 ∨ d.digits.length + d.scale ≤ 0 then 0
    else if 0 ≤ d.scale then d.significand * Nat.pow 10 d.scale.toNat
    else d.significand / Nat.pow 10 d.scale.natAbs
  if d.negative then -n else n

/-- The number with no more than `n` digits; a half is rounded away from zero. -/
def round (n : Nat) (d : Decimal) : Decimal :=
  let dropped := d.digits.length - n
  if dropped = 0 then d
  else
    let unit := Nat.pow 10 dropped
    { d with significand := (d.significand + unit / 2) / unit, scale := d.scale + dropped }

def dropZeros (cs : List Char) : List Char := (cs.reverse.dropWhile (· == '0')).reverse

/-- The digits behind a decimal point, at least one. -/
def fraction (cs : List Char) : List Char :=
  match dropZeros cs with
  | [] => ['0']
  | cs => cs

/-- An exponent, with its sign and at least two digits. -/
def exponent (e : Int) : List Char :=
  let digits := Nat.toDigits 10 e.natAbs
  'e' :: (if e < 0 then '-' else '+') :: List.replicate (2 - digits.length) '0' ++ digits

/-- The text of the number to `n` significant digits. The first digit stands at the power of ten
`first`: the point is placed behind the ones when that is from -4 to below `n`, and behind the first
digit otherwise. -/
def text (n : Nat) (d : Decimal) : String :=
  let rounded := d.round n
  let digits := rounded.digits
  let first : Int := rounded.scale + digits.length - 1
  let unsigned :=
    if d.significand = 0 then ['0', '.', '0']
    else if first < -4 ∨ n ≤ first then
      digits.take 1 ++ '.' :: fraction (digits.drop 1) ++ exponent first
    else if first < 0 then
      '0' :: '.' :: List.replicate (first.natAbs - 1) '0' ++ dropZeros digits
    else
      let front := first.toNat + 1
      digits.take front ++ List.replicate (front - digits.length) '0' ++
        '.' :: fraction (digits.drop front)
  String.ofList (if d.negative && d.significand != 0 then '-' :: unsigned else unsigned)

end Decimal

end PollRoster
