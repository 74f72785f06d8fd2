import PollRoster.Text.CaseTable

/-!
# Letter case

Full upper-casing and lower-casing of texts. One character may become several (`ß` is `SS` in upper
case), and the Greek capital sigma has two lower-case forms: `ς` at the end of a word, `σ` in any
other place.
-/

namespace PollRoster.Text

/-- The code point that `n` moves to by the first run that holds it; runs ascend by `first`. -/
def shiftBy (n : Nat) : List CaseRun → Nat
  | [] => n
  | r :: rs =>
    if n < r.first then n
    else if n ≤ r.last && (n - r.first) % r.step == 0 then (n + r.shift).toNat
    else shiftBy n rs

/-- Whether one of the ascending ranges holds `n`. -/
def inRanges (n : Nat) : List (Nat × Nat) → Bool
  | [] => false
  | (first, last) :: rest => first ≤ n && (n ≤ last || inRanges n rest)

/-- The image of a character under the runs and the mappings to several characters. -/
def mapCase (long : List (Nat × List Nat)) (runs : List CaseRun) (c : Char) : List Char :=
  match long.lookup c.toNat with
  | some image => image.map Char.ofNat
  | none => [Char.ofNat (shiftBy c.toNat runs)]

def upperChar (c : Char) : List Char := mapCase longUpper upperRuns c

/-- The lower-case form of a character that stands alone. -/
def lowerChar (c : Char) : List Char := mapCase longLower lowerRuns c

def toUpper (s : String) : String :=
  String.ofList (s.toList.flatMap upperChar)

/-- Whether a cased letter comes first once case-ignorable characters are passed over. -/
def startsCased : List Char → Bool
  | [] => false
  | c :: cs =>
    if inRanges c.toNat caseIgnorableRanges then startsCased cs
    else inRanges c.toNat casedRanges

/-- Lower case of the given characters; `before` are those in front of them, nearest first. A
capital sigma is final when a cased letter stands before it and none after it. -/
def lowerFrom (before : List Char) : List Char → List Char
  | [] => []
  | c :: cs =>
    (if c = 'Σ' then [if startsCased before && !startsCased cs then 'ς' else 'σ']
      else lowerChar c) ++ lowerFrom (c :: before) cs

def toLower (s : String) : String :=
  String.ofList (lowerFrom [] s.toList)

end PollRoster.Text
