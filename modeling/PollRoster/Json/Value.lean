import PollRoster.Decimal

/-!
# JSON values

A value as far as its text could be read. A text that stops being JSON somewhere still has a value:
everything in front of that place, with `broken` as the last leaf. A decoder that walks the value in
text order therefore meets an ill-typed part before a later break, and a break before a later
ill-typed part.
-/

namespace PollRoster

/-- A JSON value. Numbers that are integers are apart from those that merely have such a value. -/
inductive Json where
  | null
  | bool (b : Bool)
  /-- A number without fraction and exponent that fits in 64 bits, with or without sign. -/
  | integer (i : Int)
  /-- Any other number of ordinary size, with those of its digits that fit in 64 bits. -/
  | real (d : Decimal)
  /-- A number beyond every finite double. -/
  | huge
  /-- A string literal, or `none` when its escapes name half of a surrogate pair or its bytes are no
  characters. -/
  | text (s : Option String)
  | array (items : List Json)
  | object (members : List (Option String × Json))
  /-- The place where the text stops being JSON. -/
  | broken

namespace Json

def string (s : String) : Json := .text (some s)

/-- An object with the given members, in order. -/
def ofMembers (members : List (String × Json)) : Json :=
  .object (members.map fun (key, value) => (some key, value))

/-- The literal of an optional value: `null` when there is none. -/
def ofOption (encode : α → Json) : Option α → Json
  | none => .null
  | some a => encode a

def ofList (encode : α → Json) (xs : List α) : Json := .array (xs.map encode)

def ofNat (n : Nat) : Json := .integer n

end Json

end PollRoster
