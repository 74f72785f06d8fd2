/-!
# Occurrence of one text in another
-/

namespace PollRoster.Text

/-- Whether `needle` stands somewhere in the given characters, without a gap. -/
def occursIn (needle : List Char) : List Char → Bool
  | [] => needle.isEmpty
  | c :: cs => needle.isPrefixOf (c :: cs) || occursIn needle cs

/-- Whether the text contains `needle`; every text contains the empty one. -/
def contains (s needle : String) : Bool :=
  occursIn needle.toList s.toList

end PollRoster.Text
