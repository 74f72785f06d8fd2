import PollRoster.RuleError
import PollRoster.Text.Blank
import PollRoster.Text.LetterCase

/-!
# Roles

A section has two slots, one for each role. A role is stored as its code; an operator may also write
one of its other names, in any letter case.
-/

namespace PollRoster

/-- The role of a poll watcher in a section. -/
inductive Role where
  | primary
  | alternate
  deriving DecidableEq, Repr

namespace Role

def all : List Role := [.primary, .alternate]

/-- The code under which the role is stored. -/
def code : Role → String
  | .primary => "RDL"
  | .alternate => "SUPPLENTE"

/-- The role with the given name in upper case. -/
def named? (name : String) : Option Role :=
  if name = "RDL" ∨ name = "EFFETTIVO" ∨ name = "PRIMARY" then some .primary
  else if name = "SUPPLENTE" ∨ name = "ALTERNATE" then some .alternate
  else none

/-- Reads a role without regard to letter case and to white space around it. -/
def ofText (text : String) : Except RuleError Role :=
  match named? (Text.toUpper (Text.trim text)) with
  | some role => .ok role
  | none => .error (.invalidRole text)

end Role

end PollRoster
