/-!
# Authorities

The part of a request target that names a host: an optional user in front of an at sign, the host,
which may be an address in brackets, and an optional number behind a colon. Only its form is
checked.
-/

namespace PollRoster.Http

/-- The characters that end an authority. -/
def endsAuthority (c : Char) : Bool := c = '/' || c = '?' || c = '#'

/-- The characters of an authority without a meaning of their own. -/
def isPlainInAuthority (c : Char) : Bool :=
  c.isAlphanum || ['!', '$', '&', '\x27', '(', ')', '*', '+', ',', '-', '.', ';', '=', '_',
    '~'].contains c

/-- What was read of an authority. Colons and escapes are counted since the last at sign or closing
bracket: in front of these they belong to a user or an address. -/
structure AuthorityReading where
  colons : Nat
  hasEscape : Bool
  isOpened : Bool
  isClosed : Bool
  endsInAt : Bool

namespace AuthorityReading

def start : AuthorityReading := ⟨0, false, false, false, false⟩

/-- The greatest number of colons in a row of parts. -/
def maxColons : Nat := 8

/-- Reads one character; `none` when it cannot stand there. -/
def step? (r : AuthorityReading) (c : Char) : Option AuthorityReading :=
  let next := { r with endsInAt := false }
  match c with
  | ':' => if r.colons < maxColons then some { next with colons := r.colons + 1 } else none
  | '[' => if r.hasEscape || r.isOpened then none else some { next with isOpened := true }
  | ']' =>
    if !r.isOpened || r.isClosed then none
    else some { next with isClosed := true, colons := 0, hasEscape := false }
  | '@' => some { r with endsInAt := true, colons := 0, hasEscape := false }
  | '%' => some { next with hasEscape := true }
  | c => if isPlainInAuthority c then some next else none

/-- Whether the authority may end here: brackets are paired, one colon at most leads to a number, a
host follows the user, and the host has no escapes. -/
def mayEnd (r : AuthorityReading) : Bool :=
  r.isOpened == r.isClosed && r.colons ≤ 1 && !r.endsInAt && !r.hasEscape

end AuthorityReading

def isAuthority (cs : List Char) : Bool :=
  !cs.isEmpty && (cs.foldlM AuthorityReading.step? .start).any (·.mayEnd)

end PollRoster.Http
