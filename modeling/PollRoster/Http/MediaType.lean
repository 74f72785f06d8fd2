/-!
# Media types

Which values of the content type header announce JSON: the type `application` with the subtype
`json`, or with one that has `json` in front of or behind its last plus sign, and well-formed
parameters. Letter case does not count. The value is given as bytes, and those beyond ASCII can
stand nowhere in it.
-/

namespace PollRoster.Http

/-- The characters of a name in a header. -/
def isTokenChar (c : Char) : Bool :=
  c.isAlphanum || ['!', '#', '$', '%', '&', '\x27', '*', '+', '-', '.', '^', '_', '\x60', '|',
    '~'].contains c

/-- The characters of a quoted value in a header. -/
def isQuotedChar (c : Char) : Bool := ' ' ≤ c && c ≤ '~'

/-- Whether a text can be the value of a header: of the control characters it has tabs only. -/
def isHeaderValue (text : String) : Bool :=
  text.toList.all fun c => ' ' ≤ c && c ≠ '\x7f' || c = '\t'

/-- Where the reader of parameters stands. -/
inductive ParameterState where
  | start | name | valueStart | value | quoteStart | quoted | closed

namespace ParameterState

/-- Reads one character; `none` when the parameters are ill-formed. A quoted value has at least one
character, and the first may be a quotation mark. -/
def step? (state : ParameterState) (c : Char) : Option ParameterState :=
  match state with
  | .start => if c = ' ' then some .start else if isTokenChar c then some .name else none
  | .name => if isTokenChar c then some .name else if c = '=' then some .valueStart else none
  | .valueStart =>
    if c = '"' then some .quoteStart else if isTokenChar c then some .value else none
  | .value => if isTokenChar c then some .value else if c = ';' then some .start else none
  | .quoteStart => if isQuotedChar c then some .quoted else none
  | .quoted => if c = '"' then some .closed else if isQuotedChar c then some .quoted else none
  | .closed => if c = ' ' then some .closed else if c = ';' then some .start else none

/-- Whether the parameters may end here. -/
def mayEnd : ParameterState → Bool
  | .start | .valueStart | .value | .closed => true
  | .name | .quoteStart | .quoted => false

/-- Whether the parameters read on from a state are well-formed. -/
def accepts (state : ParameterState) : List Char → Bool
  | [] => state.mayEnd
  | c :: cs =>
    match state.step? c with
    | none => false
    | some state => state.accepts cs

end ParameterState

/-- Whether a subtype in lower case is that of JSON. A plus sign in front of it counts as a letter
of it. -/
def isJsonSubtype (subtype : List Char) : Bool :=
  let json := ['j', 's', 'o', 'n']
  let suffix := (subtype.reverse.takeWhile (· ≠ '+')).reverse
  let stem := subtype.take (subtype.length - suffix.length - 1)
  subtype == json || !stem.isEmpty && subtype.contains '+' && (stem == json || suffix == json)

def announcesJson (contentType : List UInt8) : Bool :=
  let chars := contentType.map fun b => Char.ofNat b.toNat
  let kind := chars.takeWhile isTokenChar
  match chars.dropWhile isTokenChar with
  | '/' :: rest =>
    kind.map Char.toLower == "application".toList &&
      isJsonSubtype ((rest.takeWhile isTokenChar).map Char.toLower) &&
      match rest.dropWhile isTokenChar with
      | [] => true
      | ';' :: parameters => ParameterState.start.accepts parameters
      | _ => false
  | _ => false

end PollRoster.Http
