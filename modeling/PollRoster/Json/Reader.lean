import PollRoster.Json.Token

/-!
# Reading JSON

The value of a list of tokens, built with a stack of the arrays and objects that are still open.
-/

namespace PollRoster.Json

/-- An open array or object; what it holds so far is kept last first. -/
inductive Frame where
  | array (items : List Json)
  | object (members : List (Option String × Json))
  /-- An object with a key whose value is still to come. -/
  | member (members : List (Option String × Json)) (key : Option String)

/-- What may come next. -/
inductive Await where
  | value
  | itemOrEnd
  | keyOrEnd
  | key
  | colon
  | commaOrEnd

inductive Advance where
  | goOn (stack : List Frame) (await : Await)
  | done (value : Json)
  | fail

/-- Puts a finished value into the innermost open frame. -/
def complete (value : Json) : List Frame → Advance
  | [] => .done value
  | .array items :: stack => .goOn (.array (value :: items) :: stack) .commaOrEnd
  | .member members key :: stack => .goOn (.object ((key, value) :: members) :: stack) .commaOrEnd
  | .object _ :: _ => .fail

/-- A token where a value has to start. -/
def startValue (stack : List Frame) : Token → Advance
  | .beginArray => .goOn (.array [] :: stack) .itemOrEnd
  | .beginObject => .goOn (.object [] :: stack) .keyOrEnd
  | .text s => complete (.text s) stack
  | .atom value => complete value stack
  | _ => .fail

/-- Closes the innermost frame with the token that ends it. -/
def close (token : Token) : List Frame → Advance
  | .array items :: stack =>
    match token with
    | .endArray => complete (.array items.reverse) stack
    | _ => .fail
  | .object members :: stack =>
    match token with
    | .endObject => complete (.object members.reverse) stack
    | _ => .fail
  | _ => .fail

/-- A token where an object wants a key. -/
def startMember (token : Token) : List Frame → Advance
  | .object members :: stack =>
    match token with
    | .text key => .goOn (.member members key :: stack) .colon
    | _ => .fail
  | _ => .fail

/-- A comma makes an array want a value and an object a key. -/
def separate : List Frame → Advance
  | .array items :: stack => .goOn (.array items :: stack) .value
  | .object members :: stack => .goOn (.object members :: stack) .key
  | _ => .fail

def advance (stack : List Frame) (await : Await) (token : Token) : Advance :=
  match await, token with
  | .value, token => startValue stack token
  | .itemOrEnd, .endArray => close .endArray stack
  | .itemOrEnd, token => startValue stack token
  | .keyOrEnd, .endObject => close .endObject stack
  | .keyOrEnd, token => startMember token stack
  | .key, token => startMember token stack
  | .colon, .colon => .goOn stack .value
  | .colon, _ => .fail
  | .commaOrEnd, .comma => separate stack
  | .commaOrEnd, token => close token stack

/-- The value of a text that breaks off here: every open frame is closed over the break. -/
def abandon : List Frame → Json → Json
  | [], value => value
  | .array items :: stack, value => abandon stack (.array (value :: items).reverse)
  | .object members :: stack, value =>
    abandon stack (.object ((none, value) :: members).reverse)
  | .member members key :: stack, value =>
    abandon stack (.object ((key, value) :: members).reverse)

/-- The value of the tokens read on from the given stack, with the tokens behind it. -/
def build (stack : List Frame) (await : Await) : List Token → Json × List Token
  | [] => (abandon stack .broken, [])
  | token :: rest =>
    match advance stack await token with
    | .goOn stack await => build stack await rest
    | .done value => (value, rest)
    | .fail => (abandon stack .broken, rest)

/-- What was read as JSON: the value at its start, and whether nothing but white space follows. -/
structure Document where
  value : Json
  endsThere : Bool

def documentOf (ts : List Token) : Document :=
  let (value, rest) := build [] .value ts
  ⟨value, rest.isEmpty⟩

def read (s : String) : Document := documentOf (tokens s)

/-- Bytes read as JSON. -/
def readBytes (bytes : List UInt8) : Document := documentOf (tokensOfBytes bytes)

end PollRoster.Json
