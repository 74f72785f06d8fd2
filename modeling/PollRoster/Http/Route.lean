import PollRoster.Http.MediaType
import PollRoster.Http.Target
import PollRoster.Json.Reader
import PollRoster.Text.Numeral
import PollRoster.Wire.Service

/-!
# Routes

Which HTTP request asks for what. The path names a route, the route admits one method, and the rest
of the request is decoded as the route wants it: from the query, from the path or from the body. A
body is any sequence of bytes. It is read if its type is announced as JSON and it is not too long.
-/

namespace PollRoster.Http

/-- A request; a body that was not sent is empty. -/
structure Request where
  method : String
  target : Target
  /-- The value of the header that announces the type of the body. -/
  contentType : Option (List UInt8)
  body : List UInt8
  deriving DecidableEq, Repr

def isMethodName (text : String) : Bool := !text.isEmpty && text.toList.all isTokenChar

/-- Why a request is refused before it is answered. -/
inductive Refusal where
  | unknownPath
  | methodNotAllowed
  | unsupportedMediaType
  | bodyTooLong
  /-- A query, path or body that cannot be read. -/
  | malformed
  | illTyped
  deriving DecidableEq, Repr

def Refusal.status : Refusal → Nat
  | .unknownPath => 404
  | .methodNotAllowed => 405
  | .unsupportedMediaType => 415
  | .bodyTooLong => 413
  | .malformed => 400
  | .illTyped => 422

inductive Route where
  | hierarchy
  | representatives
  | assignments
  | bulkAssignments
  /-- One assignment, by the last part of the path. -/
  | assignment (part : List Char)
  | cacheInvalidation
  | preferenceAnalysis
  | navigator
  deriving DecidableEq, Repr

/-- The characters that follow `front`, if the text begins with it. -/
def after? : (front : List Char) → List Char → Option (List Char)
  | [], cs => some cs
  | _ :: _, [] => none
  | f :: front, c :: cs => if f = c then after? front cs else none

namespace Route

/-- The path in front of the identifier of an assignment. -/
def assignmentPath : List Char := "/assignments/".toList

/-- The routes with a path of their own. -/
def fixedPaths : List (List Char × Route) :=
  [("/hierarchy".toList, .hierarchy), ("/representatives".toList, .representatives),
    ("/assignments".toList, .assignments), ("/assignments/bulk".toList, .bulkAssignments),
    ("/cache/invalidate".toList, .cacheInvalidation),
    ("/preferences/analyze".toList, .preferenceAnalysis), ("/navigator".toList, .navigator)]

def ofPath? (path : List Char) : Option Route :=
  match fixedPaths.lookup path with
  | some route => some route
  | none =>
    match after? assignmentPath path with
    | none => none
    -- an identifier is one part of a path, and not an empty one
    | some part => if part.isEmpty || part.contains '/' then none else some (.assignment part)

/-- Whether a route admits a method. What may be got may also be asked for without its body. -/
def admits : Route → (method : String) → Bool
  | .hierarchy, method | .representatives, method => method == "GET" || method == "HEAD"
  | .assignment _, method => method == "DELETE"
  | _, method => method == "POST"

end Route

/-! ## Decoding -/

/-- The value of a parameter of a query, if it is given; given twice it is malformed. -/
def parameter (name : String) (read : String → Option α) (query : List (String × String)) :
    Except Refusal (Option α) :=
  match query.filter (·.1 == name) with
  | [] => .ok none
  | [(_, text)] =>
    match read text with
    | some a => .ok (some a)
    | none => .error .malformed
  | _ => .error .malformed

/-- An identifier in a query or path. -/
def readId? : String → Option Int := Text.intBetween? minId maxId

def scopeOfQuery (query : List (String × String)) : Except Refusal Scope := do
  return {
    region := ← parameter "region" readId? query
    province := ← parameter "province" readId? query
    municipality := ← parameter "municipality" readId? query
    district := ← parameter "district" (Text.natUpTo? maxNumber) query }

/-- The identifier in the last part of a path. -/
def idOfPart (part : List Char) : Except Refusal Int :=
  match (decodePathPart? part).bind readId? with
  | some id => .ok id
  | none => .error .malformed

open PollRoster.Json (Decoder)

/-- The number of bytes that a body may have. -/
def maxBodyLength : Nat := 2097152

/-- Decodes a JSON body, which is not looked into when it is too long. A fault in front decides
before one behind; text after the value counts only when the value decodes. -/
def decodeBody (decode : Decoder α) (r : Request) : Except Refusal α :=
  if !r.contentType.any announcesJson then .error .unsupportedMediaType
  else if maxBodyLength < r.body.length then .error .bodyTooLong
  else
    let document := Json.readBytes r.body
    match decode document.value with
    | .error .malformed => .error .malformed
    | .error .illTyped => .error .illTyped
    | .ok a => if document.endsThere then .ok a else .error .malformed

def Route.decode (route : Route) (query : List Char) (r : Request) :
    Except Refusal Service.Request :=
  match route with
  | .hierarchy => do return .hierarchy (← scopeOfQuery (readQuery query))
  | .representatives => do
    let query := readQuery query
    return .representatives (← scopeOfQuery query) (← parameter "filter" some query)
  | .assignments => decodeBody Wire.asCreateRequest r
  | .bulkAssignments => decodeBody Wire.asBulkRequest r
  | .assignment part => do return .delete (← idOfPart part)
  | .cacheInvalidation => decodeBody Wire.asInvalidateRequest r
  | .preferenceAnalysis => decodeBody Wire.asAnalyzeRequest r
  | .navigator => decodeBody Wire.asNavigateRequest r

def Request.understand (r : Request) : Except Refusal Service.Request :=
  match Route.ofPath? r.target.path with
  | none => .error .unknownPath
  | some route =>
    if route.admits r.method then route.decode r.target.query r else .error .methodNotAllowed

end PollRoster.Http
