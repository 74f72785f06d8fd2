import PollRoster.Http.Route

/-!
# Responses

How a request is answered over HTTP. A refused request never reaches the service. A request that
finds the database held by another one until its time is over is answered with a timeout.
-/

namespace PollRoster.Http

open PollRoster.Json (ofMembers string)

structure Response where
  status : Nat
  body : Option Json

namespace Response

def ofFailure (status : Nat) (text : String) : Response :=
  ⟨status, some (ofMembers [("error", .bool true), ("message", string text)])⟩

/-- The response to a request that failed. A bulk assignment that failed in part is answered with
its report. -/
def ofError (e : ServiceError) : Response :=
  match e with
  | .slotOccupied .. => ofFailure 409 e.message
  | .resourceNotFound .. => ofFailure 404 e.message
  | .invalidInput .. => ofFailure 400 e.message
  | .ruleViolation .. => ofFailure 422 e.message
  | .partialFailure answer => ⟨207, some (Wire.ofBulkAnswer answer)⟩
  | .cancelled .. => ofFailure 408 e.message
  | .internal .. => ofFailure 500 e.message

/-- The status of a reply: an assignment that was made is reported as created. -/
def replyStatus : Service.Reply → Nat
  | .assigned outcome => if outcome.isCreated then 201 else 200
  | _ => 200

def ofReply (reply : Service.Reply) : Response := ⟨replyStatus reply, some (Wire.ofReply reply)⟩

def ofRefusal (refusal : Refusal) : Response := ⟨refusal.status, none⟩

/-- The response to a request whose time is over. -/
def timedOut : Response := ofFailure 408 "Request timed out"

/-- The response as it is sent: without its body when only the head was asked for. -/
def sentFor (method : String) (r : Response) : Response :=
  if method == "HEAD" then { r with body := none } else r

end Response

/-- Whether another request holds the database. -/
inductive Access where
  | free
  | held
  deriving DecidableEq, Repr

/-- Has the service answer what a request asks for. -/
def serve (maxAutoSkip : Nat) (access : Access) (request : Service.Request) (e : Engine Database) :
    Response × Engine Database :=
  match access with
  | .held => (.timedOut, e)
  | .free =>
    match Service.handle maxAutoSkip none request e with
    | (.ok reply, e) => (.ofReply reply, e)
    | (.error error, e) => (.ofError error, e)

def respond (maxAutoSkip : Nat) (access : Access) (r : Request) (e : Engine Database) :
    Response × Engine Database :=
  match r.understand with
  | .error refusal => (.ofRefusal refusal, e)
  | .ok request =>
    let (response, e) := serve maxAutoSkip access request e
    (response.sentFor r.method, e)

end PollRoster.Http
