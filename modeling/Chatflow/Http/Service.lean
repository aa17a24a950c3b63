import Chatflow.Http.Answer

/-! The service: requests are cut off when their time is up, browsers are told which pages may send requests,
faults become responses, and events that were accepted are handled after the response. -/

namespace Chatflow.Http

/-- How many seconds a request may take. -/
def timeLimit : Float := 30

def allowedOrigins : List String := ({} : Settings).allowedOrigins

def allowedMethods : List String := ["GET", "POST", "DELETE"]

/-- What is not allowed about a request that a browser is going to send. Requests from a wider network into
this one never are. -/
def disallowed (origin method : String) (crossesNetworks : Bool) : List String :=
  (if allowedOrigins.contains origin then [] else ["origin"]) ++
    (if allowedMethods.contains method then [] else ["method"]) ++
    if crossesNetworks then ["private-network"] else []

/-- The answer to a browser that asks what requests it may send. -/
def preflight? (r : Request) : Option Response :=
  match r.method, r.header? "origin", r.header? "access-control-request-method" with
  | "OPTIONS", some origin, some method =>
    match disallowed origin method (r.header? "access-control-request-private-network").isSome with
    | [] => some (.ofText "OK")
    | failures => some (.ofText ("Disallowed CORS " ++ ", ".intercalate failures) 400)
  | _, _, _ => none

/-- The response to a fault that the one who asked can do something about. -/
def ofFault? (fault : Fault) : Option Response :=
  match fault with
  | .flowNotFound _ | .sessionNotFound .. => some (.refusal 404 fault.message)
  | .startConflict _ | .continueConflict .. => some (.refusal 409 fault.message)
  | _ => none

/-- The response to any other fault. The request is not told back in it. -/
def failure : Response := .ofText "Internal Server Error" 500

/-- Handles events one after another; one that fails does not keep the others from being handled. -/
def handleAll (setup : Setup) : List Event → Work Unit
  | [] => return ()
  | e :: rest => do
    let _ ← Work.attempt (Conversation.handleEvent setup e)
    handleAll setup rest

/-- A response that can be sent, in the place of one that perhaps cannot. -/
def sendable (r : Request) (response : Response) : Response :=
  if response.isWritable then response.answering r else failure

/-- Answers a request, and handles what was accepted with it. -/
def respond (setup : Setup) (r : Request) : Work Response := do
  match ← Work.attempt (Answer.ofRequest setup r) with
  | .ok answer =>
    handleAll setup answer.events
    return sendable r answer.response
  | .error fault => return ((ofFault? fault).map (sendable r)).getD failure

/-- A response as it is sent: without what it holds, if only its head was asked for. -/
def sent (r : Request) (response : Response) : Response :=
  if r.method = "HEAD" then { response with content := .plain "" } else response

def serve (setup : Setup) (r : Request) (limit : Float := timeLimit) : Work Response := do
  if limit ≤ 0 then return sent r ((Response.refusal 504 "Request timed out").answering r)
  match preflight? r with
  | some response => return response.answering r
  | none => return sent r (← respond setup r)

end Chatflow.Http
