import Chatflow.Http.Message
import Chatflow.Http.Percent

/-! Where requests go: by the segments of their path, and then by their method. A line break after a path does
not count. A path that would be right with a slash more at its end, or without those at its end, is answered
with a redirection. -/

namespace Chatflow.Http

inductive Endpoint where
  | banner
  | health
  | readiness
  | metrics
  | confirmWebhook
  | deliver
  | integrate (flowId : String)
  | startFlow
  | continueSession
  | resumeSession
  | resetSessions (address : String)
  | reportTag
  /-- What the interface is, described for people and programs. -/
  | description
deriving Repr, DecidableEq

inductive Route where
  | endpoint (e : Endpoint)
  | wrongMethod
  | redirect
  | unknown
deriving Repr, DecidableEq

/-- What is under a path below that of the interface, by method. -/
def interfaceEndpoints : List String → List (String × Endpoint)
  | ["webhooks", "whatsapp"] => [("GET", .confirmWebhook), ("POST", .deliver)]
  | ["integrations", flowId, "webhook"] => if flowId = "" then [] else [("POST", .integrate flowId)]
  | ["runtime", "start"] => [("POST", .startFlow)]
  | ["runtime", "continue"] => [("POST", .continueSession)]
  | ["runtime", "resume"] => [("POST", .resumeSession)]
  | ["triggers", "tag-added"] => [("POST", .reportTag)]
  | ["docs"] | ["docs", "oauth2-redirect"] | ["openapi.json"] => [("GET", .description), ("HEAD", .description)]
  | _ => []

/-- A path without one line break at its end. -/
def withoutBreak (path : String) : String :=
  if path.endsWith "\n" then String.ofList path.toList.dropLast else path

/-- The address in a path for the sessions of a contact. A line break at its end belongs to it. -/
def sessionsAddress? (path : String) : Option String :=
  match Text.split '/' path with
  | ["", "api", "v1", "sessions", address] => filled? address
  | _ => none

def endpoints (path : String) : List (String × Endpoint) :=
  match sessionsAddress? path with
  | some address => [("DELETE", .resetSessions address)]
  | none =>
    match Text.split '/' (withoutBreak path) with
    | ["", ""] => [("GET", .banner)]
    | ["", "health"] => [("GET", .health)]
    | ["", "health", "ready"] => [("GET", .readiness)]
    | ["", "metrics"] => [("GET", .metrics)]
    | "" :: "api" :: "v1" :: rest => interfaceEndpoints rest
    | _ => []

/-- The path that may have been meant instead: without the slashes at the end, or with one. -/
def alternative (path : String) : String :=
  if path.endsWith "/" then String.ofList ((path.toList.reverse.dropWhile (· == '/')).reverse) else path ++ "/"

/-- Where a request of a method for a path goes. -/
def route (method path : String) : Route :=
  match endpoints path with
  | [] => if path ≠ "/" ∧ endpoints (alternative path) ≠ [] then .redirect else .unknown
  | offers =>
    match offers.find? fun offer => offer.1 == method with
    | some (_, e) => .endpoint e
    | none => .wrongMethod

def Request.route (r : Request) : Route := Http.route r.method (plainPath r.path)

end Chatflow.Http
