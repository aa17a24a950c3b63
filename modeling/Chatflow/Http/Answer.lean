import Chatflow.Cache.RateLimit
import Chatflow.Conversation.Request
import Chatflow.Digest.Signature
import Chatflow.Http.Route
import Chatflow.Webhook

/-! The answers of the endpoints. Events that come in through a webhook are accepted first and handled
afterwards, so that whoever delivers them need not wait. Where a key is configured, what drives flows or tells
numbers is answered only to those who know it. -/

namespace Chatflow.Http

/-- A response, and the events that are to be handled once it is sent. -/
structure Answer where
  response : Response
  events : List Event := []
deriving Repr

namespace Answer

/-- Whether a request comes with the key, if one is configured. -/
def knowsKey (settings : Settings) (r : Request) : Except Fault Bool :=
  match filled? settings.apiKey with
  | none => .ok true
  | some key =>
    match filled? (r.header? "x-api-key") with
    | none => .ok false
    | some given => Digest.agrees given key

/-- Goes on if something was found right, and refuses the request if not. -/
def proceed (isRight : Except Fault Bool) (reason : String) (next : Work Answer) : Work Answer := do
  if ← Work.check isRight then next else return ⟨.refusal 403 reason, []⟩

/-- Answers to those who know the key. -/
def withKey (setup : Setup) (r : Request) (next : Work Answer) : Work Answer :=
  proceed (knowsKey setup.settings r) "Invalid or missing API key" next

/-- The place of the body in the issues of a request. -/
def bodyStep : Schema.PathStep := .field "body"

def readBody {α : Type} (reader : Schema.Reader α) : Option Value → Schema.Check α
  | none => .failed [⟨[bodyStep], .missing⟩]
  | some (.obj fields) => (reader (.obj fields)).at' bodyStep
  | some _ => .failed [⟨[bodyStep], .notTagged⟩]

/-- What an issue is about: the value in its place, or what it is missing from. -/
def blamed : Value → List Schema.PathStep → Value
  | .obj fields, .field name :: path =>
    match Fields.get? fields name with
    | some v => blamed v path
    | none => .obj fields
  | v, _ => v

/-- Tells the issues of a body, each together with what it is about, which therefore must be such that it can be
sent. -/
def refuse (body : Value) (issues : List Schema.Issue) : Work Answer :=
  if issues.all fun issue => (blamed body issue.path.tail).isWritable then return ⟨.unprocessable issues, []⟩
  else Work.fail .wrongType

/-- Answers a request with what came of it. A body that is no document at all is told first, then a key that is
missing, and then what is wrong with the document. -/
def report {α : Type} (setup : Setup) (r : Request) (reader : Schema.Reader α) (act : α → Work Outcome) :
    Work Answer :=
  match r.content? with
  | .error (.noDocument (.malformed _ offset)) =>
    return ⟨.unprocessable [⟨[bodyStep, .index offset], .badJson⟩], []⟩
  | .error _ => return ⟨.refusal 400 "There was an error parsing the body", []⟩
  | .ok body => withKey setup r <|
    match readBody reader body with
    | .ok a => return ⟨.ofDocument (← act a).report.toValue, []⟩
    | .failed issues => refuse (body.getD .null) issues
    | .broken halt => Work.fail (.ofHalt halt)

def banner (settings : Settings) : Response :=
  .ofDocument (.obj [("service", .str "FunnelChat Flow Runtime"), ("version", .str "1.0.0"),
    ("status", .str "operational"), ("environment", .str settings.environment)])

def health (setup : Setup) : Work Response := do
  let now ← Work.check setup.utcNow
  return .ofDocument (.obj [("status", .str "healthy"), ("timestamp", .str (Instant.civilText now.civil))])

/-- How many flows are active, once the database and the cache have been reached. -/
def probe (setup : Setup) : Work Nat := do
  if setup.settings.sessionBackend = "mongo" then
    if !(← Work.onOutside Documents.isHealthy) then
      Work.fail (.outside "RuntimeError" "database unreachable")
  if let some link := setup.link then
    let _ ← Work.tryOutside (link .ping)
  return (← Offer.active setup).length

def readiness (setup : Setup) : Work Response := do
  return match ← Work.attempt (probe setup) with
    | .ok n => .ofDocument (.obj [("status", .str "ready"), ("active_flows", .int n)])
    | .error fault => .refusal 503 ("Service not ready: " ++ fault.message)

/-- Confirms to the channel that deliveries may be sent here, by returning what it asks to be returned. -/
def confirmWebhook (settings : Settings) (r : Request) : Response :=
  if r.query? "hub.mode" = some "subscribe" ∧ r.query? "hub.verify_token" = some settings.verifyToken then
    .ofText ((r.query? "hub.challenge").getD "")
  else .refusal 403 "Forbidden"

/-- The events of contacts who have not sent too many. -/
def withinQuota (setup : Setup) (events : List Event) : Work (List Event) :=
  events.filterM fun e => Work.onOutside
    (RateLimit.hit setup.link (.address e.address) ⟨.whole setup.settings.addressRateLimit, 60⟩)

/-- Accepts the events of a delivery, unless its sender has sent too many. -/
def acceptDelivery (setup : Setup) (r : Request) (delivery : Value) : Work Answer := do
  let peer := Webhook.remoteAddress (r.header? "x-forwarded-for") r.peer
  if ← Work.onOutside (RateLimit.hit setup.link (.peer peer) ⟨.whole setup.settings.peerRateLimit, 60⟩) then
    let events ← withinQuota setup (← Work.check (Webhook.events delivery))
    return ⟨.ofDocument (.obj [("status", .str "success"), ("events", .int events.length)]), events⟩
  else return ⟨.ofDocument (.obj [("status", .str "rate_limited")]) 429, []⟩

/-- Takes a delivery of the channel, which has to be signed. -/
def deliver (setup : Setup) (r : Request) : Work Answer :=
  let signature := (r.header? "x-hub-signature-256").getD ""
  proceed (Digest.verify (Text.utf8 r.body) signature setup.settings.signingSecret) "Invalid signature" <|
    match Value.ofJson r.body with
    | .ok delivery => acceptDelivery setup r delivery
    | .error (.malformed ..) => return ⟨.refusal 400 "Invalid JSON", []⟩
    | .error e => Work.fail (.badJson r.body e)

/-- The fields in which other services may name the contact. -/
def contactNames : List String := ["channel_address", "phone", "telefono", "whatsapp", "address"]

/-- The contact that a payload names first. -/
def contactOf? (payload : Fields) : Option String :=
  (contactNames.findSome? fun name => (payload.get? name).filter Value.truthy).bind fun v =>
    filled? (some (Phone.normalize v.display))

/-- The event of another service's payload. -/
def integrationEvent (flowId address : String) (payload : Fields) : Schema.Check Event :=
  Event.ofValue (.obj [("channel_address", .str address), ("kind", .str EventKind.thirdParty.name),
    ("trigger_id", .str flowId), ("contact_name", (payload.get? "name").getD .null),
    ("device_id", (payload.get? "device_id").getD .null), ("payload", .obj payload)])

/-- Takes a payload of another service for a flow. -/
def integrate (flowId : String) (r : Request) : Work Answer :=
  match r.document with
  | .error .noText | .error (.noDocument (.malformed ..)) => return ⟨.refusal 400 "Invalid JSON", []⟩
  | .error (.noDocument e) => Work.fail (.badJson r.body e)
  | .ok (.obj payload) =>
    match contactOf? payload with
    | none => return ⟨.refusal 422 "Payload carries no contact phone", []⟩
    | some address => do
      let e ← Work.check (integrationEvent flowId address payload).toExcept
      return ⟨.ofDocument (.obj [("status", .str "accepted")]), [e]⟩
  | .ok _ => return ⟨.refusal 422 "Payload must be a JSON object", []⟩

/-- Resets a contact. -/
def resetSessions (setup : Setup) (address : String) : Work Response := do
  if Phone.normalize address = "" then return .refusal 422 "Invalid address"
  return .ofDocument (← Conversation.reset setup address).report.toValue

def tagEvent (t : TagRequest) : Event :=
  { address := t.address, kind := .tagAdded, tagId := some t.tagId, deviceId := t.deviceId,
    contactName := t.contactName, contactId := t.contactId }

/-- The description of the interface, of which only that it is there can be told. -/
def description : Response := .ofText ""

def ofEndpoint (setup : Setup) (r : Request) : Endpoint → Work Answer
  | .banner => return ⟨banner setup.settings, []⟩
  | .health => return ⟨← health setup, []⟩
  | .readiness => return ⟨← readiness setup, []⟩
  | .metrics => withKey setup r (return ⟨⟨200, .metrics MetricFamily.all, none⟩, []⟩)
  | .confirmWebhook => return ⟨confirmWebhook setup.settings r, []⟩
  | .deliver => deliver setup r
  | .integrate flowId => integrate flowId r
  | .startFlow => report setup r StartRequest.ofValue fun a =>
    Conversation.startFlow setup a.flowId a.address a.vars
  | .continueSession => report setup r ContinueRequest.ofValue fun a =>
    Conversation.continueFlow setup a.address a.flowId a.text a.replyId
  | .resumeSession => report setup r ResumeRequest.ofValue fun a => Conversation.resume setup a.sessionId
  | .resetSessions address => withKey setup r do return ⟨← resetSessions setup address, []⟩
  | .reportTag => report setup r TagRequest.ofValue fun a => Conversation.handleEvent setup (tagEvent a)
  | .description => return ⟨description, []⟩

def ofRequest (setup : Setup) (r : Request) : Work Answer :=
  match r.route with
  | .endpoint e => ofEndpoint setup r e
  | .wrongMethod => return ⟨.refusal 405 "Method Not Allowed", []⟩
  | .redirect => return ⟨.ofText "" 307, []⟩
  | .unknown => return ⟨.refusal 404 "Not Found", []⟩

end Answer

end Chatflow.Http
