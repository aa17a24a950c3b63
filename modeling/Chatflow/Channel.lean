import Chatflow.Action
import Chatflow.Outside
import Chatflow.Phone

/-! Messages to contacts. Each one is posted to the messaging channel through a circuit breaker. A post is
made up to three times, and again only if the connection was at fault. Sending never fails as such: what goes
wrong is told to the operators, and the message has no id then. The breaker keeps its state by the link that is
given, which is that of the setup unless another one is. -/

namespace Chatflow.Channel

open Chatflow.Text
open Chatflow.Cache (Link)

def circuit : SharedBreaker.Circuit := ⟨"whatsapp", {}⟩

/-- How often a post is made at most. -/
def maxAttempts : Nat := 3

/-- What the channel answers of its own accord: the message is accepted under a new id. -/
def acceptance (n : Nat) : Value := .obj [("messages", .list [.obj [("id", .str s!"wamid.{n}")]])]

/-- The status of an answer, and its body if that is JSON. -/
abbrev Answer := Int × Except Fault Value

def post (url : String) (body : Value) : StateM Outside (Except Fault Answer) := do
  modify fun o => { o with posts := o.posts ++ [⟨url, body⟩] }
  let answer := (← get).channelAnswers.head?.join
  modify fun o => { o with channelAnswers := o.channelAnswers.tail }
  match answer with
  | none =>
    modify fun o => { o with accepted := o.accepted + 1 }
    return .ok (200, .ok (acceptance (← get).accepted))
  | some (.response status body) => return .ok (status, .ok body)
  | some (.illegible status message) => return .ok (status, .error (.outside "JSONDecodeError" message))
  | some (.lost message) => return .error (.connectionLost message)
  | some (.broken message) => return .error (.outside "Exception" message)

def postAgain (setup : Setup) (link : Option (Link Outside)) (url : String) (body : Value) (attempt : Nat) :
    Nat → StateM Outside (Except Fault Answer)
  | 0 => return .error .retriesExhausted
  | left + 1 => do
    match ← SharedBreaker.callVia link circuit setup.reading (post url body) with
    | .error (.connectionLost _) =>
      if left = 0 then return .error .retriesExhausted
      else
        Outside.rest (.backoff attempt)
        postAgain setup link url body (attempt + 1) left
    | result => return result

/-- Posts something as often as necessary and allowed. -/
def postPatiently (setup : Setup) (url : String) (body : Value) (link : Option (Link Outside) := setup.link) :
    StateM Outside (Except Fault Answer) :=
  if setup.works .posting then postAgain setup link url body 1 maxAttempts
  else return .error (.outside "Exception" "broken")

def tableOf? : Value → Except Fault Fields
  | .obj fields => .ok fields
  | _ => .error .malformedResponse

/-- The first item of the list that a value must be. A table is told apart: it is asked for an entry under zero,
and there is none. -/
def firstOf? : Value → Except Fault Value
  | .list (item :: _) => .ok item
  | .obj _ => .error (.noEntry (.int 0))
  | _ => .error .malformedResponse

def messageId (body : Value) : Except Fault Value := do
  let messages := ((← tableOf? body).get? "messages").getD (.list [.obj []])
  return ((← tableOf? (← firstOf? messages)).get? "id").getD .null

def checkRefusal (body : Value) : Except Fault Unit := do
  let error := ((← tableOf? body).get? "error").getD .null
  if error.truthy then let _ ← tableOf? error

def reportFailure (setup : Setup) (recipient : Value) (f : Fault) : StateM Outside Unit :=
  Outside.raiseAlert setup "critical" "WhatsApp send message unexpected error"
    [("phone", recipient), ("error", .str f.message)]

/-- Tells the operators that the channel does not know us. -/
def reportStranger (setup : Setup) : StateM Outside Unit :=
  Outside.raiseAlert setup "critical" "WhatsApp authentication failed" [("error", .str "Invalid access token")]

def send (setup : Setup) (message : Fields) (phone : Option String) (link : Option (Link Outside) := setup.link) :
    StateM Outside Value := do
  let recipient := (message.get? "to").getD .null
  if !recipient.truthy then return .null
  let url := setup.channelUrl ++ "/" ++ (filled? phone).getD setup.channelPhone ++ "/messages"
  match ← postPatiently setup url (.obj message) link with
  | .error f =>
    reportFailure setup recipient f
    return .null
  | .ok (status, body) =>
    if status = 200 then
      match body >>= messageId with
      | .ok id => return id
      | .error f =>
        reportFailure setup recipient f
        return .null
    else
      match body >>= checkRefusal with
      | .ok () =>
        if status = 401 then reportStranger setup
        return .null
      | .error f =>
        reportFailure setup recipient f
        return .null

def heading (recipient : String) : Fields :=
  [("messaging_product", .str "whatsapp"), ("recipient_type", .str "individual"),
    ("to", .str (Phone.recipient recipient))]

/-- The most characters of a text, and of the text above buttons or below a medium. -/
def textMax : Nat := 4096
def captionMax : Nat := 1024

/-- The most buttons of a message, and the most characters of their titles. -/
def buttonsMax : Nat := 3
def titleMax : Nat := 20

/-- A message with a text, which is as short as it has to be. -/
def textWith (recipient : String) (body : Value) : Fields :=
  heading recipient ++ [("type", .str "text"), ("text", .obj [("body", body)])]

def textMessage (recipient text : String) : Fields := textWith recipient (.str (clip textMax text))

/-- A button with an id and a title, which is as short as it has to be. -/
def buttonWith (id title : Value) : Value :=
  .obj [("type", .str "reply"), ("reply", .obj [("id", id), ("title", title)])]

def buttonValue (b : Button) : Value := buttonWith (.str b.id) (.str (clip titleMax b.title))

/-- A text with buttons under it, none of which is too long and which are not too many. -/
def buttonsWith (recipient : String) (body : Value) (buttons : List Value) : Fields :=
  heading recipient ++ [("type", .str "interactive"),
    ("interactive", .obj [("type", .str "button"), ("body", .obj [("text", body)]),
      ("action", .obj [("buttons", .list buttons)])])]

def buttonsMessage (recipient body : String) (buttons : List Button) : Fields :=
  buttonsWith recipient (.str (clip captionMax body)) ((buttons.take buttonsMax).map buttonValue)

def mediumWith (recipient : String) (kind : Value) (field : String) (medium : Fields) : Fields :=
  Fields.set (heading recipient ++ [("type", kind)]) field (.obj medium)

/-- A medium, by the id under which it was uploaded or by a public link. Sound has no caption, and only a
document has a name. -/
def mediaMessage (recipient : String) (kind : String) (source : String × String) (caption fileName : Option String) :
    Fields :=
  let described := match filled? caption with
    | some caption => if kind = "audio" then [] else [("caption", Value.str (clip captionMax caption))]
    | none => []
  let named := match filled? fileName with
    | some name => if kind = "document" then [("filename", Value.str name)] else []
    | none => []
  mediumWith recipient (.str kind) kind ((source.1, .str source.2) :: described ++ named)

/-- A template that the channel knows, by a name and in a language, with what is filled in. -/
def templateWith (recipient : String) (name language : Value) (params : List String) : Fields :=
  let parameter (p : String) : Value := .obj [("type", .str "text"), ("text", .str p)]
  let components : List Value :=
    if params.isEmpty then []
    else [.obj [("type", .str "body"), ("parameters", .list (params.map parameter))]]
  [("messaging_product", .str "whatsapp"), ("to", .str (Phone.recipient recipient)), ("type", .str "template"),
    ("template", .obj [("name", name), ("language", .obj [("code", language)]), ("components", .list components)])]

/-- A template that the channel knows, with what is filled in. -/
def templateMessage (recipient name language : String) (params : List String) : Fields :=
  templateWith recipient (.str name) (.str language) params

def sendText (setup : Setup) (recipient text : String) (phone : Option String := none)
    (link : Option (Link Outside) := setup.link) : StateM Outside Value :=
  send setup (textMessage recipient text) phone link

def sendButtons (setup : Setup) (recipient body : String) (buttons : List Button) (phone : Option String)
    (link : Option (Link Outside) := setup.link) : StateM Outside Value :=
  send setup (buttonsMessage recipient body buttons) phone link

/-- Where a medium is to be found: under its id, or else at its address. -/
def mediaSource? (url mediaId : Option String) : Option (String × String) :=
  match filled? mediaId, filled? url with
  | some id, _ => some ("id", id)
  | none, some url => some ("link", url)
  | none, none => none

def sendMedia (setup : Setup) (recipient kind : String) (url mediaId caption fileName : Option String)
    (phone : Option String) (link : Option (Link Outside) := setup.link) : StateM Outside Value :=
  match mediaSource? url mediaId with
  | some source => send setup (mediaMessage recipient kind source caption fileName) phone link
  | none => return .null

def sendTemplate (setup : Setup) (recipient name : String) (params : List String) (language : Option String)
    (phone : Option String) (link : Option (Link Outside) := setup.link) : StateM Outside Value :=
  send setup (templateMessage recipient name ((filled? language).getD setup.settings.templateLanguage) params) phone
    link

end Chatflow.Channel
