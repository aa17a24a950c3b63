import Chatflow.Argument
import Chatflow.Event
import Chatflow.Phone

/-! Deliveries of the messaging channel: nested entries and changes, of which those about messages turn
into events. A part of a delivery that has not the shape it should have ends the reading. -/

namespace Chatflow.Webhook

/-- The table in a field; one that is missing or empty has no fields. -/
def tableOf (fields : Fields) (name : String) : Except Fault Fields :=
  match fields.get? name with
  | some v => if v.truthy then Argument.fields v else .ok []
  | none => .ok []

/-- The names of the contacts of a delivery, by the number they write from. -/
def contactNames (value : Fields) : Except Fault (List (Value × Value)) := do
  let contacts ← Argument.membersOf value "contacts"
  contacts.foldlM (fun names contact => do
    let fields ← Argument.fields contact
    let number := (fields.get? "wa_id").getD .null
    let name := ((← tableOf fields "profile").get? "name").getD .null
    if number.truthy && name.truthy then
      if Argument.isKey number then return (number, name) :: names else throw .wrongType
    else return names) []

def nameOf (names : List (Value × Value)) (sender : Value) : Value :=
  ((names.find? fun entry => entry.1.same sender).map (·.2)).getD .null

def content (message : Fields) : Except Fault (Value × Value) := do
  let kind := (message.get? "type").getD .null
  let field (fields : Fields) (name : String) (default_ : Value) := (fields.get? name).getD default_
  match kind with
  | .str "text" => return (field (← tableOf message "text") "body" (.str ""), .null)
  | .str "interactive" =>
    let interactive ← tableOf message "interactive"
    let pressed := field interactive "button_reply" .null
    let reply ← if pressed.truthy then Argument.fields pressed else tableOf interactive "list_reply"
    return (field reply "title" (.str ""), field reply "id" .null)
  | .str "button" =>
    let button ← tableOf message "button"
    return (field button "text" (.str ""), field button "payload" .null)
  | .str kind =>
    if ["image", "video", "document"].contains kind then
      return (field (← tableOf message kind) "caption" (.str ""), .null)
    else return (.str "", .null)
  | _ => return (.str "", .null)

def addressOf : Value → String
  | .str s => Phone.normalize s
  | _ => ""

/-- The event of one message; a message without a sender has none. -/
def messageEvent (message : Value) (value : Fields) : Except Fault (Option Event) := do
  let fields ← Argument.fields message
  let sender := (fields.get? "from").getD .null
  if !sender.truthy then return none
  let (text, replyId) ← content fields
  let metadata ← tableOf value "metadata"
  let names ← contactNames value
  if !Argument.isKey sender then throw .wrongType
  let document : Value := .obj [("channel_address", .str (addressOf sender)), ("kind", .str "message"),
    ("text", text), ("reply_id", replyId), ("device_id", (metadata.get? "phone_number_id").getD .null),
    ("contact_name", nameOf names sender), ("contact_id", sender),
    ("message_id", (fields.get? "id").getD .null)]
  return some (← (Event.ofValue document).toExcept)

def changeEvents (change : Value) : Except Fault (List Event) := do
  let fields ← Argument.fields change
  match fields.get? "field" with
  | some (.str "messages") =>
    let value ← Argument.fields ((fields.get? "value").getD (.obj []))
    for status in ← Argument.membersOf value "statuses" do
      let _ ← Argument.fields status
    let events ← (← Argument.membersOf value "messages").mapM fun message => messageEvent message value
    return events.filterMap id
  | _ => return []

def events (delivery : Value) : Except Fault (List Event) := do
  let entries ← Argument.membersOf (← Argument.fields delivery) "entry"
  let lists ← entries.mapM fun entry => do
    let changes ← Argument.membersOf (← Argument.fields entry) "changes"
    return (← changes.mapM changeEvents).flatten
  return lists.flatten

/-- The first stop that a proxy names. -/
def firstStop? (forwarded : String) : Option String :=
  filled? (((Text.split ',' forwarded).head?).map Text.trim)

/-- The address of requests that come from nowhere else. -/
def ownAddress : String := "127.0.0.1"

/-- The address a request came from: the first stop that a proxy names, or else the peer. -/
def remoteAddress (forwarded : Option String) (peer : Option String) : String :=
  ((forwarded.bind firstStop?).orElse fun _ => filled? peer).getD ownAddress

/-- The address a request came from, where stops and peer may be told by any value. -/
def remoteAddressOf (forwarded peer : Value) : Except Fault Value := do
  match firstStop? (← Argument.text .noFields forwarded) with
  | some stop => return .str stop
  | none => return if peer.truthy then peer else .str ownAddress

end Chatflow.Webhook
