import Chatflow.Argument
import Chatflow.Channel

/-! Calls of the channel by name, with arguments in order or by name, which may be any values. A message is put
together as far as its arguments can be used for what they stand for, and is sent only if all of them can. -/

namespace Chatflow.Channel

inductive Call where
  | text
  | buttons
  | media
  | template
  /-- The sending of a message that is put together already. -/
  | message
deriving Repr, DecidableEq

namespace Call

def named : List (String × Call) :=
  [("send_message", text), ("send_interactive_buttons", buttons), ("send_media", media),
    ("send_template_message", template), ("send_whatsapp_request", message)]

/-- The names of the arguments in order: of those that have to be there, and of the others. -/
def parameters : Call → List String × List String
  | text => (["to_phone", "message"], ["phone_id"])
  | buttons => (["to_phone", "body", "buttons"], ["phone_id"])
  | media => (["to_phone", "media_type"], ["media_url", "media_id", "caption", "file_name", "phone_id"])
  | template => (["to", "template_name", "body_params"], ["language", "phone_id"])
  | message => (["payload"], ["phone_id"])

/-- The arguments of a call by name. There may be none that it does not know or that come twice, and none that it
needs may be missing. -/
def bind (c : Call) (inOrder : List Value) (byName : Fields) : Except Fault Fields := do
  let (needed, others) := c.parameters
  let names := needed ++ others
  let args := names.zip inOrder ++ byName
  Argument.checkKnown (names.drop inOrder.length) byName
  if names.length < inOrder.length || !(needed.all fun name => Fields.has args name) then throw .wrongType
  return args

def recipientOf (v : Value) : Except Fault String := Argument.text .wrongType v

def buttonOf (v : Value) : Except Fault Value := do
  let (id, title) ← Argument.pair v
  return buttonWith id (← Argument.front titleMax title)

def buttonsOf (v : Value) : Except Fault (List Value) := do
  match ← Argument.front buttonsMax v with
  | .list pairs => pairs.mapM buttonOf
  | v => (← Argument.members v).mapM buttonOf

def mediumField (kind : Value) : Except Fault String :=
  (Argument.key kind).map fun
    | .null => "null"
    | kind => Argument.Entries.nameOf kind

/-- A medium, if there is one: the message that it is sent in. -/
def mediumOf (arg : String → Value) : Except Fault (Option Fields) := do
  let kind := arg "media_type"
  let source ← match (arg "media_id").truthy, (arg "media_url").truthy with
    | true, _ => pure ("id", arg "media_id")
    | false, true => pure ("link", arg "media_url")
    | false, false => return none
  let described ← if (arg "caption").truthy && !kind.same (.str "audio") then
      pure [("caption", ← Argument.front captionMax (arg "caption"))]
    else pure []
  let named := if (arg "file_name").truthy && kind.same (.str "document") then [("filename", arg "file_name")] else []
  let recipient ← recipientOf (arg "to_phone")
  return some (mediumWith recipient kind (← mediumField kind) (source :: described ++ named))

def paramsOf (v : Value) : Except Fault (List String) := do
  if v.truthy then return (← Argument.members v).map Value.display else return []

def messageOf (setup : Setup) (arg : String → Value) : Call → Except Fault (Option Fields)
  | text => do
    let recipient ← recipientOf (arg "to_phone")
    return some (textWith recipient (← Argument.front textMax (arg "message")))
  | buttons => do
    let recipient ← recipientOf (arg "to_phone")
    let body ← Argument.front captionMax (arg "body")
    return some (buttonsWith recipient body (← buttonsOf (arg "buttons")))
  | media => mediumOf arg
  | template => do
    let params ← paramsOf (arg "body_params")
    let recipient ← recipientOf (arg "to")
    let language := if (arg "language").truthy then arg "language" else .str setup.settings.templateLanguage
    return some (templateWith recipient (arg "template_name") language params)
  | message => (Argument.fields (arg "payload")).map some

def phoneOf (v : Value) : Option String := if v.truthy then some v.display else none

def perform (c : Call) (setup : Setup) (inOrder : List Value) (byName : Fields) :
    StateM Outside (Except Fault Value) := do
  let prepared : Except Fault (Option Fields × Option String) := do
    let args ← c.bind inOrder byName
    let arg (name : String) : Value := (args.get? name).getD .null
    return (← c.messageOf setup arg, phoneOf (arg "phone_id"))
  match prepared with
  | .error f => return .error f
  | .ok (none, _) => return .ok .null
  | .ok (some fields, phone) => return .ok (← send setup fields phone)

end Call

end Chatflow.Channel
