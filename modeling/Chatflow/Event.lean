import Chatflow.Fault
import Chatflow.Schema.Field

/-! Inbound events: a message, a tag set on a contact, or the payload of a third party. -/

namespace Chatflow

open Chatflow.Schema

inductive EventKind where
  | message
  | tagAdded
  | thirdParty
deriving Repr, DecidableEq

namespace EventKind

def name : EventKind → String
  | message => "message"
  | tagAdded => "tag_added"
  | thirdParty => "third_party"

def named : List (String × EventKind) :=
  [("message", message), ("tag_added", tagAdded), ("third_party", thirdParty)]

end EventKind

structure Event where
  address : String
  kind : EventKind := .message
  /-- The text of a message, or the title of the button that was pressed. -/
  text : String := ""
  /-- The id of the button or list entry that was pressed. -/
  replyId : Option String := none
  deviceId : Option String := none
  contactName : Option String := none
  contactId : Option String := none
  /-- The id by which deliveries of the same message are recognised. -/
  messageId : Option String := none
  tagId : Option String := none
  triggerId : Option String := none
  payload : Fields := []
deriving Repr

namespace Event

/-- What a reply is resolved by: the id that was pressed if there is one, and the text otherwise. -/
def reply (e : Event) : String :=
  match e.replyId with
  | some id => if id = "" then e.text else id
  | none => e.text

/-- What an answer is recorded as: the text unless it is empty. -/
def answer (e : Event) : String := if e.text = "" then e.reply else e.text

def ofValue : Reader Event :=
  record "InboundEvent" fun fields =>
    Event.mk <$> required fields ["channel_address"] Schema.text
      <*> withDefault fields ["kind"] .message (choice EventKind.named)
      <*> withDefault fields ["text"] "" Schema.text
      <*> withDefault fields ["reply_id"] none (optional Schema.text)
      <*> withDefault fields ["device_id"] none (optional Schema.text)
      <*> withDefault fields ["contact_name"] none (optional Schema.text)
      <*> withDefault fields ["contact_id"] none (optional Schema.text)
      <*> withDefault fields ["message_id"] none (optional Schema.text)
      <*> withDefault fields ["tag_id"] none (optional Schema.text)
      <*> withDefault fields ["trigger_id"] none (optional Schema.text)
      <*> withDefault fields ["payload"] [] table

def toValue (e : Event) : Value :=
  .obj [("channel_address", .str e.address), ("kind", .str e.kind.name), ("text", .str e.text),
    ("reply_id", .ofText? e.replyId), ("device_id", .ofText? e.deviceId),
    ("contact_name", .ofText? e.contactName), ("contact_id", .ofText? e.contactId),
    ("message_id", .ofText? e.messageId), ("tag_id", .ofText? e.tagId),
    ("trigger_id", .ofText? e.triggerId), ("payload", .obj e.payload.told)]

def tell (e : Event) : Except Fault Value := e.payload.checkTold.map fun _ => e.toValue

end Event

end Chatflow
