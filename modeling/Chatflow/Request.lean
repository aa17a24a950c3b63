import Chatflow.Fault
import Chatflow.Schema.Field

/-! Requests that other programs send to drive flows directly, and the answer they get. -/

namespace Chatflow

open Chatflow.Schema

def addressNames : List String := ["channel_address", "phone", "address"]

/-- An address as it is written in requests: at least five characters. -/
def readAddress (fields : Fields) : Check String := required fields addressNames (textAtLeast 5)

structure StartRequest where
  flowId : String
  address : String
  vars : Fields := []
deriving Repr

namespace StartRequest

def ofValue : Reader StartRequest :=
  record "StartFlowRequest" fun fields =>
    StartRequest.mk <$> required fields ["flow_id", "flowId"] text <*> readAddress fields
      <*> withDefault fields ["variables"] [] table

def toValue (r : StartRequest) : Value :=
  .obj [("flow_id", .str r.flowId), ("channel_address", .str r.address), ("variables", .obj r.vars.told)]

def tell (r : StartRequest) : Except Fault Value := r.vars.checkTold.map fun _ => r.toValue

end StartRequest

structure ContinueRequest where
  flowId : String
  address : String
  text : String := ""
  replyId : Option String := none
deriving Repr, DecidableEq

namespace ContinueRequest

def ofValue : Reader ContinueRequest :=
  record "ContinueSessionRequest" fun fields =>
    ContinueRequest.mk <$> required fields ["flow_id", "flowId"] Schema.text <*> readAddress fields
      <*> withDefault fields ["text"] "" (textAtMost 4096)
      <*> withDefault fields ["reply_id", "replyId"] none (optional Schema.text)

def toValue (r : ContinueRequest) : Value :=
  .obj [("flow_id", .str r.flowId), ("channel_address", .str r.address), ("text", .str r.text),
    ("reply_id", .ofText? r.replyId)]

end ContinueRequest

structure ResumeRequest where
  sessionId : String
deriving Repr, DecidableEq

namespace ResumeRequest

def ofValue : Reader ResumeRequest :=
  record "ResumeWaitRequest" fun fields =>
    ResumeRequest.mk <$> required fields ["session_id", "sessionId"] text

def toValue (r : ResumeRequest) : Value := .obj [("session_id", .str r.sessionId)]

end ResumeRequest

structure TagRequest where
  address : String
  tagId : String
  deviceId : Option String := none
  contactName : Option String := none
  contactId : Option String := none
deriving Repr, DecidableEq

namespace TagRequest

def ofValue : Reader TagRequest :=
  record "TagAddedRequest" fun fields =>
    TagRequest.mk <$> readAddress fields
      <*> required fields ["tag_id", "tagId"] text
      <*> withDefault fields ["device_id", "deviceId"] none (optional text)
      <*> withDefault fields ["contact_name", "name"] none (optional text)
      <*> withDefault fields ["contact_id", "contactId"] none (optional text)

def toValue (r : TagRequest) : Value :=
  .obj [("channel_address", .str r.address), ("tag_id", .str r.tagId), ("device_id", .ofText? r.deviceId),
    ("contact_name", .ofText? r.contactName), ("contact_id", .ofText? r.contactId)]

end TagRequest

structure RunReport where
  status : String
  sessionIds : List String := []
  actions : List Fields := []
deriving Repr

namespace RunReport

def ofValue : Reader RunReport :=
  record "RuntimeResult" fun fields =>
    RunReport.mk <$> required fields ["status"] text
      <*> withDefault fields ["session_ids"] [] (list text)
      <*> withDefault fields ["actions"] [] (list table)

def toValue (r : RunReport) : Value :=
  .obj [("status", .str r.status), ("session_ids", .list (r.sessionIds.map .str)),
    ("actions", .list (r.actions.map fun a => .obj a.told))]

def tell (r : RunReport) : Except Fault Value := (r.actions.forM Fields.checkTold).map fun _ => r.toValue

end RunReport

end Chatflow
