import Chatflow.Flow.Config

/-! Actions: what a run of a flow wants done. A run never performs them itself. A directive asks for
something beyond that: to come back later, or to start another flow. -/

namespace Chatflow

open Chatflow.Schema

/-- Where an action goes and where it comes from. -/
structure Envelope where
  recipient : String
  deviceId : Option String := none
  sessionId : Option String := none
  stepId : Option String := none
  delaySeconds : Int := 0
deriving Repr, DecidableEq

structure Button where
  id : String
  title : String
deriving Repr, DecidableEq

/-- What an action does. -/
inductive ActionContent where
  | message (text : String)
  | interactive (body : String) (buttons : List Button) (fallback : String)
  | media (kind : MediaKind) (url mediaId caption fileName : Option String)
  | template (name : String) (language : Option String) (params : List String)
  | assign (kind : AgentKind) (agentId : Option String)
  | email (address subject body : String)
deriving Repr, DecidableEq

structure Action where
  envelope : Envelope
  content : ActionContent
deriving Repr, DecidableEq

namespace Button

def ofValue : Reader Button :=
  record "InteractiveButton" fun fields =>
    Button.mk <$> required fields ["id"] text <*> required fields ["title"] text

def toValue (b : Button) : Value := .obj [("id", .str b.id), ("title", .str b.title)]

end Button

namespace ActionContent

def kindName : ActionContent → String
  | message _ => "send_message"
  | interactive .. => "send_interactive"
  | media .. => "send_media"
  | template .. => "send_template"
  | assign .. => "assign_conversation"
  | email .. => "send_email"

end ActionContent

namespace Action

def readEnvelope (fields : Fields) : Check Envelope :=
  Envelope.mk <$> required fields ["to"] text
    <*> withDefault fields ["device_id"] none (optional text)
    <*> withDefault fields ["session_id"] none (optional text)
    <*> withDefault fields ["step_id"] none (optional text)
    <*> withDefault fields ["delay_seconds"] 0 whole

/-- Readers of the kinds of actions. -/
def contents : List (String × (Fields → Check ActionContent)) :=
  [("send_message", fun fields => .message <$> required fields ["text"] text),
    ("send_interactive", fun fields => .interactive <$> required fields ["body"] text
      <*> withDefault fields ["buttons"] [] (list Button.ofValue)
      <*> required fields ["fallback_text"] text),
    ("send_media", fun fields => .media <$> required fields ["media_type"] (choice MediaKind.named)
      <*> withDefault fields ["media_url"] none (optional text)
      <*> withDefault fields ["media_id"] none (optional text)
      <*> withDefault fields ["caption"] none (optional text)
      <*> withDefault fields ["file_name"] none (optional text)),
    ("send_template", fun fields => .template <$> required fields ["template_name"] text
      <*> withDefault fields ["language"] none (optional text)
      <*> withDefault fields ["body_params"] [] (list text)),
    ("assign_conversation", fun fields =>
      .assign <$> required fields ["assignee_type"] (choice AgentKind.named)
        <*> withDefault fields ["assignee_id"] none (optional text)),
    ("send_email", fun fields => .email <$> required fields ["email"] text
      <*> required fields ["subject"] text <*> required fields ["body"] text)]

def ofValue : Reader Action :=
  tagged (contents.map fun (name, content) =>
    (name, fun fields => Action.mk <$> readEnvelope fields <*> content fields))

def contentFields : ActionContent → Fields
  | .message text => [("text", .str text)]
  | .interactive body buttons fallback =>
    [("body", .str body), ("buttons", .list (buttons.map Button.toValue)), ("fallback_text", .str fallback)]
  | .media kind url mediaId caption fileName =>
    [("media_type", .str kind.name), ("media_url", .ofText? url), ("media_id", .ofText? mediaId),
      ("caption", .ofText? caption), ("file_name", .ofText? fileName)]
  | .template name language params =>
    [("template_name", .str name), ("language", .ofText? language), ("body_params", .list (params.map .str))]
  | .assign kind agentId => [("assignee_type", .str kind.name), ("assignee_id", .ofText? agentId)]
  | .email address subject body =>
    [("email", .str address), ("subject", .str subject), ("body", .str body)]

def toValue (a : Action) : Value :=
  .obj ([("to", .str a.envelope.recipient), ("device_id", .ofText? a.envelope.deviceId),
    ("session_id", .ofText? a.envelope.sessionId), ("step_id", .ofText? a.envelope.stepId),
    ("delay_seconds", .int a.envelope.delaySeconds), ("type", .str a.content.kindName)] ++
      contentFields a.content)

end Action

/-- What a run asks for besides its actions. -/
inductive Directive where
  /-- Go on from a step once a wait is over. -/
  | scheduleResume (dueAt : Instant) (waitStep : String) (resumeStep : Option String)
  | startFlow (flowId : String)
deriving Repr, DecidableEq

namespace Directive

def readResume (fields : Fields) : Check Directive :=
  (fun _ => Directive.scheduleResume) <$>
    withDefault fields ["kind"] () (choice [("schedule_resume", ())])
    <*> required fields ["due_at"] instant
    <*> required fields ["wait_step_id"] text
    <*> withDefault fields ["resume_step_id"] none (optional text)

def readStart (fields : Fields) : Check Directive :=
  (fun _ => Directive.startFlow) <$> withDefault fields ["kind"] () (choice [("start_flow", ())])
    <*> required fields ["flow_id"] text

/-- Reads a directive. A document that fits both kinds asks for a resume, which takes more fields. -/
def ofValue : Reader Directive := fun v =>
  match (record "ScheduleResume" readResume v).at' (.field "ScheduleResume"),
    (record "StartFlow" readStart v).at' (.field "StartFlow") with
  | .ok d, _ => .ok d
  | _, .ok d => .ok d
  | .failed issues, .failed more => .failed (issues ++ more)
  | .broken halt, _ | _, .broken halt => .broken halt

def toValue : Directive → Value
  | scheduleResume dueAt waitStep resumeStep =>
    .obj [("kind", .str "schedule_resume"), ("due_at", .str dueAt.text), ("wait_step_id", .str waitStep),
      ("resume_step_id", .ofText? resumeStep)]
  | startFlow flowId => .obj [("kind", .str "start_flow"), ("flow_id", .str flowId)]

end Directive

end Chatflow
