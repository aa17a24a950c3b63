import Chatflow.Fault
import Chatflow.Flow.Config
import Chatflow.Time.Instant

/-! Sessions: where one contact stands in one flow. -/

namespace Chatflow

open Chatflow.Schema

inductive SessionStatus where
  | active
  | completed
deriving Repr, DecidableEq

namespace SessionStatus

def name : SessionStatus → String
  | active => "active"
  | completed => "completed"

def named : List (String × SessionStatus) := [("active", active), ("completed", completed)]

def ofName? (s : String) : Option SessionStatus := (named.find? fun n => n.1 == s).map (·.2)

end SessionStatus

structure Assignee where
  kind : AgentKind
  id : Option String := none
deriving Repr, DecidableEq

namespace Assignee

def ofValue : Reader Assignee :=
  record "Assignee" fun fields =>
    Assignee.mk <$> required fields ["type"] (choice AgentKind.named)
      <*> withDefault fields ["id"] none (optional text)

def toValue (a : Assignee) : Value := .obj [("type", .str a.kind.name), ("id", .ofText? a.id)]

end Assignee

/-- The cursor of one contact in one flow. -/
structure Session where
  id : String
  address : String
  flowId : String
  currentStep : Option String := none
  vars : Fields := []
  status : SessionStatus := .active
  assignee : Option Assignee := none
  /-- Turns taken under the current assignment to an AI agent. -/
  aiTurns : Int := 0
  /-- When a wait is over. -/
  resumeAt : Option Instant := none
  /-- Where to go on once it is over. -/
  resumeStep : Option String := none
  /-- Why the session was ended before its flow was. -/
  diagnostic : Option String := none
  deviceId : Option String := none
  createdAt : Instant
  updatedAt : Instant
  /-- Fields that were changed to values they are not meant for; each stands in place of the one of its name. -/
  loose : Fields := []
deriving Repr

namespace Session

/-- Whether the session takes part in the conversation. -/
def isActive (s : Session) : Bool := s.status == .active && s.currentStep.isSome

def isAiAssigned (s : Session) : Bool :=
  s.isActive && match s.assignee with
    | some a => a.kind == .ai
    | none => false

/-- Whether the session waits for a point in time. -/
def isWaiting (s : Session) : Bool := s.isActive && s.resumeAt.isSome

/-- The present time, to be filled in. -/
def present (now : Except SpanError Instant) : Check Instant :=
  match now with
  | .ok t => .ok t
  | .error e => .broken (.noPresent e)

/-- Reads a session. What a document leaves out is filled in: a fresh id and the present time. -/
def read (freshId : String) (now : Except SpanError Instant) (fields : Fields) : Check Session :=
  Session.mk <$> withDefault fields ["session_id"] freshId text
    <*> required fields ["channel_address"] text
    <*> required fields ["flow_id"] text
    <*> withDefault fields ["current_step_id"] none (optional text)
    <*> withDefault fields ["variables"] [] table
    <*> withDefault fields ["status"] .active (member SessionStatus.named)
    <*> withDefault fields ["assignee"] none (optional Assignee.ofValue)
    <*> withDefault fields ["ai_turn_count"] 0 whole
    <*> withDefault fields ["resume_at"] none (optional instant)
    <*> withDefault fields ["resume_step_id"] none (optional text)
    <*> withDefault fields ["diagnostic"] none (optional text)
    <*> withDefault fields ["device_id"] none (optional text)
    <*> orElse fields ["created_at"] (present now) instant
    <*> orElse fields ["updated_at"] (present now) instant
    <*> .ok []

def ofValue (freshId : String) (now : Except SpanError Instant) : Reader Session := record "Session" (read freshId now)

def timeValue? : Option Instant → Value
  | some t => .str t.text
  | none => .null

def flags (s : Session) : List String :=
  (if s.isActive then ["is_active"] else []) ++ (if s.isAiAssigned then ["is_ai_assigned"] else []) ++
    if s.isWaiting then ["is_waiting"] else []

/-- The fields of a session that have the values they are meant for. -/
def ownFields (s : Session) : Fields :=
  [("session_id", .str s.id), ("channel_address", .str s.address), ("flow_id", .str s.flowId),
    ("current_step_id", .ofText? s.currentStep), ("variables", .obj s.vars.told),
    ("status", .str s.status.name), ("assignee", (s.assignee.map Assignee.toValue).getD .null),
    ("ai_turn_count", .int s.aiTurns), ("resume_at", timeValue? s.resumeAt),
    ("resume_step_id", .ofText? s.resumeStep), ("diagnostic", .ofText? s.diagnostic),
    ("device_id", .ofText? s.deviceId), ("created_at", .str s.createdAt.text),
    ("updated_at", .str s.updatedAt.text)]

def toValue (s : Session) : Value :=
  .obj (s.ownFields.merge s.loose.told ++ [("flags", .list (s.flags.map .str))])

/-- The document of a session, if its variables can be told. Of an active session it must be possible to tell who
owns it. -/
def tell (s : Session) : Except Fault Value := do
  s.vars.checkTold
  s.loose.checkTold
  if s.isActive && s.loose.has "assignee" then throw .noFields
  return s.toValue

def stepValue (s : Session) : Value := (s.loose.get? "current_step_id").getD (.ofText? s.currentStep)

end Session

end Chatflow
