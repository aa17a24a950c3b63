import Chatflow.Fault
import Chatflow.Session

/-! Changes to a stored session. A change always says step, variables and status; of the other fields it
changes those it names. Who the session belongs to cannot be changed. -/

namespace Chatflow

open Chatflow.Schema

/-- What to change about a stored session. -/
structure Change where
  step : Option String
  vars : Fields
  status : SessionStatus
  assignee : Option (Option Assignee) := none
  aiTurns : Option Int := none
  resumeAt : Option (Option Instant) := none
  resumeStep : Option (Option String) := none
  diagnostic : Option (Option String) := none
  deviceId : Option (Option String) := none
  /-- Fields that are changed to values they are not meant for. -/
  loose : Fields := []
deriving Repr

namespace Change

/-- The names of the fields that a change may carry besides step, variables and status. -/
def optionalFields : List String :=
  ["assignee", "ai_turn_count", "resume_at", "resume_step_id", "diagnostic", "device_id"]

/-- Whether a change sets a field to a value that it is meant for. -/
def sets (c : Change) (name : String) : Bool :=
  name == "current_step_id" || (name == "assignee" && c.assignee.isSome) ||
    (name == "ai_turn_count" && c.aiTurns.isSome) || (name == "resume_at" && c.resumeAt.isSome) ||
    (name == "resume_step_id" && c.resumeStep.isSome) || (name == "diagnostic" && c.diagnostic.isSome) ||
    (name == "device_id" && c.deviceId.isSome)

def apply (c : Change) (now : Instant) (s : Session) : Session :=
  { s with
    currentStep := c.step
    vars := c.vars
    status := c.status
    assignee := c.assignee.getD s.assignee
    aiTurns := c.aiTurns.getD s.aiTurns
    resumeAt := c.resumeAt.getD s.resumeAt
    resumeStep := c.resumeStep.getD s.resumeStep
    diagnostic := c.diagnostic.getD s.diagnostic
    deviceId := c.deviceId.getD s.deviceId
    updatedAt := now
    loose := Fields.merge (s.loose.filter fun field => !c.sets field.1) c.loose }

/-- Refuses fields that no change may carry; they are told in order. -/
def checkFields (extra : Fields) : Except Fault Unit :=
  let unknown := (extra.map (·.1)).filter fun name => !optionalFields.contains name
  if unknown.isEmpty then .ok () else .error (.fixedFields (unknown.mergeSort Text.atMost))

/-- A step that may be named by any value. One that is no text is still a step: it is only that nothing leads on
from it. -/
def withStep (c : Change) : Value → Change
  | .null => { c with step := none }
  | .str id => { c with step := some id }
  | v => { c with step := some "", loose := c.loose.set "current_step_id" v }

/-- A change that also sets an owner. What is empty is none, but is kept as it is. -/
def withAssignee (c : Change) (v : Value) : Except Fault Change :=
  if v.truthy then (Assignee.ofValue v).toExcept.map fun a => { c with assignee := some (some a) }
  else
    let c := { c with assignee := some none }
    .ok (if v == .null then c else { c with loose := c.loose.set "assignee" v })

/-- The instant in a text that begins with a date. -/
def instantOf (s : String) : Except Fault Instant :=
  match Instant.ofText s with
  | .ok t => if (s.toList.drop 4).head? = some '-' then .ok t else .error (.notInstant s)
  | .error _ => .error (.notInstant s)

/-- A change that also sets the end of a wait. What is empty is no instant, but is kept as it is, and counts as
one. -/
def withResumeAt (c : Change) (v : Value) : Except Fault Change :=
  match v with
  | .null => .ok { c with resumeAt := some none }
  | .str s =>
    if s = "" then .ok (kept c)
    else (instantOf s).map fun t => { c with resumeAt := some (some t) }
  | v => if v.truthy then .error .wrongType else .ok (kept c)
where
  kept (c : Change) : Change := { c with resumeAt := some (some default), loose := c.loose.set "resume_at" v }

/-- A change that also sets a field to a value which is not looked at. -/
def withField (c : Change) (name : String) (v : Value) : Change :=
  let meant? : Option Change := match name, v with
    | "ai_turn_count", .int n => some { c with aiTurns := some n }
    | "resume_step_id", .null => some { c with resumeStep := some none }
    | "resume_step_id", .str s => some { c with resumeStep := some (some s) }
    | "diagnostic", .null => some { c with diagnostic := some none }
    | "diagnostic", .str s => some { c with diagnostic := some (some s) }
    | "device_id", .null => some { c with deviceId := some none }
    | "device_id", .str s => some { c with deviceId := some (some s) }
    | _, _ => none
  meant?.getD { c with loose := c.loose.set name v }

/-- Reads the fields of a change, which are of any kind. Only an owner and an instant are looked into. -/
def ofFields (step : Value) (extra : Fields) : Except Fault Change := do
  let c := withStep { step := none, vars := [], status := .active } step
  let c ← match extra.get? "assignee" with
    | some v => c.withAssignee v
    | none => pure c
  let c ← match extra.get? "resume_at" with
    | some v => c.withResumeAt v
    | none => pure c
  checkFields extra
  let others := extra.filter fun field => field.1 != "assignee" && field.1 != "resume_at"
  return others.foldl (fun c field => c.withField field.1 field.2) c

end Change

def SessionStatus.ofValue (name : Value) : Except Fault SessionStatus :=
  match name.str?.bind SessionStatus.ofName? with
  | some status => .ok status
  | none => .error (.unknownStatus name)

/-- A session that ends where it stands, because its contact begins another conversation. -/
def Session.abandon (now : Instant) (s : Session) : Session :=
  { s with
    status := .completed
    currentStep := none
    assignee := none
    resumeAt := none
    resumeStep := none
    updatedAt := now
    loose := s.loose.filter fun field =>
      !(["current_step_id", "assignee", "resume_at", "resume_step_id"].contains field.1) }

end Chatflow
