import Chatflow.Documents.Guard
import Chatflow.World

/-! Sessions in the document database. A document holds all fields of a session, and its id once more as the
id of the document. -/

namespace Chatflow.Documents.Sessions

def collection : String := "flow_sessions"

def timeValue : Option Instant → Value
  | some t => .time t
  | none => .null

def assigneeValue : Option Assignee → Value
  | some a => a.toValue
  | none => .null

def toDocument (s : Session) : Fields :=
  [("session_id", .str s.id), ("channel_address", .str s.address), ("flow_id", .str s.flowId),
    ("current_step_id", .ofText? s.currentStep), ("variables", .obj s.vars),
    ("status", .str s.status.name), ("assignee", assigneeValue s.assignee), ("ai_turn_count", .int s.aiTurns),
    ("resume_at", timeValue s.resumeAt), ("resume_step_id", .ofText? s.resumeStep),
    ("diagnostic", .ofText? s.diagnostic), ("device_id", .ofText? s.deviceId),
    ("created_at", .time s.createdAt), ("updated_at", .time s.updatedAt), ("_id", .str s.id)]

/-- Reads a document; an empty one is no session. A session without an id is given a new one. -/
def ofDocument (setup : Setup) (document : Fields) : Work (Option Session) := do
  if document.isEmpty then return none
  let id ← if document.has "session_id" then pure "" else Work.freshId
  let s ← Work.check (Session.read id setup.now.toUtc document).toExcept
  return some s

def ofFirst (setup : Setup) (documents : List Fields) : Work (Option Session) :=
  match documents with
  | document :: _ => ofDocument setup document
  | [] => return none

def findOne (setup : Setup) (filter : Filter) (order : Option Order := none) : Work (Option Session) := do
  ofFirst setup (← Work.onOutside (guarded setup (.ok (.findOne collection filter order)) Reply.documents? []))

/-- What the documents of a contact, of a contact in a flow, and of an id have in common. -/
def ofContact (address : Value) : Filter := [("channel_address", .equals address)]
def ofKey (address flowId : Value) : Filter := ofContact address ++ [("flow_id", .equals flowId)]
def ofId (id : Value) : Filter := [("_id", .equals id)]

/-- What the documents of conversations that are not over have in common. -/
def isOpen : String × Test := ("status", .equals (.str SessionStatus.active.name))

def find (setup : Setup) (address : Value) : Work (Option Session) :=
  findOne setup (ofContact address ++ [isOpen, ("current_step_id", .differs .null)])
    (some ⟨"updated_at", true⟩)

def findForFlow (setup : Setup) (address flowId : Value) : Work (Option Session) :=
  findOne setup (ofKey address flowId)

def get (setup : Setup) (id : Value) : Work (Option Session) := findOne setup (ofId id)

def has (setup : Setup) (address flowId : Value) : Work Bool := do
  return (← Work.onOutside (guarded setup (.ok (.count collection (ofKey address flowId) 1)) Reply.count? 0)) ≠ 0

/-- Stores a new session in place of the one of the same contact and flow. -/
def create (setup : Setup) (key : SessionKey) (vars : Fields) (deviceId : Option String) : Work Session := do
  let id ← Work.freshId
  let s := SessionTable.newSession id (← Work.check setup.utcNow) key vars deviceId
  let _ ← Work.tryOutside (command (.delete collection (ofKey (.str key.address) (.str key.flowId)) false))
  let _ ← Work.tryOutside (command (.insert collection (toDocument s)))
  return s

/-- A field that a change sets if it names it. -/
def changedField {α : Type} (name : String) (value : Option α) (toValue : α → Value) : Fields :=
  match value with
  | some a => [(name, toValue a)]
  | none => []

/-- The fields that a change sets. -/
def changedFields (now : Instant) (c : Change) : Fields :=
  Fields.merge ([("current_step_id", .ofText? c.step), ("variables", .obj c.vars), ("status", .str c.status.name),
    ("updated_at", .time now)] ++ changedField "assignee" c.assignee assigneeValue ++
      changedField "ai_turn_count" c.aiTurns .int ++ changedField "resume_at" c.resumeAt timeValue ++
      changedField "resume_step_id" c.resumeStep .ofText? ++ changedField "diagnostic" c.diagnostic .ofText? ++
      changedField "device_id" c.deviceId .ofText?) c.loose

/-- Changes a session, provided that it still stands at the step it was read at. -/
def swap (setup : Setup) (id expected : Value) (c : Change) : Work Bool := do
  let filter := ofId id ++ [("current_step_id", .equals expected)]
  let now ← Work.check setup.utcNow
  let n ← Work.onOutside
    (guarded setup (.ok (.update collection filter (changedFields now c) false)) Reply.count? 0)
  return n = 1

/-- Ends all sessions of a contact that are not over, and counts them. -/
def abandonAll (setup : Setup) (address : Value) : Work Nat :=
  let ending (now : Instant) : Command := .update collection (ofContact address ++ [isOpen])
    [("status", .str SessionStatus.completed.name), ("current_step_id", .null), ("assignee", .null),
      ("resume_at", .null), ("resume_step_id", .null), ("updated_at", .time now)] true
  Work.onOutside (guarded setup (setup.utcNow.map ending) Reply.count? 0)

def reset (setup : Setup) (address : Value) : Work Nat :=
  Work.onOutside (guarded setup (.ok (.delete collection (ofContact address) true)) Reply.count? 0)

/-- The sessions whose wait is over, the longest overdue first, up to a limit. -/
def due (setup : Setup) (now : Instant) (limit : Int := SessionTable.dueLimit) : Work (List Session) := do
  let documents ← Work.onOutside (guarded setup
    (.ok (.find collection [isOpen, ("resume_at", .reached now)] (some ⟨"resume_at", false⟩) (some limit)))
    Reply.documents? [])
  return (← documents.mapM (ofDocument setup)).filterMap id

end Chatflow.Documents.Sessions
