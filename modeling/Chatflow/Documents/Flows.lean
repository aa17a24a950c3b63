import Chatflow.Documents.Guard
import Chatflow.World

/-! Flows and agents in the document database. -/

namespace Chatflow.Documents.Flows

def collection : String := "flows"
def agentCollection : String := "ai_agents"

/-- A document with the id that it is stored under, unless it has one of its own. -/
def withOwnId (document : Fields) : Fields :=
  let stored := ((document.get? "_id").getD (.str "")).display
  let rest := document.erase "_id"
  if rest.has "id" then rest else rest.set "id" (.str stored)

/-- Reads a document; an empty one is no flow, and neither is one that is not well-formed. -/
def ofDocument (document : Fields) : Except Fault (Option Flow) :=
  if document.isEmpty then .ok none
  else match Flow.ofDocument (.obj (withOwnId document)) with
    | .ok f => .ok (some f)
    | .error (.invalidDocument _) | .error (.flowInvalid ..) => .ok none
    | .error f => .error f

def active (setup : Setup) : Work (List Flow) := do
  let documents ← Work.onOutside (guarded setup
    (.ok (.find collection [("is_active", .equals (.bool true))] none none)) Reply.documents? [])
  return (← documents.mapM fun document => Work.check (ofDocument document)).filterMap id

/-- The first document of an id. -/
def documentOf (setup : Setup) (name : String) (id : Value) : Work (Option Fields) :=
  Work.onOutside (guarded setup (.ok (.findOne name [("_id", .equals id)] none))
    (fun reply => reply.documents?.head?) none)

def flow? (setup : Setup) (id : Value) : Work (Option Flow) := do
  match ← documentOf setup collection id with
  | some document => Work.check (ofDocument document)
  | none => return none

def agent? (setup : Setup) (id : Value) : Work (Option Agent) := do
  match ← documentOf setup agentCollection id with
  | some document =>
    if document.isEmpty then return none
    return some (← Work.check (Agent.ofValue (.obj (withOwnId document))).toExcept)
  | none => return none

/-- How many flows there are. -/
def count (setup : Setup) (useBreaker : Bool) (fallback : Value) : Work Value :=
  Work.onOutside
    (guarded setup (.ok (.count collection [] 0)) (fun reply => .int reply.count?) fallback useBreaker)

end Chatflow.Documents.Flows
