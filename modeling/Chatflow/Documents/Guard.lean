import Chatflow.Outside

/-! Calls of the document database. Most of them go through a circuit breaker and answer with something else
when they fail. -/

namespace Chatflow.Documents

def circuit : SharedBreaker.Circuit := ⟨"database", {}⟩

def command (c : Command) : StateM Outside (Except Fault Reply) := fun outside =>
  let (reply, database) := outside.database.perform c
  (reply, { outside with database := database })

def Reply.documents? : Reply → List Fields
  | .documents found => found
  | .count _ => []

def Reply.count? : Reply → Nat
  | .count n => n
  | .documents found => found.length

/-- Has a command carried out, if it could be made. -/
def attempt (c : Except Fault Command) : StateM Outside (Except Fault Reply) :=
  match c with
  | .ok c => command c
  | .error f => return .error f

/-- Has a command carried out, through the breaker or without it; what is read from the answer, or a fallback
if anything fails. That a command cannot be made counts as a failure of the database. -/
def guarded {α : Type} (setup : Setup) (c : Except Fault Command) (read : Reply → α) (fallback : α)
    (useBreaker : Bool := true) : StateM Outside α := do
  let result ← if useBreaker then SharedBreaker.callVia setup.link circuit setup.reading (attempt c) else attempt c
  return match result with
    | .ok reply => read reply
    | .error _ => fallback

def indexes : List Command :=
  [.index "flow_sessions" [("channel_address", 1), ("flow_id", 1)] true,
    .index "flow_sessions" [("channel_address", 1), ("status", 1), ("updated_at", -1)] false,
    .index "flow_sessions" [("status", 1), ("resume_at", 1)] false,
    .index "flows" [("is_active", 1)] false]

/-- Creates the indexes; one that cannot be created does not keep the others from it. -/
def createIndexes : StateM Outside Unit := do
  for index in indexes do
    let _ ← command index

def isHealthy : StateM Outside Bool := return (← command .ping).isOk

end Chatflow.Documents
