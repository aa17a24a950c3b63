import Chatflow.Store.Lookup

/-! Commands to the store, as one type. A command is written as a document, which says under `do` what is to be
done; what it names may be any value. -/

namespace Chatflow.Store

inductive Command where
  | create (address flowId vars deviceId : Value)
  | find (address : Value)
  | findForFlow (address flowId : Value)
  | get (id : Value)
  | has (address flowId : Value)
  | swap (id expected step vars status : Value) (extra : Fields)
  | abandonAll (address : Value)
  | reset (address : Value)
  | due (limit : Value)
deriving Repr

namespace Command

def ofFields? (fields : Fields) : Option Command :=
  let part (name : String) : Value := (fields.get? name).getD .null
  let vars := (fields.get? "variables").getD (.obj [])
  match (part "do").str? with
  | some "create" => some (.create (part "address") (part "flow_id") vars (part "device_id"))
  | some "find" => some (.find (part "address"))
  | some "find_for_flow" => some (.findForFlow (part "address") (part "flow_id"))
  | some "get" => some (.get (part "session_id"))
  | some "has" => some (.has (part "address") (part "flow_id"))
  | some "cas" =>
    some (.swap (part "session_id") (part "expected") (part "step") vars
      ((fields.get? "status").getD (.str SessionStatus.active.name)) (((part "extra").fields?).getD []))
  | some "complete_active" => some (.abandonAll (part "address"))
  | some "reset" => some (.reset (part "address"))
  | some "due" => some (.due (part "limit"))
  | _ => none

def told (s : Option Session) : Work Value :=
  match s with
  | some s => Work.check s.tell
  | none => return .null

/-- The most sessions that are asked for: a number, or as many as usual. -/
def limitOf : Value → Except Fault Int
  | .int limit => .ok limit
  | .bool b => .ok (if b then 1 else 0)
  | .null => .ok SessionTable.dueLimit
  | _ => .error .wrongType

def perform (setup : Setup) : Command → Work Value
  | .create address flowId vars deviceId => do
    Work.check (← Store.createGiven setup address flowId vars deviceId).tell
  | .find address => do told (← Store.findGiven setup address)
  | .findForFlow address flowId => do told (← Store.findForFlowGiven setup address flowId)
  | .get id => do told (← Store.getGiven setup id)
  | .has address flowId => return .bool (← Store.hasGiven setup address flowId)
  | .swap id expected step vars status extra => do
    let c ← Work.check (Change.ofFields step extra)
    return .bool (← Store.swapGiven setup id expected (completeChange c vars status))
  | .abandonAll address => return .int (← Store.abandonAllGiven setup address)
  | .reset address => return .int (← Store.resetGiven setup address)
  | .due limit => do
    return .list ((← Store.dueGiven setup (← Work.check (limitOf limit))).map fun s => .str s.id)

end Command

end Chatflow.Store
