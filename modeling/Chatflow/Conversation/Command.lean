import Chatflow.Conversation.Request

/-! Commands: everything that can be asked of the runtime, and what operators can change about what it works
on, as one type. A command is written as a document, which says under `do` what is to be done; what it names may be
any value. -/

namespace Chatflow.Conversation

inductive Command where
  | event (document : Value)
  | start (flowId address vars : Value)
  | continueFlow (address flowId text replyId : Value)
  | resume (sessionId : Value)
  | resumeDue
  | reset (address : Value)
  | addFlow (document : Value)
  | dropFlow (id : String)
  | addAgent (document : Value)
  | setCache (down : Bool)
  | setDatabase (down : Bool)
  | setVariables (sessionId : String) (vars : Fields)
deriving Repr

namespace Command

/-- The text in a field; an empty one if there is none. -/
def wordOf (fields : Fields) (name : String) : String := ((fields.get? name).bind Value.str?).getD ""

/-- The table in a field; an empty one if there is none. -/
def tableOf (fields : Fields) (name : String) : Fields := ((fields.get? name).bind Value.fields?).getD []

def isSet (fields : Fields) (name : String) : Bool := ((fields.get? name).map Value.truthy).getD false

def ofFields? (fields : Fields) : Option Command :=
  let word := wordOf fields
  let part (name : String) : Value := (fields.get? name).getD .null
  match word "do" with
  | "event" => some (.event (part "event"))
  | "start" => some (.start (part "flow_id") (part "address") (part "variables"))
  | "continue" =>
    some (.continueFlow (part "address") (part "flow_id") ((fields.get? "text").getD (.str "")) (part "reply_id"))
  | "resume" => some (.resume (part "session_id"))
  | "job" => some .resumeDue
  | "reset" => some (.reset (part "address"))
  | "flow" => some (.addFlow (part "flow"))
  | "drop_flow" => some (.dropFlow (word "id"))
  | "agent" => some (.addAgent (part "agent"))
  | "redis" => some (.setCache (isSet fields "down"))
  | "mongo" => some (.setDatabase (isSet fields "down"))
  | "poison" => some (.setVariables (word "session_id") (tableOf fields "variables"))
  | _ => none

/-- The answer to a command that comes to an outcome. -/
def reported (work : Work Outcome) : Work Value := return (← work).report.toValue

/-- A change of the world that is answered with nothing. -/
def silently (f : World → World) : Work Value := do
  Work.change f
  return .null

def perform (setup : Setup) : Command → Work Value
  | .event document => do
    let e ← Work.check (Event.ofValue document).toExcept
    reported (handleEvent setup e)
  | .start flowId address vars => reported (startGiven setup flowId address vars)
  | .continueFlow address flowId text replyId => reported (continueGiven setup address flowId text replyId)
  | .resume sessionId => reported (resumeGiven setup sessionId)
  | .resumeDue => return .obj ((← Conversation.resumeDue setup).map fun count => (count.1, .int count.2))
  | .reset address => reported (Conversation.reset setup ((address.str?).getD ""))
  | .addFlow document => do
    let f ← Work.check (Flow.ofValue document).toExcept
    silently fun w => { w with catalogue := w.catalogue.addFlow f }
  | .dropFlow id => silently fun w => { w with catalogue := w.catalogue.dropFlow id }
  | .addAgent document => do
    let a ← Work.check (Agent.ofValue document).toExcept
    silently fun w => { w with catalogue := w.catalogue.addAgent a }
  | .setCache down => silently fun w => { w with outside := w.outside.setCache down }
  | .setDatabase down => silently fun w => { w with outside := w.outside.setDatabase down }
  | .setVariables sessionId vars =>
    silently fun w => { w with table := w.table.setVariables sessionId vars }

end Command

end Chatflow.Conversation
