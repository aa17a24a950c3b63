import Chatflow.Argument
import Chatflow.Store.Backend

/-! The store asked with values of any kind. What is no text is the address, flow or id of nothing that is kept in
the process; the document database is asked for it all the same. -/

namespace Chatflow

namespace Store

/-- Looks something up for a text; for any other value the database is asked, or else there is nothing. -/
def lookUp {α : Type} (setup : Setup) (v : Value) (inProcess : String → Work α) (inDatabase : Work α)
    (nothing : α) : Work α :=
  match v with
  | .str s => inProcess s
  | _ => if setup.hasDatabase then inDatabase else return nothing

/-- The same for a contact and a flow, which are looked up together as a key. -/
def lookUpKey {α : Type} (setup : Setup) (address flowId : Value) (inProcess : SessionKey → Work α)
    (inDatabase : Work α) (nothing : α) : Work α :=
  match address, flowId with
  | .str address, .str flowId => inProcess ⟨address, flowId⟩
  | _, _ =>
    if setup.hasDatabase then inDatabase
    else do
      let _ ← Work.check (Argument.key address)
      let _ ← Work.check (Argument.key flowId)
      return nothing

def findGiven (setup : Setup) (address : Value) : Work (Option Session) :=
  lookUp setup address (find setup) (Documents.Sessions.find setup address) none

def findForFlowGiven (setup : Setup) (address flowId : Value) : Work (Option Session) :=
  lookUpKey setup address flowId (findForFlow setup) (Documents.Sessions.findForFlow setup address flowId) none

def getGiven (setup : Setup) (id : Value) : Work (Option Session) :=
  lookUp setup id (get setup) (Documents.Sessions.get setup id) none

def hasGiven (setup : Setup) (address flowId : Value) : Work Bool :=
  lookUpKey setup address flowId (has setup) (Documents.Sessions.has setup address flowId) false

def abandonAllGiven (setup : Setup) (address : Value) : Work Nat :=
  lookUp setup address (abandonAll setup) (Documents.Sessions.abandonAll setup address) 0

def resetGiven (setup : Setup) (address : Value) : Work Nat :=
  lookUp setup address (reset setup) (Documents.Sessions.reset setup address) 0

/-- The sessions whose wait is over. Those in the process cannot be told if one of them waits for something that is
no instant. -/
def dueGiven (setup : Setup) (limit : Int) : Work (List Session) := do
  let isLoose (s : Session) : Bool := s.status == .active && s.loose.has "resume_at"
  if !setup.hasDatabase && (← Work.look fun w => w.table.sessions.any isLoose) then Work.fail .wrongType
  else due setup setup.now limit

open Schema in
/-- What a new session is made of. -/
def checkNew (now : Except SpanError Instant) (address flowId deviceId : Value) (vars : Argument.Entries) :
    Check (SessionKey × Fields × Option String) :=
  (fun address flowId vars deviceId _ => (⟨address, flowId⟩, vars, deviceId)) <$>
    (text address).at' (.field "channel_address") <*> (text flowId).at' (.field "flow_id") <*>
    vars.named.at' (.field "variables") <*> (optional text deviceId).at' (.field "device_id") <*> Session.present now

/-- The key, the variables and the device of a new session. An id is used up also by one that cannot be made. -/
def newFrom (setup : Setup) (address flowId deviceId : Value) (vars : Argument.Entries) :
    Work (SessionKey × Fields × Option String) := do
  match (checkNew setup.now.toUtc address flowId deviceId vars).toExcept with
  | .ok made => return made
  | .error f =>
    let _ ← Work.freshId
    Work.fail f

def createGiven (setup : Setup) (address flowId vars deviceId : Value) : Work Session := do
  let vars ← Work.check (Argument.Entries.ofValue vars)
  let (key, vars, deviceId) ← newFrom setup address flowId deviceId vars
  create setup key vars deviceId

/-- A change of the variables and the status as well. -/
def completeChange (c : Change) (vars status : Value) : Except Fault Change := do
  let vars ← Argument.Entries.ofValue vars
  let status ← SessionStatus.ofValue status
  return { c with vars := vars.told, status := status }

/-- Changes a session, provided that it still stands at the step it was read at. In the process, only then is looked
at what variables and status it is to have. -/
def swapGiven (setup : Setup) (id expected : Value) (c : Except Fault Change) : Work Bool := do
  if setup.hasDatabase then Documents.Sessions.swap setup id expected (← Work.check c)
  else
    let some id := id.str? | return false
    interfere setup id
    let some s ← Work.look fun w => w.table.standsAtGiven? id expected | return false
    let c ← Work.check c
    let now ← Work.check setup.utcNow
    Work.change fun w => { w with table := w.table.put (c.apply now s) }
    return true

end Store

namespace Offer

def flowGiven? (setup : Setup) (id : Value) : Work (Option Flow) := do
  match id with
  | .str id => flow? setup id
  | _ =>
    if setup.hasDatabase then Documents.Flows.flow? setup id
    else
      let _ ← Work.check (Argument.key id)
      return none

end Offer

end Chatflow
