import Chatflow.Documents.Flows
import Chatflow.Documents.Sessions

/-! Where sessions, flows and agents are kept: in the process, or in the document database. -/

namespace Chatflow

namespace Store

def find (setup : Setup) (address : String) : Work (Option Session) :=
  if setup.hasDatabase then Documents.Sessions.find setup (.str address)
  else Work.look fun w => w.table.find? address

def findForFlow (setup : Setup) (key : SessionKey) : Work (Option Session) :=
  if setup.hasDatabase then Documents.Sessions.findForFlow setup (.str key.address) (.str key.flowId)
  else Work.look fun w => w.table.findForFlow? key

def get (setup : Setup) (id : String) : Work (Option Session) :=
  if setup.hasDatabase then Documents.Sessions.get setup (.str id)
  else Work.look fun w => w.table.get? id

def has (setup : Setup) (key : SessionKey) : Work Bool :=
  if setup.hasDatabase then Documents.Sessions.has setup (.str key.address) (.str key.flowId)
  else Work.look fun w => w.table.has key

def create (setup : Setup) (key : SessionKey) (vars : Fields) (deviceId : Option String) : Work Session := do
  if setup.hasDatabase then Documents.Sessions.create setup key vars deviceId
  else
    let id ← Work.freshId
    let s := SessionTable.newSession id (← Work.check setup.utcNow) key vars deviceId
    Work.change fun w => { w with table := w.table.put s }
    return s

/-- Lets another writer act on a session, if one is to. -/
def interfere (setup : Setup) (id : String) : Work Unit := do
  let write ← Work.look fun w => w.foreign.head?.join
  Work.change fun w => { w with foreign := w.foreign.tail }
  if let some write := write then
    let now ← Work.check setup.utcNow
    Work.change fun w => { w with table := write.apply now id w.table }

def swap (setup : Setup) (id : String) (expected : Option String) (c : Change) : Work Bool := do
  if setup.hasDatabase then Documents.Sessions.swap setup (.str id) (.ofText? expected) c
  else
    interfere setup id
    if (← Work.look fun w => w.table.standsAt? id expected).isNone then return false
    let now ← Work.check setup.utcNow
    fun w =>
      let (swapped, table) := w.table.swap now id expected c
      (.ok swapped, { w with table := table })

def abandonAll (setup : Setup) (address : String) : Work Nat :=
  if setup.hasDatabase then Documents.Sessions.abandonAll setup (.str address)
  else do
    if ← Work.look fun w => w.table.rows.any (SessionTable.isOpenRow address) then
      let now ← Work.check setup.utcNow
      fun w =>
        let (n, table) := w.table.abandonAll now address
        (.ok n, { w with table := table })
    else return 0

def reset (setup : Setup) (address : String) : Work Nat :=
  if setup.hasDatabase then Documents.Sessions.reset setup (.str address)
  else fun w =>
    let (n, table) := w.table.reset address
    (.ok n, { w with table := table })

def due (setup : Setup) (now : Instant) (limit : Int := SessionTable.dueLimit) : Work (List Session) :=
  if setup.hasDatabase then Documents.Sessions.due setup now limit
  else Work.look fun w => w.table.due now limit

end Store

namespace Offer

def active (setup : Setup) : Work (List Flow) :=
  if setup.hasDatabase then Documents.Flows.active setup
  else Work.look fun w => w.catalogue.active

def flow? (setup : Setup) (id : String) : Work (Option Flow) :=
  if setup.hasDatabase then Documents.Flows.flow? setup (.str id)
  else Work.look fun w => w.catalogue.flow? id

def agent? (setup : Setup) (id : String) : Work (Option Agent) :=
  if setup.hasDatabase then Documents.Flows.agent? setup (.str id)
  else Work.look fun w => w.catalogue.agent? id

end Offer

end Chatflow
