import Chatflow.Store.Change

/-! The session table: one record for each contact and flow, in the order in which they were first made. -/

namespace Chatflow

/-- What a session is stored under. -/
structure SessionKey where
  address : String
  flowId : String
deriving Repr, DecidableEq

def Session.key (s : Session) : SessionKey := ⟨s.address, s.flowId⟩

/-- The stored sessions under their keys. -/
structure SessionTable where
  rows : List (SessionKey × Session) := []
deriving Repr

namespace SessionTable

def sessions (t : SessionTable) : List Session := t.rows.map (·.2)

def get? (t : SessionTable) (id : String) : Option Session := t.sessions.find? fun s => s.id == id

def findForFlow? (t : SessionTable) (key : SessionKey) : Option Session :=
  (t.rows.find? fun row => row.1 == key).map (·.2)

def has (t : SessionTable) (key : SessionKey) : Bool := t.rows.any fun row => row.1 == key

def rowsOf (t : SessionTable) (address : String) : List (SessionKey × Session) :=
  t.rows.filter fun row => row.1.address == address

/-- The later of two sessions; the first one if they were changed at the same time. -/
def later (a b : Session) : Session := if a.updatedAt.micros < b.updatedAt.micros then b else a

def latest? : List Session → Option Session
  | [] => none
  | s :: rest => some (rest.foldl later s)

/-- The active session of a contact; of several, the one that was changed last. -/
def find? (t : SessionTable) (address : String) : Option Session :=
  latest? (((t.rowsOf address).map (·.2)).filter Session.isActive)

/-- Puts a session in a row: the row of the key if there is one, or else a new row at the end. -/
def putRow (key : SessionKey) (s : Session) : List (SessionKey × Session) → List (SessionKey × Session)
  | [] => [(key, s)]
  | row :: rest => if row.1 = key then (key, s) :: rest else row :: putRow key s rest

/-- Stores a session in place of the one of the same contact and flow. -/
def put (t : SessionTable) (s : Session) : SessionTable := ⟨putRow s.key s t.rows⟩

def newSession (id : String) (now : Instant) (key : SessionKey) (vars : Fields)
    (deviceId : Option String) : Session :=
  { id := id, address := key.address, flowId := key.flowId, vars := vars, deviceId := deviceId,
    createdAt := now, updatedAt := now }

/-- Whether the stored session of an id stands at a step. -/
def standsAt? (t : SessionTable) (id : String) (expected : Option String) : Option Session :=
  (t.get? id).filter fun s => s.currentStep == expected

/-- Changes a session, provided that it still stands at the step it was read at. -/
def swap (t : SessionTable) (now : Instant) (id : String) (expected : Option String) (c : Change) :
    Bool × SessionTable :=
  match t.standsAt? id expected with
  | some s => (true, t.put (c.apply now s))
  | none => (false, t)

/-- The stored session of an id, provided that it stands at a step which any value may name. -/
def standsAtGiven? (t : SessionTable) (id : String) (expected : Value) : Option Session :=
  (t.get? id).filter fun s => s.stepValue.same expected

def isOpenRow (address : String) (row : SessionKey × Session) : Bool :=
  row.1.address == address && row.2.status == .active

/-- Ends all sessions of a contact that are not over, and counts them. -/
def abandonAll (t : SessionTable) (now : Instant) (address : String) : Nat × SessionTable :=
  (t.rows.countP (isOpenRow address),
    ⟨t.rows.map fun row => if isOpenRow address row then (row.1, row.2.abandon now) else row⟩)

/-- Removes all records of a contact, and counts them. -/
def reset (t : SessionTable) (address : String) : Nat × SessionTable :=
  ((t.rowsOf address).length, ⟨t.rows.filter fun row => row.1.address != address⟩)

/-- When the wait of an active session is over. -/
def dueTime? (s : Session) : Option Instant := if s.status == .active then s.resumeAt else none

def isDue (now : Instant) (s : Session) : Bool :=
  match dueTime? s with
  | some t => t.micros ≤ now.micros
  | none => false

/-- The sessions whose wait is over, the longest overdue first. -/
def allDue (t : SessionTable) (now : Instant) : List Session :=
  (t.sessions.filter (isDue now)).mergeSort fun a b =>
    ((dueTime? a).map Instant.micros).getD 0 ≤ ((dueTime? b).map Instant.micros).getD 0

/-- The front of a list: so many entries, or, for a negative number, all but so many. -/
def front {α : Type} (items : List α) (limit : Int) : List α :=
  if 0 ≤ limit then items.take limit.toNat else items.take (items.length - limit.natAbs)

def dueLimit : Int := 100

def due (t : SessionTable) (now : Instant) (limit : Int := dueLimit) : List Session :=
  front (t.allDue now) limit

def setVariables (t : SessionTable) (id : String) (vars : Fields) : SessionTable :=
  match t.get? id with
  | some s => t.put { s with vars := s.vars.merge vars }
  | none => t

def sorted (t : SessionTable) : List Session :=
  (t.rows.mergeSort fun a b =>
    if a.1.address = b.1.address then Text.atMost a.1.flowId b.1.flowId
    else Text.atMost a.1.address b.1.address).map (·.2)

end SessionTable

/-- What another writer does to a session in between. -/
inductive ForeignWrite where
  | reset
  | abandon
  | swap (step : Option String) (vars : Fields) (status : SessionStatus)
  | inTurn (first next : ForeignWrite)
deriving Repr

namespace ForeignWrite

/-- The table after another writer's act on a session. Nothing happens if the session is gone. -/
def apply (w : ForeignWrite) (now : Instant) (id : String) (t : SessionTable) : SessionTable :=
  match t.get? id with
  | none => t
  | some s =>
    match w with
    | reset => (t.reset s.address).2
    | abandon => (t.abandonAll now s.address).2
    | swap step vars status =>
      t.put (Change.apply { step := step, vars := s.vars.merge vars, status := status } now s)
    | inTurn first next => next.apply now id (first.apply now id t)

end ForeignWrite

end Chatflow
