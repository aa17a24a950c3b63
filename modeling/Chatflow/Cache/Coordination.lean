import Chatflow.Breaker.Local
import Chatflow.Breaker.Lobby
import Chatflow.Cache.Server

/-! What workers agree on through the cache: which deliveries have been seen, and who works for a contact.
Where the cache does not help, deliveries count as new, and a lock within the process takes the place of the
shared one. -/

namespace Chatflow.Cache

variable {σ τ : Type} [Clock τ]

def deliveryKey (delivery : String) : String := "processed:" ++ delivery

/-- How many seconds a delivery is remembered where nothing else is said. -/
def deliverySeconds : Amount := 300

/-- Remembers a delivery, and tells whether it had been seen already. -/
def isDuplicate (link : Option (Link σ)) (breaker : Part σ (Breaker τ)) (now : τ) (delivery : String)
    (seconds : Amount) : StateM σ Bool := do
  match link with
  | none => return false
  | some link =>
    match ← Breaker.call breaker "redis" now (link (.set (deliveryKey delivery) "1" seconds true)) with
    | .ok (.flag isNew) => return !isNew
    | _ => return false

def addressLockName (address : String) : String := "lock:address:" ++ address

/-- Asks for a shared lock, and tells whether it was granted. -/
def acquireShared (link : Option (Link σ)) (name : String) (seconds : Amount) : StateM σ Bool := do
  match link with
  | none => return false
  | some link =>
    match ← link (.lock name seconds seconds) with
    | .error _ => return false
    | .ok _ =>
      match ← link (.acquire name) with
      | .ok (.flag granted) => return granted
      | _ => return false

/-- Gives a shared lock back; that this fails is of no account. -/
def releaseShared (link : Option (Link σ)) (name : String) : StateM σ Unit := do
  match link with
  | none => return ()
  | some link =>
    let _ ← link (.release name)

/-- How a lock is held. -/
inductive Hold where
  | shared
  | within
deriving Repr, DecidableEq

/-- Asks for the lock of a contact: the shared one, or else the one within the process. -/
def enterLock {Task : Type} [BEq Task] (link : Option (Link σ)) (lobby : Part σ (Lobby Task)) (name : String)
    (seconds : Amount) (task : Task) : StateM σ Hold := do
  if ← acquireShared link name seconds then return .shared
  modify (lobby.update fun l => l.enter name task)
  return .within

def leaveLock {Task : Type} [BEq Task] (link : Option (Link σ)) (lobby : Part σ (Lobby Task)) (name : String)
    (task : Task) : Hold → StateM σ Unit
  | .shared => releaseShared link name
  | .within => modify (lobby.update fun l => l.leave name task)

/-- Workers that all want one lock at once. They ask for it in order and give it back in order. Told are, in
order, each worker's coming in, with how many hold or wait for the lock within the process then, and each
worker's going out. -/
def contend (link : Option (Link σ)) (lobby : Part σ (Lobby Nat)) (name : String) (seconds : Amount)
    (workers : Nat) : StateM σ (List (Nat × Option Nat)) := do
  let mut events : List (Nat × Option Nat) := []
  let mut holds : List (Nat × Hold) := []
  for worker in List.range workers do
    let hold ← enterLock link lobby name seconds worker
    let l := lobby.read (← get)
    if hold = .shared ∨ l.holder? name = some worker then
      events := events ++ [(worker, some (l.users name))]
    holds := holds ++ [(worker, hold)]
  for (worker, hold) in holds do
    events := events ++ [(worker, none)]
    leaveLock link lobby name worker hold
    let l := lobby.read (← get)
    if hold = .within then
      if let some nextWorker := l.holder? name then
        events := events ++ [(nextWorker, some (l.users name))]
  return events

end Chatflow.Cache
