import Chatflow.Breaker.Local
import Chatflow.Cache.Server

/-! Circuit breakers kept in the shared cache, so that all workers see the same circuit. Nothing that goes
wrong with the cache keeps a call from being made or changes what comes of it. -/

namespace Chatflow.SharedBreaker

open Chatflow.Cache

structure Circuit where
  service : String
  limits : BreakerLimits := {}
deriving Repr, BEq

def Circuit.key (c : Circuit) : String := "circuit:" ++ c.service

/-- How long the state is kept: twice the time until the circuit is probed. -/
def Circuit.lifetime (c : Circuit) : Amount := c.limits.seconds.double

def cellText? (cells : List (String × Cell)) (name : String) : Option String :=
  ((cells.find? fun cell => cell.1 == name).map (·.2)).map Cell.show

/-- Whether a table says that the circuit is in a state. -/
def saysState (cells : List (String × Cell)) (state : CircuitState) : Bool :=
  cellText? cells "state" == some state.name

/-- When a table says the circuit was opened; `none` if it does not say so in a reading. -/
def openedAt? {τ : Type} [Clock τ] (cells : List (String × Cell)) : Option τ :=
  match cellText? cells "opened_at" with
  | some text => Clock.read? text
  | none => some Clock.start

variable {σ τ : Type} [Clock τ]

/-- A command whose answer is of no interest. -/
def send (link : Link σ) (c : Command) : ExceptT Fault (StateM σ) Unit := do
  let _ ← ExceptT.mk (link c)

def writeState (link : Link σ) (c : Circuit) (state : CircuitState) (cells : List (String × Cell)) :
    ExceptT Fault (StateM σ) Unit := do
  send link (.writeTable c.key (("state", .text state.name) :: cells))
  send link (.expire c.key c.lifetime)

def readTable (link : Link σ) (c : Circuit) : ExceptT Fault (StateM σ) (List (String × Cell)) := do
  let reply ← ExceptT.mk (link (.readTable c.key))
  ExceptT.mk (pure reply.table?)

/-- Whether calls are refused. A circuit that has been open for long enough is probed from now on. -/
def checkOpen (link : Link σ) (c : Circuit) (now : τ) : ExceptT Fault (StateM σ) Bool := do
  let cells ← readTable link c
  if saysState cells .opened then
    match openedAt? cells with
    | none => return false
    | some time =>
      if Clock.passed time now c.limits.seconds then
        writeState link c .halfOpen [("successes", .count 0)]
        return false
      else return true
  else return false

/-- Whether calls are refused. A circuit whose state cannot be read counts as closed. -/
def isOpen (link : Link σ) (c : Circuit) (now : τ) : StateM σ Bool := do
  match ← (checkOpen link c now).run with
  | .ok answer => return answer
  | .error _ => return false

def noteSuccess (link : Link σ) (c : Circuit) : ExceptT Fault (StateM σ) Unit := do
  let cells ← readTable link c
  if saysState cells .halfOpen then
    let reply ← ExceptT.mk (link (.incrementCell c.key "successes" 1))
    let successes ← ExceptT.mk (pure reply.count?)
    if c.limits.probes.reachedBy successes then send link (.delete c.key)
  else send link (.dropCell c.key "failures")

def noteFailure (link : Link σ) (c : Circuit) (now : τ) : ExceptT Fault (StateM σ) Unit := do
  let cells ← readTable link c
  let reply ← ExceptT.mk (link (.incrementCell c.key "failures" 1))
  let failures ← ExceptT.mk (pure reply.count?)
  send link (.expire c.key c.lifetime)
  if saysState cells .halfOpen || c.limits.failures.reachedBy failures then
    writeState link c .opened [("opened_at", .text (Clock.write now))]

/-- Counts a call; what goes wrong with that is of no account. -/
def note (link : Link σ) (c : Circuit) (now : τ) (success : Bool) : StateM σ Unit := do
  let _ ← (if success then noteSuccess link c else noteFailure link c now).run

def call {α : Type} (link : Link σ) (c : Circuit) (now : τ) (work : StateM σ (Except Fault α)) :
    StateM σ (Except Fault α) := do
  if ← isOpen link c now then return .error (.circuitOpen c.service)
  let result ← work
  note link c now result.isOk
  return result

/-- Calls that are all admitted or refused before the first of them is over, and then finish in order. Each
call is given by its success; `none` is answered for a refused one. -/
def race (link : Link σ) (c : Circuit) (now : τ) (calls : List Bool) : StateM σ (List (Option Bool)) := do
  let admitted ← calls.mapM fun success => do
    return if ← isOpen link c now then none else some success
  for call in admitted do
    if let some success := call then note link c now success
  return admitted

/-- Makes a call through a breaker, if there is a cache to keep its state in. -/
def callVia {α : Type} (link : Option (Link σ)) (c : Circuit) (now : τ)
    (work : StateM σ (Except Fault α)) : StateM σ (Except Fault α) :=
  match link with
  | some link => call link c now work
  | none => work

end Chatflow.SharedBreaker
