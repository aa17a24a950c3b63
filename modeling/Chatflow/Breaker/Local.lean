import Chatflow.Fault
import Chatflow.Part
import Chatflow.Time.Clock

/-! Circuit breakers kept in memory. After so many failures in a row a dependency is left alone for a
while; then calls are let through as probes, and so many successful ones close the circuit again. -/

namespace Chatflow

/-- The limits of a breaker: failures that open it, seconds until it is probed, and successful probes that
close it. -/
structure BreakerLimits where
  failures : Amount := 5
  seconds : Amount := 60
  probes : Amount := 3
deriving Repr, BEq

inductive CircuitState where
  | closed
  | halfOpen
  | opened
deriving Repr, DecidableEq

def CircuitState.name : CircuitState → String
  | closed => "closed"
  | halfOpen => "half_open"
  | opened => "open"

structure Breaker (τ : Type) where
  limits : BreakerLimits := {}
  failures : Int := 0
  probes : Int := 0
  openedAt : Option τ := none
  state : CircuitState := .closed
deriving Repr

namespace Breaker

variable {τ : Type}

/-- Goes over to another state; staying in the same one changes nothing. -/
def enter (b : Breaker τ) (state : CircuitState) (now : τ) : Breaker τ :=
  if state = b.state then b
  else
    { b with
      state := state
      probes := 0
      openedAt := if state = .opened then some now else b.openedAt
      failures := if state = .closed then 0 else b.failures }

/-- Whether enough time has passed since the circuit was opened. -/
def mayProbe [Clock τ] (b : Breaker τ) (now : τ) : Bool :=
  match b.openedAt with
  | some time => Clock.passed time now b.limits.seconds
  | none => false

/-- Lets a call through, or refuses it with `none`. -/
def letThrough [Clock τ] (b : Breaker τ) (now : τ) : Option (Breaker τ) :=
  if b.state ≠ .opened then some b
  else if b.mayProbe now then some (b.enter .halfOpen now)
  else none

def failed (b : Breaker τ) (now : τ) : Breaker τ :=
  let b := { b with failures := b.failures + 1 }
  if b.state == .halfOpen || b.limits.failures.reachedBy b.failures then b.enter .opened now else b

def succeeded (b : Breaker τ) (now : τ) : Breaker τ :=
  if b.state = .halfOpen then
    let b := { b with probes := b.probes + 1 }
    if b.limits.probes.reachedBy b.probes then b.enter .closed now else b
  else { b with failures := 0 }

/-- A call that was let through is over. -/
def finish (b : Breaker τ) (now : τ) (success : Bool) : Breaker τ :=
  if success then b.succeeded now else b.failed now

/-- Calls that are all admitted or refused before the first of them is over, and then finish in order. Each
call is given by its success; `none` is answered for a refused one. -/
def race [Clock τ] (b : Breaker τ) (now : τ) (calls : List Bool) : List (Option Bool) × Breaker τ :=
  let (admitted, b) := calls.foldl (fun (admitted, b) success =>
    match letThrough b now with
    | some b => (admitted ++ [some success], b)
    | none => (admitted ++ [none], b)) (([] : List (Option Bool)), b)
  (admitted, admitted.foldl (fun b call => match call with
    | some success => b.finish now success
    | none => b) b)

end Breaker

def Breaker.call {σ τ α : Type} [Clock τ] (part : Part σ (Breaker τ)) (service : String) (now : τ)
    (work : StateM σ (Except Fault α)) : StateM σ (Except Fault α) := do
  match (part.read (← get)).letThrough now with
  | none => return .error (.circuitOpen service)
  | some b =>
    modify (part.write b)
    let result ← work
    modify (part.update fun b => b.finish now result.isOk)
    return result

end Chatflow
