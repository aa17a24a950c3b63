import Chatflow.Cache.Server

/-! Rate limits by counting in fixed windows. The first hit of a key opens a window; a hit is allowed if it
is among the first so many of its window. Without a working cache everything is allowed. -/

namespace Chatflow.RateLimit

open Chatflow.Cache

inductive Subject where
  | address (address : String)
  | peer (host : String)
deriving Repr, DecidableEq

def Subject.key : Subject → String
  | address a => "rate_limit:address:" ++ a
  | peer host => "rate_limit:ip:" ++ host

/-- The most hits in a window, and the length of a window in seconds. -/
structure Quota where
  limit : Amount
  seconds : Amount := 60
deriving Repr, BEq

/-- The quotas of contacts and of peers where nothing else is said. -/
def addressQuota : Quota := ⟨20, 60⟩
def peerQuota : Quota := ⟨50, 60⟩

variable {σ : Type}

def count (link : Link σ) (key : String) (seconds : Amount) : ExceptT Fault (StateM σ) Int := do
  let reply ← ExceptT.mk (link (.increment key))
  let n ← ExceptT.mk (pure reply.count?)
  if n = 1 then
    let _ ← ExceptT.mk (link (.expire key seconds))
  return n

def hit (link : Option (Link σ)) (subject : Subject) (quota : Quota) : StateM σ Bool := do
  match link with
  | none => return true
  | some link =>
    match ← (count link subject.key quota.seconds).run with
    | .ok n => return quota.limit.allows n
    | .error _ => return true

/-- A hit with a limit that may be any value. It is counted whatever the limit is, but a count can only be
compared with numbers. -/
def hitGiven (link : Option (Link σ)) (subject : Subject) (limit : Value) (seconds : Amount) :
    StateM σ (Except Fault Bool) := do
  match limit.number? with
  | some limit => return .ok (← hit link subject ⟨limit, seconds⟩)
  | none => return if ← hit link subject ⟨.whole (-1), seconds⟩ then .ok true else .error .wrongType

end Chatflow.RateLimit
