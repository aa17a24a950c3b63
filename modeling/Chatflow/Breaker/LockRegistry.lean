/-! How locks within one process are found by name. The first task that asks for a name has a lock made and registered; who
asks while it is registered is given the same one. Its users are counted, and with the last of them it is struck off, so that
whoever asks next is given another lock. -/

namespace Chatflow

/-- The registered locks, and how many tasks use each of them. Locks are told apart by numbers, none of which is used twice. -/
structure LockRegistry where
  locks : List (String × Nat) := []
  users : List (String × Nat) := []
  /-- How many locks have been made. -/
  made : Nat := 0
deriving Repr, DecidableEq

namespace LockRegistry

/-- Writes a number under a name, in place of the one that stands there, or else at the end. -/
def put (name : String) (n : Nat) : List (String × Nat) → List (String × Nat)
  | [] => [(name, n)]
  | entry :: rest => if entry.1 = name then (name, n) :: rest else entry :: put name n rest

def strike (name : String) (entries : List (String × Nat)) : List (String × Nat) :=
  entries.filter fun entry => entry.1 != name

/-- Gives out the lock of a name, and counts one user more. A lock is made each time; it is registered, and given out, if the
name has none. -/
def give (r : LockRegistry) (name : String) : Nat × LockRegistry :=
  let lock := (r.locks.lookup name).getD r.made
  (lock, ⟨put name lock r.locks, put name ((r.users.lookup name).getD 0 + 1) r.users, r.made + 1⟩)

/-- Counts one user of a name less, and strikes the name off after the last one. A name without a count has one user. -/
def release (r : LockRegistry) (name : String) : LockRegistry :=
  let left := (r.users.lookup name).getD 1 - 1
  if 0 < left then { r with users := put name left r.users }
  else { r with locks := strike name r.locks, users := strike name r.users }

end LockRegistry

end Chatflow
