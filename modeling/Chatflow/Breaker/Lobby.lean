/-! Locks within one process, by name. For each name the first task in line holds the lock and the others
wait in order; a name that nobody holds or waits for is forgotten. -/

namespace Chatflow

/-- The tasks that hold or wait for each lock. No line is empty. -/
structure Lobby (Task : Type) where
  lines : List (String × List Task) := []
deriving Repr

namespace Lobby

variable {Task : Type} [BEq Task]

def line (l : Lobby Task) (name : String) : List Task :=
  ((l.lines.find? fun entry => entry.1 == name).map (·.2)).getD []

def holder? (l : Lobby Task) (name : String) : Option Task := (l.line name).head?

def users (l : Lobby Task) (name : String) : Nat := (l.line name).length

def names (l : Lobby Task) : List String := l.lines.map (·.1)

/-- Replaces the line of a lock; an empty line is forgotten. -/
def setLine (l : Lobby Task) (name : String) (tasks : List Task) : Lobby Task :=
  if tasks.isEmpty then ⟨l.lines.filter fun entry => entry.1 != name⟩
  else if l.lines.any fun entry => entry.1 == name then
    ⟨l.lines.map fun entry => if entry.1 == name then (name, tasks) else entry⟩
  else ⟨l.lines ++ [(name, tasks)]⟩

/-- A task asks for a lock. It holds it at once if nobody else does. -/
def enter (l : Lobby Task) (name : String) (task : Task) : Lobby Task := l.setLine name (l.line name ++ [task])

/-- A task gives a lock back, or no longer waits for it. -/
def leave (l : Lobby Task) (name : String) (task : Task) : Lobby Task := l.setLine name ((l.line name).erase task)

end Lobby

end Chatflow
