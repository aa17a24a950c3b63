import Chatflow.Action
import Chatflow.Catalogue
import Chatflow.Outside
import Chatflow.Store.Table

/-! The state that the runtime works on: stored sessions, flows and agents, and the outside. -/

namespace Chatflow

structure World where
  /-- The sessions, where they are kept in the process. -/
  table : SessionTable := {}
  catalogue : Catalogue := {}
  /-- The number of the next session. -/
  nextSession : Nat := 1
  /-- The lots that rotators are going to draw. -/
  rolls : List Float := []
  /-- What other writers do just before the next swaps. -/
  foreign : List (Option ForeignWrite) := []
  /-- Batches of actions that are going to be sent once the work at hand is done. -/
  postponed : List (List Action) := []
  outside : Outside := {}
deriving Repr

/-- Work that changes the world and may fail. What it did before it failed stays done. -/
abbrev Work (α : Type) := ExceptT Fault (StateM World) α

namespace Work

def look {α : Type} (f : World → α) : Work α := fun w => (.ok (f w), w)

def change (f : World → World) : Work Unit := fun w => (.ok (), f w)

def check {α : Type} (e : Except Fault α) : Work α := fun w => (e, w)

def fail {α : Type} (f : Fault) : Work α := fun w => (.error f, w)

def onOutside {α : Type} (work : StateM Outside α) : Work α := fun w =>
  let (a, outside) := work w.outside
  (.ok a, { w with outside := outside })

def tryOutside {α : Type} (work : StateM Outside (Except Fault α)) : Work α := fun w =>
  let (a, outside) := work w.outside
  (a, { w with outside := outside })

/-- Work that ends with an answer also if it fails. -/
def attempt {α : Type} (work : Work α) : Work (Except Fault α) := fun w =>
  let (a, w) := work w
  (.ok a, w)

def freshId : Work String := fun w => (.ok s!"s{w.nextSession}", { w with nextSession := w.nextSession + 1 })

/-- Work followed by other work, which is done also if the first one fails. -/
def finally' {α : Type} (work : Work α) (last : Work Unit) : Work α := fun w =>
  let (a, w) := work w
  let (_, w) := last w
  (a, w)

end Work

end Chatflow
