import Chatflow.Cache.Coordination
import Chatflow.Conversation.Outcome
import Chatflow.Dispatch
import Chatflow.World

/-! Work for one contact at a time. What is decided while a contact's lock is held is carried out after it
has been given back. -/

namespace Chatflow.Conversation

def lobby : Part Outside (Lobby Nat) := ⟨Outside.lobby, fun l o => { o with lobby := l }⟩

def dedupeBreaker : Part Outside (Breaker Reading) := ⟨Outside.dedupeBreaker, fun b o => { o with dedupeBreaker := b }⟩

/-- Does work while the lock of a contact is held; it is given back also if the work fails. -/
def withLock {α : Type} (setup : Setup) (address : String) (work : Work α) : Work α := do
  let name := Cache.addressLockName address
  let hold ← Work.onOutside (Cache.enterLock setup.link lobby name (.whole setup.settings.addressLockSeconds) 0)
  work.finally' (Work.onOutside (Cache.leaveLock setup.link lobby name 0 hold))

/-- Sends the actions of an outcome. A batch with delays in it is sent once the work at hand is done. -/
def deliver (setup : Setup) (o : Outcome) : Work Outcome := do
  if o.actions.any fun a => a.envelope.delaySeconds != 0 then
    Work.change fun w => { w with postponed := w.postponed ++ [o.actions] }
  else
    let _ ← Work.onOutside (Dispatch.dispatchAll setup o.actions)
  return o

def sendPostponed (setup : Setup) : Work Unit := do
  for batch in ← Work.look World.postponed do
    let _ ← Work.onOutside (Dispatch.dispatchAll setup batch)
  Work.change fun w => { w with postponed := [] }

end Chatflow.Conversation
