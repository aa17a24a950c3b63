import Chatflow.Proofs.HandedActions

/-! What a call that fails leaves in the store. Nothing is undone. A call that takes a session on fails before it
changes any; a call that starts flows may fail in the first run of one of them, with a new record already there. -/

namespace Chatflow.Proofs.FailedCalls
open Conversation Interpreter SessionTable InProcessStore ReachableStates CallDeeds CallCourses HandedActions WorkLogic

variable {setup : Setup} {w after : World}

/-- Work that changes no record if it fails while nobody else writes. -/
def Spares {α : Type} (work : Work α) : Prop :=
  ∀ w, w.foreign = [] → ∀ fault after, work w = (.error fault, after) → after.table = w.table

theorem Spares.table {α : Type} {work : Work α} {fault : Fault} (failed : work w = (.error fault, after))
    (spares : Spares work) (alone : w.foreign = []) : after.table = w.table :=
  spares w alone fault after failed

theorem Spares.afterCalm {α β : Type} {work : Work α} {next : α → Work β} (calm : Calm work)
    (rest : ∀ a, Spares (next a)) : Spares (work >>= next) := by
  intro w alone fault after failed
  have quiet := calm w
  rcases bind_failed failed with stopped | ⟨a, middle, done, failed⟩
  · rw [stopped] at quiet
    exact quiet.table
  · rw [done] at quiet
    exact (rest a middle (quiet.foreign.trans alone) fault after failed).trans quiet.table

section
variable (inProcess : setup.hasDatabase = false)
include inProcess

end

end Chatflow.Proofs.FailedCalls
