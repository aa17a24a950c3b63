import Chatflow.Proofs.EventPaths
import Chatflow.Proofs.OutsideWork

/-! What surrounds the work for a contact: that it is done under the contact's lock, that an event is let in before and
that its outcome is handed over after it. None of this shows in the document database. -/

namespace Chatflow.Proofs.Surroundings
open Conversation OutsideWork EventPaths ResumedWaits WorkLogic

variable {α γ : Type} {setup : Setup} {view : Outside → γ} {raw e : Event} {w v : World}

section
variable (apart : Apart setup view)
include apart

theorem held_view (address : String) (w : World) : view (held setup address w).outside = view w.outside :=
  apart.enterLock _ _ _ w.outside

theorem withLock_view (address : String) (work : Work α) (w : World) :
    view (withLock setup address work w).2.outside = view (work (held setup address w)).2.outside :=
  apart.leaveLock _ _ _ _

theorem wasSeen_view (e : Event) (w : World) : view (wasSeen setup e w).2.outside = view w.outside := by
  unfold wasSeen
  cases filled? e.messageId with
  | none => rfl
  | some id => exact apart.isDuplicate _ _ w.outside

/-- To let an event in does not show where workers do not coordinate. -/
theorem admitted_view (admitted : Admitted setup raw w e v) : view v.outside = view w.outside := by
  obtain ⟨_, _, seen, checked, rfl⟩ := admitted
  have looked := wasSeen_view apart e w
  rw [checked] at looked
  exact (held_view apart e.address seen).trans looked

end

theorem deliver_inward (o : Outcome) (w : World) : inward (deliver setup o w).2.outside = inward w.outside := by
  unfold deliver
  dsimp only
  split
  · rfl
  · exact inward_inner.dispatchAll o.actions w.outside

/-- What becomes of an event after the work on it shows only where something goes out. -/
theorem handleEvent_inward (admitted : Admitted setup raw w e v) :
    inward (handleEvent setup raw w).2.outside = inward (handleLocked setup e v).2.outside := by
  obtain ⟨named, addressed, seen, checked, rfl⟩ := admitted
  subst named
  rw [← withLock_view inward_apart]
  unfold handleEvent
  rw [if_neg addressed]
  unfold handleFor
  rw [bind_apply, checked]
  dsimp only
  rw [if_neg Bool.false_ne_true, bind_apply]
  simp only [Work.attempt]
  rcases withLock setup (Phone.normalize raw.address) _ seen with ⟨fault | o, inner⟩
  · dsimp only
    split
    · exact inward_inner.raiseAlert _ _ _ inner.outside
    · rfl
  · exact deliver_inward o inner

/-- It does not show in the database. -/
theorem handleEvent_database (admitted : Admitted setup raw w e v) :
    (handleEvent setup raw w).2.outside.database = (handleLocked setup e v).2.outside.database :=
  congrArg Prod.fst (handleEvent_inward admitted)

end Chatflow.Proofs.Surroundings
