import Chatflow.Proofs.Surroundings
import Chatflow.Proofs.SwapCounts

/-! What providers of completions are asked for. Only a conversation that is continued can make a call ask them;
nothing that is started, resumed or reset does. -/

namespace Chatflow.Proofs.CompletionRequests
open Conversation OutsideWork CallDeeds CallCourses ResumedWaits SwapCounts Surroundings EventPaths InProcessStore
  WorkLogic

variable {α β : Type} {setup : Setup} {raw e : Event} {w v : World}

/-- Work during which no provider is asked for anything, however it ends. -/
def Unasking (work : Work α) : Prop := ∀ w, (work w).2.outside.inquiries = w.outside.inquiries

namespace Unasking

theorem bind {work : Work α} {next : α → Work β} (first : Unasking work) (rest : ∀ a, Unasking (next a)) :
    Unasking (work >>= next) := by
  intro w
  have before := first w
  rw [bind_apply]
  rcases done : work w with ⟨_ | a, middle⟩ <;> rw [done] at before
  · exact before
  · exact (rest a middle).trans before

theorem pure (a : α) : Unasking (Pure.pure a) := fun _ => rfl

theorem fail (fault : Fault) : Unasking (Work.fail fault : Work α) := fun _ => rfl

theorem check (e : Except Fault α) : Unasking (Work.check e) := fun _ => rfl

/-- To read asks for nothing. -/
theorem reads {work : Work α} (reads : Reads work) : Unasking work := by
  intro w
  obtain ⟨a, read⟩ := reads w
  rw [read]

/-- Neither does what only works on sessions. -/
theorem unsent {work : Work α} (unsent : Unsent work) : Unasking work := by
  intro w
  obtain ⟨swaps, swapped⟩ := unsent w
  exact congrArg Outside.inquiries swapped.outside

theorem deliver (o : Outcome) : Unasking (Conversation.deliver setup o) :=
  fun w => congrArg Prod.snd (deliver_inward o w)

end Unasking

/-- To hold the lock of a contact, and to hand over what comes of the work meanwhile, asks for nothing either. -/
theorem withLock_inquiries {work : Work α} {address : String}
    (still : (work (held setup address w)).2.outside.inquiries = (held setup address w).outside.inquiries) :
    (withLock setup address work w).2.outside.inquiries = w.outside.inquiries := by
  have apart := @inward_apart setup
  have released := congrArg Prod.snd (withLock_view apart address work w)
  have taken := congrArg Prod.snd (held_view apart address w)
  exact released.trans (still.trans taken)

theorem delivered_inquiries {work : Work Outcome} {address : String}
    (still : (work (held setup address w)).2.outside.inquiries = (held setup address w).outside.inquiries) :
    ((withLock setup address work >>= deliver setup) w).2.outside.inquiries = w.outside.inquiries := by
  have locked := withLock_inquiries still
  rw [bind_apply]
  rcases done : withLock setup address work w with ⟨fault | o, after⟩ <;> rw [done] at locked
  · exact locked
  · exact (Unasking.deliver o after).trans locked

section
variable (inProcess : setup.hasDatabase = false)
include inProcess

theorem abandonAll_unasking (address : String) : Unasking (Store.abandonAll setup address) := by
  intro w
  rw [abandonAll_apply inProcess]
  split
  · cases setup.utcNow <;> rfl
  · rfl

theorem clear_unasking (address : String) : Unasking (Store.reset setup address) := by
  intro w
  rw [reset_apply inProcess]

theorem startAll_unasking (e : Event) (triggered : List (Flow × String)) (o : Outcome) :
    Unasking (startAll setup e triggered o) := by
  induction triggered generalizing o with
  | nil => exact .pure o
  | cons entry rest ih =>
    exact (Unasking.unsent (start_unsent inProcess _ _ _ _ _ _)).bind fun started => ih _

theorem trigger_unasking (e : Event) (flows : List Flow) : Unasking (trigger setup e flows) := by
  unfold trigger
  refine (Unasking.reads (priorFlows_reads inProcess e.address flows)).bind fun prior => ?_
  dsimp only
  split
  · exact .pure _
  · exact startAll_unasking inProcess e _ _

theorem resumeLocked_unasking (now : Instant) (id : String) : Unasking (resumeLocked setup now id) := by
  unfold resumeLocked
  rw [get_eq inProcess]
  refine (Unasking.reads (.look _)).bind fun read => ?_
  cases read with
  | none => exact .pure _
  | some s =>
    refine (Unasking.reads (waitingIn?_reads inProcess s)).bind fun waits => ?_
    split
    · split
      · exact .pure _
      · refine (Unasking.check _).bind fun options => ?_
        refine Unasking.bind (fun _ => rfl) fun r => ?_
        refine .bind (.unsent fun w => ⟨1, commit_swapped inProcess s r w⟩) fun accepted => ?_
        cases accepted with
        | true => exact .unsent (follow_unsent inProcess _ _ _)
        | false => exact .pure _
    · exact .pure _

theorem startFlow_unasking (flowId address : String) (vars : Fields) :
    Unasking (startFlow setup flowId address vars) := by
  unfold startFlow startFound
  refine (Unasking.reads (flow?_reads inProcess flowId)).bind fun found => ?_
  cases found with
  | none => exact .fail _
  | some f => exact fun w => delivered_inquiries (Unasking.unsent (start_unsent inProcess _ _ _ _ _ _) _)

theorem resumeAsOf_unasking (now : Instant) (id : String) : Unasking (resumeAsOf setup now id) := by
  unfold resumeAsOf resumeFound
  rw [get_eq inProcess]
  refine (Unasking.reads (.look _)).bind fun read => ?_
  cases read with
  | none => exact .pure _
  | some s => exact fun w => delivered_inquiries (resumeLocked_unasking inProcess now id _)

theorem reset_unasking (address : String) : Unasking (Conversation.reset setup address) := by
  intro w
  refine withLock_inquiries ?_
  exact ((clear_unasking inProcess _).bind fun _ => .pure _) _

/-- An event can only make providers be asked if it is a message that neither resets the conversation nor begins another
one, and there is a conversation to continue. -/
theorem handleLocked_asks (e : Event) (v : World) :
    (handleLocked setup e v).2.outside.inquiries = v.outside.inquiries ∨
      e.kind = .message ∧ isReset e.text = false ∧ (∃ s, v.table.find? e.address = some s) ∧
        TriggerMatch.isKeyword e.text v.catalogue.active = false := by
  have triggers := fun flows => trigger_unasking inProcess e flows v
  unfold handleLocked
  split
  next => exact Or.inl (((clear_unasking inProcess e.address).bind fun _ => .pure _) v)
  next goesOn =>
    rw [active_eq inProcess, bind_apply]
    simp only [Work.look]
    split
    next kind =>
      have plain : isReset e.text = false := by simpa [kind] using goesOn
      rw [find_eq inProcess, bind_apply]
      simp only [Work.look]
      cases found : v.table.find? e.address with
      | none => exact Or.inl (triggers _)
      | some s =>
        have active := StoredSessions.find?_active found
        simp only [Option.filter_some, active, if_true]
        split
        next =>
          exact Or.inl (((abandonAll_unasking inProcess e.address).bind fun _ => trigger_unasking inProcess e _) v)
        next other => exact Or.inr ⟨kind, plain, ⟨s, rfl⟩, by simpa using other⟩
    next => exact Or.inl (triggers _)

/-- So it is with the event before it is let in, and after the work on it. -/
theorem handleEvent_asks (raw : Event) (w : World) :
    (handleEvent setup raw w).2.outside.inquiries = w.outside.inquiries ∨
      ∃ e v, Admitted setup raw w e v ∧ e.kind = .message ∧ isReset e.text = false ∧
        (∃ s, v.table.find? e.address = some s) ∧ TriggerMatch.isKeyword e.text v.catalogue.active = false := by
  by_cases addressed : Phone.normalize raw.address = ""
  · refine Or.inl ?_
    unfold handleEvent
    rw [if_pos addressed]
    rfl
  · have looked := congrArg Prod.snd
      (wasSeen_view (@inward_apart setup) { raw with address := Phone.normalize raw.address } w)
    rcases checked : wasSeen setup { raw with address := Phone.normalize raw.address } w with ⟨fault | _ | _, seen⟩
    case ok.false =>
      have admitted : Admitted setup raw w _ _ := ⟨rfl, addressed, seen, checked, rfl⟩
      have entered := congrArg Prod.snd (admitted_view inward_apart admitted)
      have ended := congrArg Prod.snd (handleEvent_inward admitted)
      rcases handleLocked_asks inProcess _ (held setup _ seen) with still | asks
      · exact Or.inl (ended.trans (still.trans entered))
      · exact Or.inr ⟨_, _, admitted, asks⟩
    all_goals
      refine Or.inl ?_
      rw [checked] at looked
      unfold handleEvent
      rw [if_neg addressed]
      unfold handleFor
      rw [bind_apply, checked]
      exact looked

end

end Chatflow.Proofs.CompletionRequests
