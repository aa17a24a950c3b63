import Chatflow.Proofs.OrderlySessions

/-! The runtime keeps the stored sessions in order. Whatever it makes of an active session that is in place, the session
is in place again or it is over; what is done on the outside does not matter. -/

namespace Chatflow.Proofs.ConversationOrder
open Conversation Interpreter StepEffects RunEndings AgentTurns ParkedSessions StoredSessions InProcessStore
  OrderlySessions LastingInvariants WorkLogic

variable {setup : Setup} {c : Catalogue} {s : Session}

/-- What a catalogue has under an id. -/
def OnOffer (c : Catalogue) (id : String) (f : Flow) : Prop := c.flow? id = some f

theorem OnOffer.own {f : Flow} {id : String} (onOffer : OnOffer c id f) : OnOffer c f.id f := by
  have same : f.id = id := by simpa only [beq_iff_eq] using List.find?_some onOffer
  rwa [same]

/-- A session that waits is parked at a wait step, so that no agent owns it. -/
theorem free_of_isWaiting {s : Session} (inPlace : InPlace c s) (waiting : s.isWaiting = true) : ¬ OwnedByAi s := by
  obtain ⟨f, id, step, known, stands⟩ := inPlace
  have kind := stands.resumeAt.mp (Bool.and_eq_true_iff.mp waiting).2
  apply stands.free
  intro config body
  simp [body, StepBody.kind?] at kind

theorem runOf_parks {f : Flow} {r : RunResult} (ran : RunOf f s r) (free : ¬ OwnedByAi s)
    (active : r.session.isActive = true) : ∃ id step, StandsAt f id step r.session := by
  obtain ⟨options, now, vars, rolls, rest, start, ran⟩ := ran
  exact run_parks ran free active

theorem inPlace_lawful : Lawful (OnOffer c) fun s => s.isActive = true → InPlace c s where
  made _ _ _ _ _ active := by cases active
  abandoned _ _ _ active := by cases active
  advanced {s change} inPlace advances now active := by
    cases advances with
    | missed => cases active
    | @taken ended updated assigned taken =>
      have former : InPlace c s := inPlace (Bool.and_eq_true_iff.mp assigned).1
      rw [taken.saved now] at active ⊢
      exact (former.taken taken active).congr rfl rfl rfl rfl rfl
    | @ran f r onOffer turn ran =>
      have free : ¬ OwnedByAi s := by
        rcases turn with free | waiting
        · exact free
        · exact free_of_isWaiting (inPlace (Bool.and_eq_true_iff.mp waiting).1) waiting
      obtain ⟨id, step, stands⟩ := runOf_parks ran free active
      have same : r.session.flowId = s.flowId := ran.sameConversation.flowId
      have parked : InPlace c r.session := ⟨f, id, step, by rw [same]; exact onOffer, stands⟩
      exact parked.congr same.symm rfl rfl rfl rfl

theorem catalogue_beyond : Beyond setup fun w => w.catalogue = c where
  still unmoved offered := unmoved.catalogue.trans offered
  elsewhere _ _ _ offered := offered

theorem wasSeen_aside (e : Event) : Aside (wasSeen setup e) := by
  unfold wasSeen
  split
  · exact .onOutside _
  · exact .pure _

theorem deliver_aside (o : Outcome) : Aside (deliver setup o) := by
  unfold deliver
  dsimp only
  split
  · refine .bind (.change fun _ => ?_) fun _ => .pure _
    exact ⟨rfl, rfl, rfl, rfl⟩
  · exact (Aside.onOutside _).bind fun _ => .pure _

section
variable (inProcess : setup.hasDatabase = false)
include inProcess

theorem priorFlows_aside (address : String) (flows : List Flow) : Aside (priorFlows setup address flows) := by
  unfold priorFlows
  refine .bind (.filterM (fun f => ?_) _) fun prior => .pure _
  rw [has_eq inProcess]
  exact .look _

theorem orderly_lasting (distinct : (c.flows.map Flow.id).Nodup) :
    Lasting setup (fun _ => True) (fun _ => True) (OnOffer c) Stored (Orderly c) := by
  rw [show Orderly c = _ from funext fun w => propext orderly_iff]
  exact {
    unmoved := fun unmoved holds => ⟨Housed.still unmoved holds.1, catalogue_beyond.still unmoved holds.2⟩
    stays := Stored.still
    known := fun _ _ => ⟨trivial, trivial⟩
    flow? := fun id => by
      rw [flow?_eq inProcess]
      refine .look fun w holds _ f found => ?_
      rw [holds.2] at found
      exact ⟨found, OnOffer.own found⟩
    active := by
      rw [active_eq inProcess]
      refine .look fun w holds _ f inside => ?_
      rw [holds.2] at inside
      exact find?_of_nodup distinct (List.mem_filter.mp inside).1
    get := fun id _ => get_keeps inProcess id
    create := fun key vars deviceId _ => create_keeps inProcess catalogue_beyond inPlace_lawful key vars deviceId
    swap := swap_keeps inProcess catalogue_beyond inPlace_lawful }

theorem orderly_served (contact : String) (resets : Prop) : Served setup Stored (Orderly c) contact resets := by
  rw [show Orderly c = _ from funext fun w => propext orderly_iff]
  exact {
    find := find_keeps inProcess contact
    abandonAll := abandonAll_keeps inProcess catalogue_beyond inPlace_lawful contact
    reset := fun _ => reset_keeps inProcess catalogue_beyond contact }

theorem orderly_findForFlow (key : SessionKey) : Finds Stored (Orderly c) (Store.findForFlow setup key) := by
  rw [show Orderly c = _ from funext fun w => propext orderly_iff]
  exact findForFlow_keeps inProcess key

end

end Chatflow.Proofs.ConversationOrder
