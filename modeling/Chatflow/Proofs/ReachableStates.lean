import Chatflow.Proofs.ConversationOrder

/-! The states that the store within the process can be brought to. Any calls of the runtime, in any order and
whether they fail or not, leave it with distinct records, and with every active session where it can be taken on. -/

namespace Chatflow.Proofs.ReachableStates
open Conversation RunEndings ParkedSessions SessionTable StoredSessions InProcessStore OrderlySessions
  ConversationOrder LastingInvariants WorkLogic

/-- What can be asked of the runtime. A session may be resumed as of some instant, or else as of the present. -/
inductive Call where
  | event (e : Event)
  | startFlow (flowId address : String) (vars : Fields)
  | continueFlow (address flowId text : String) (replyId : Option String)
  | resume (id : String) (now : Option Instant)
  | reset (address : String)

def Call.perform (setup : Setup) : Call → Work Outcome
  | event e => handleEvent setup e
  | startFlow flowId address vars => Conversation.startFlow setup flowId address vars
  | continueFlow address flowId text replyId => Conversation.continueFlow setup address flowId text replyId
  | resume id (some now) => resumeAsOf setup now id
  | resume id none => Conversation.resume setup id
  | reset address => Conversation.reset setup address

/-- The states that calls lead to from an empty store, with a fixed catalogue and no other writer. Each call may
come with settings and a time of its own, and what is outside, and the lots to be drawn, may change in between. -/
inductive Reachable (c : Catalogue) : World → Prop where
  | empty {w} (table : w.table = {}) (offered : w.catalogue = c) (alone : w.foreign = []) : Reachable c w
  | call {w} (reached : Reachable c w) {setup : Setup} (inProcess : setup.hasDatabase = false) (call : Call) :
      Reachable c (call.perform setup w).2
  | beside {w after} (reached : Reachable c w) (beside : Beside w after) : Reachable c after

theorem Call.keeps {setup : Setup} {c : Catalogue} (inProcess : setup.hasDatabase = false)
    (distinct : (c.flows.map Flow.id).Nodup) (call : Call) : Preserves (Orderly c) (call.perform setup) := by
  have lasting : Lasting setup (fun _ => True) (fun _ => True) (OnOffer c) Stored (Orderly c) :=
    orderly_lasting inProcess distinct
  have served : ∀ contact resets, Served setup Stored (Orderly c) contact resets := orderly_served inProcess
  cases call with
  | event e =>
    exact handleEvent_lasts lasting (fun _ => trivial) ((wasSeen_aside _).preserves Orderly.settled) (served _ _)
  | startFlow flowId address vars => exact lasting.startFlow trivial flowId vars
  | continueFlow address flowId text replyId =>
    exact continueFlow_lasts lasting (orderly_findForFlow inProcess _) text replyId
  | resume id now =>
    cases now with
    | some now => exact lasting.resumeAsOf trivial now
    | none => exact lasting.resume trivial
  | reset address => exact reset_lasts lasting ((served _ True).reset trivial)

theorem Reachable.orderly {c : Catalogue} {w : World} (reachable : Reachable c w)
    (distinct : (c.flows.map Flow.id).Nodup) : Orderly c w := by
  induction reachable with
  | empty table offered alone =>
    refine ⟨offered, alone, ?_, ?_, ?_, ?_⟩
    · rw [table]; exact sound_empty
    all_goals intro s member; simp [table, sessions] at member
  | call _ inProcess call before => exact (call.keeps inProcess distinct _ before trivial).1
  | beside _ beside before => exact Orderly.settled beside before

theorem map_putById {α : Type} {id : α → String} {a : α} {items : List α} {name : String}
    (member : name ∈ (putById id a items).map id) : name = id a ∨ name ∈ items.map id := by
  induction items with
  | nil => exact Or.inl (List.mem_singleton.mp member)
  | cons first rest ih =>
    unfold putById at member
    split at member
    next same => rw [List.map_cons, same]; exact Or.inr (by simpa only [List.map_cons] using member)
    next =>
      rcases List.mem_cons.mp member with rfl | inside
      · exact Or.inr List.mem_cons_self
      · exact (ih inside).imp_right (List.mem_cons_of_mem _)

theorem nodup_putById {α : Type} {id : α → String} {items : List α} (distinct : (items.map id).Nodup) (a : α) :
    ((putById id a items).map id).Nodup := by
  induction items with
  | nil => simp [putById]
  | cons first rest ih =>
    simp only [List.map_cons, List.nodup_cons] at distinct
    unfold putById
    split
    next same => rw [List.map_cons, ← same]; exact List.nodup_cons.mpr distinct
    next apart =>
      refine List.nodup_cons.mpr ⟨fun clash => ?_, ih distinct.2⟩
      rcases map_putById clash with same | inside
      · exact apart same
      · exact distinct.1 inside

/-- A catalogue offers one flow of each id. -/
theorem ofLists_distinct (flows : List Flow) (agents : List Agent) :
    ((Catalogue.ofLists flows agents).flows.map Flow.id).Nodup := by
  have filled : ∀ c : Catalogue, (c.flows.map Flow.id).Nodup →
      ((flows.foldl Catalogue.addFlow c).flows.map Flow.id).Nodup := by
    induction flows with
    | nil => exact fun _ distinct => distinct
    | cons f rest ih => exact fun c distinct => ih _ (nodup_putById distinct f)
  have staffed : ∀ c : Catalogue, (agents.foldl Catalogue.addAgent c).flows = c.flows := by
    induction agents with
    | nil => exact fun _ => rfl
    | cons a rest ih => exact fun c => ih _
  unfold Catalogue.ofLists
  rw [staffed]
  exact filled _ List.nodup_nil

/-- In every state that can be reached, each record is stored under its own key and no two sessions have one id.
Every active session stands at a step of its own flow that is readable and of a kind to park at; it has a time to be
resumed exactly at a wait, which is then to lead on as the flow does, and an AI agent as owner exactly at a step that
gives it to one. -/
theorem reachable_sessions_in_place {flows : List Flow} {agents : List Agent} {w : World}
    (reachable : Reachable (Catalogue.ofLists flows agents) w) :
    Sound w.table ∧ ∀ s ∈ w.table.sessions, s.loose = [] ∧
      (s.isActive = true → InPlace (Catalogue.ofLists flows agents) s) := by
  have orderly := reachable.orderly (ofLists_distinct flows agents)
  exact ⟨orderly.sound, fun s member => ⟨orderly.plain s member, orderly.parked s member⟩⟩

/-- A world with one flow on offer, in which no one has written yet. -/
def untouched (f : Flow) : World := { catalogue := Catalogue.ofLists [f] [] }

theorem handed_session_in_place :
    let w := ((Call.startFlow "care" "+5215512345678" []).perform (aloneAt ⟨5, 0⟩) (untouched handingFlow)).2
    (w.table.sessions.map fun s => (s.isActive, s.currentStep)) = [(true, some "bot")] ∧
    Sound w.table ∧ ∀ s ∈ w.table.sessions, s.loose = [] ∧
      (s.isActive = true → InPlace (Catalogue.ofLists [handingFlow] []) s) := by
  have empty : Reachable (Catalogue.ofLists [handingFlow] []) (untouched handingFlow) := .empty rfl rfl rfl
  refine ⟨?_, reachable_sessions_in_place (.call empty rfl _)⟩
  simp only [Call.perform, startFlow, startFound, withLock, maxChained, start, firstRun, bind_apply,
    runOptions_aloneAt]
  rfl

end Chatflow.Proofs.ReachableStates
