import Chatflow.Proofs.ConfinedWork
import Chatflow.Proofs.ReachableStates

/-! Contacts are kept apart. Whatever is asked of the runtime for one contact is done among the records of this contact:
it neither changes the records of others, nor writes to them, nor depends on them. -/

namespace Chatflow.Proofs.ContactIsolation
open Conversation SessionTable RunEndings StoredSessions ContactRecords ConfinedWork InProcessStore ReachableStates
  WorkLogic

variable {contact : String} {others : List (SessionKey × Session)} {setup : Setup} {w : World}

/-- Records are told apart by their ids, and no id that is going to be given out is one of theirs. -/
structure Distinct (w : World) : Prop where
  sound : Sound w.table
  given : ∀ s ∈ w.table.sessions, ∀ n, w.nextSession ≤ n → s.id ≠ s!"s{n}"

theorem Distinct.apart (distinct : Distinct w) (contact : String) : Apart contact (beyond contact w.table) w := by
  refine ⟨parted_of_sound distinct.sound contact, fun row member => ?_⟩
  exact distinct.given row.2 (mem_sessions.mpr ⟨row, (List.mem_filter.mp member).1, rfl⟩)

/-- Whom a call is made for: the contact of the address that it comes with, or of the session that is to be resumed. -/
def IsFor (contact : String) (t : SessionTable) : Call → Prop
  | .event e => Phone.normalize e.address = contact
  | .startFlow _ address _ | .continueFlow address .. | .reset address => Phone.normalize address = contact
  | .resume id _ => ∃ s, t.get? id = some s ∧ s.address = contact

section
variable {α : Type}

theorem withLock_confined {address : String} {work : Work α} {post : α → Prop}
    (confined : Confined contact others work post) : Confined contact others (withLock setup address work) post := by
  unfold withLock
  exact Confined.onOutside.bind fun hold _ => confined.finally' .onOutside

theorem deliver_confined {o : Outcome} (addressed : Addressed contact o.actions) :
    Confined contact others (deliver setup o) fun o => Addressed contact o.actions := by
  unfold deliver
  dsimp only
  split
  · exact (Confined.unseen (fun _ _ => rfl) (fun _ => ⟨rfl, rfl⟩) fun _ _ _ => trivial :
      Confined contact others _ fun _ => True).bind fun _ _ => .pure addressed
  · exact Confined.onOutside.bind fun _ _ => .pure addressed

theorem wasSeen_confined (e : Event) : Confined contact others (wasSeen setup e) fun _ => True := by
  unfold wasSeen
  split
  · exact .onOutside
  · exact .pure trivial

end

section
variable (inProcess : setup.hasDatabase = false)
include inProcess

theorem handleEvent_confined (e : Event) (here : Phone.normalize e.address = contact) :
    Confined contact others (handleEvent setup e) fun o => Addressed contact o.actions := by
  unfold handleEvent handleFor
  rw [here]
  dsimp only
  split
  · exact .pure addressed_nil
  · refine (wasSeen_confined _).bind fun seen _ => ?_
    split
    · exact .pure addressed_nil
    · have locked : Confined contact others
          (withLock setup contact (handleLocked setup { e with address := contact })) fun o =>
            Addressed contact o.actions := withLock_confined (handleLocked_confined inProcess _ rfl)
      refine locked.attempt.bind fun result addressed => ?_
      cases result with
      | ok o => exact deliver_confined (addressed o rfl)
      | error fault =>
        dsimp only
        split
        · exact Confined.onOutside.bind fun _ _ => .pure addressed_nil
        · exact .fail

theorem startFlow_confined (flowId address : String) (vars : Fields) (here : Phone.normalize address = contact) :
    Confined contact others (startFlow setup flowId address vars) fun o => Addressed contact o.actions := by
  unfold startFlow startFound
  rw [here]
  refine (flow?_confined inProcess flowId).bind fun found _ => ?_
  cases found with
  | none => exact .fail
  | some f =>
    refine (withLock_confined ?_).bind fun o addressed => deliver_confined addressed
    exact start_confined inProcess maxChained f _ none none

theorem continueFlow_confined (address flowId text : String) (replyId : Option String)
    (here : Phone.normalize address = contact) :
    Confined contact others (continueFlow setup address flowId text replyId) fun o => Addressed contact o.actions := by
  unfold continueFlow continueFound
  rw [here]
  refine (withLock_confined ?_).bind fun o addressed => deliver_confined addressed
  refine (findForFlow_confined inProcess flowId).bind fun found known => ?_
  cases kept : found.filter Session.isActive with
  | none => exact .fail
  | some s =>
    have belongs := known s (Option.filter_eq_some_iff.mp kept).1
    exact Confined.check.bind fun e _ => continueSession_confined inProcess e _ belongs

theorem waitingIn?_confined (s : Session) : Confined contact others (waitingIn? setup s) fun _ => True := by
  unfold waitingIn?
  refine (flow?_confined inProcess s.flowId).bind fun found _ => ?_
  cases found <;> exact .pure trivial

theorem resumeLocked_confined (now : Instant) {id : String} (apart : ∀ row ∈ others, row.2.id ≠ id) :
    Confined contact others (resumeLocked setup now id) fun o => Addressed contact o.actions := by
  unfold resumeLocked
  refine (get_confined inProcess apart).bind fun read known => ?_
  cases read with
  | none => exact .pure addressed_nil
  | some s =>
    have belongs := known s rfl
    refine (waitingIn?_confined inProcess s).bind fun waits _ => ?_
    split
    · split
      · exact .pure addressed_nil
      · refine Confined.check.bind fun options _ => Confined.running.bind fun r ⟨rolls, rest, ran⟩ => ?_
        have sent : Addressed contact r.actions := by
          rw [← belongs.address]
          exact fun a member => SentActions.run_recipients ran a member
        refine (commit_confined inProcess belongs (run_sameConversation ran)).bind fun accepted _ => ?_
        rw [belongs.address]
        split
        · exact follow_confined inProcess r sent
        · exact .pure addressed_nil
    · exact .pure addressed_nil

theorem resumeAsOf_confined (now : Instant) {id : String} (apart : ∀ row ∈ others, row.2.id ≠ id) :
    Confined contact others (resumeAsOf setup now id) fun o => Addressed contact o.actions := by
  unfold resumeAsOf resumeFound
  refine (get_confined inProcess apart).bind fun read _ => ?_
  cases read with
  | none => exact .pure addressed_nil
  | some s =>
    refine (withLock_confined (resumeLocked_confined inProcess now apart)).bind fun o addressed => ?_
    exact deliver_confined addressed

theorem resume_confined {id : String} (now : Option Instant) (apart : ∀ row ∈ others, row.2.id ≠ id) :
    Confined contact others ((Call.resume id now).perform setup) fun o => Addressed contact o.actions := by
  cases now with
  | some now => exact resumeAsOf_confined inProcess now apart
  | none => exact Confined.check.bind fun now _ => resumeAsOf_confined inProcess now apart

theorem reset_confined (address : String) (here : Phone.normalize address = contact) :
    Confined contact others (Conversation.reset setup address) fun o => Addressed contact o.actions := by
  unfold Conversation.reset
  rw [here]
  exact withLock_confined ((ConfinedWork.reset_confined inProcess).bind fun _ _ => .pure addressed_nil)

theorem call_confined (distinct : Distinct w) {call : Call} (isFor : IsFor contact w.table call) :
    Confined contact (beyond contact w.table) (call.perform setup) fun o => Addressed contact o.actions := by
  cases call with
  | event e => exact handleEvent_confined inProcess e isFor
  | startFlow flowId address vars => exact startFlow_confined inProcess flowId address vars isFor
  | continueFlow address flowId text replyId =>
    exact continueFlow_confined inProcess address flowId text replyId isFor
  | resume id now =>
    obtain ⟨s, found, here⟩ := isFor
    refine resume_confined inProcess now fun row member => ?_
    obtain ⟨own, stored, rfl⟩ := mem_sessions.mp (get?_mem found)
    have key : own.1.address = contact := by
      rw [distinct.sound.own own stored]
      exact here
    have belongs := (distinct.apart contact).parted.own own (mem_rowsOf.mpr ⟨stored, key⟩)
    rw [← get?_id found]
    exact belongs.apart row member
  | reset address => exact reset_confined inProcess address isFor

end

/-- Whoever else there is, a call is made for the same contact. -/
theorem isFor_of_alone {w' : World} (distinct : Distinct w) (distinct' : Distinct w')
    (same : alone contact w' = alone contact w) {call : Call} (isFor : IsFor contact w.table call) :
    IsFor contact w'.table call := by
  cases call with
  | event | startFlow | continueFlow | reset => exact isFor
  | resume id now =>
    obtain ⟨s, found, here⟩ := isFor
    obtain ⟨row, stored, rfl⟩ := mem_sessions.mp (get?_mem found)
    have key : row.1.address = contact := by
      rw [distinct.sound.own row stored]
      exact here
    have rows : w'.table.rowsOf contact = w.table.rowsOf contact := congrArg (fun w => w.table.rows) same
    have inside : row ∈ w'.table.rowsOf contact := by
      rw [rows]
      exact mem_rowsOf.mpr ⟨stored, key⟩
    have member : row.2 ∈ w'.table.sessions := mem_sessions.mpr ⟨row, (mem_rowsOf.mp inside).1, rfl⟩
    refine ⟨row.2, ?_, here⟩
    rw [← get?_id found]
    exact distinct'.sound.get?_of_mem member

/-- A call for a contact leaves the records of all others as they are, and writes to nobody else. In a world that
differs in the records of others only, it comes to the same answer, and to the same records of the contact. -/
theorem call_keeps_to_its_contact (inProcess : setup.hasDatabase = false) (distinct : Distinct w) {call : Call}
    (isFor : IsFor contact w.table call) :
    beyond contact (call.perform setup w).2.table = beyond contact w.table ∧
    (∀ o, (call.perform setup w).1 = .ok o → ∀ a ∈ o.actions, a.envelope.recipient = contact) ∧
    ∀ w', Distinct w' → alone contact w' = alone contact w →
      (call.perform setup w').1 = (call.perform setup w).1 ∧
      alone contact (call.perform setup w').2 = alone contact (call.perform setup w).2 := by
  obtain ⟨after, here, answers⟩ := call_confined inProcess distinct isFor w (distinct.apart contact)
  refine ⟨after.parted.beyond, answers, fun w' distinct' same => ?_⟩
  have isFor' := isFor_of_alone distinct distinct' same isFor
  obtain ⟨_, there, _⟩ := call_confined inProcess distinct' isFor' w' (distinct'.apart contact)
  rw [same, here] at there
  exact ⟨(congrArg Prod.fst there).symm, (congrArg Prod.snd there).symm⟩

/-- A world in which someone has begun a conversation. -/
def visited (f : Flow) : World :=
  { untouched f with
    nextSession := 2
    table := ({} : SessionTable).put (newcomer f) }

theorem visited_distinct (f : Flow) : Distinct (visited f) := by
  have only : ∀ s ∈ (visited f).table.sessions, s = newcomer f := fun s member => by
    rcases mem_put member with same | former
    · exact same
    · cases former
  refine ⟨sound_empty.put fun other member => ?_, fun s member n later same => ?_⟩
  · cases member
  · rw [only s member] at same
    have first : 1 = n := OrderlySessions.idOf_injective same
    rw [← first] at later
    exact absurd later (by decide : ¬ 2 ≤ 1)

theorem newcomer_left_alone :
    let call := Call.startFlow "care" "+5215587654321" []
    let done := call.perform (aloneAt ⟨5, 0⟩) (visited handingFlow)
    let elsewhere := call.perform (aloneAt ⟨5, 0⟩) { untouched handingFlow with nextSession := 2 }
    (done.2.table.sessions.map Session.id = ["s1", "s2"]) ∧
    beyond "+5215587654321" done.2.table = beyond "+5215587654321" (visited handingFlow).table ∧
    (∀ o, done.1 = .ok o → ∀ a ∈ o.actions, a.envelope.recipient = "+5215587654321") ∧
    elsewhere.1 = done.1 ∧ alone "+5215587654321" elsewhere.2 = alone "+5215587654321" done.2 := by
  have isFor : IsFor "+5215587654321" (visited handingFlow).table (.startFlow "care" "+5215587654321" []) := rfl
  have empty : Distinct { untouched handingFlow with nextSession := 2 } :=
    ⟨sound_empty, fun s member => by cases member⟩
  obtain ⟨kept, sent, anywhere⟩ := @call_keeps_to_its_contact _ (aloneAt ⟨5, 0⟩) _ rfl
    (visited_distinct handingFlow) _ isFor
  refine ⟨?_, kept, sent, anywhere _ empty rfl⟩
  simp only [Call.perform, startFlow, startFound, withLock, maxChained, start, firstRun, bind_apply,
    runOptions_aloneAt]
  rfl

end Chatflow.Proofs.ContactIsolation
