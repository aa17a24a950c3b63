import Chatflow.Proofs.CompletionRequests
import Chatflow.Proofs.EventPaths

/-! Conversations with an AI agent, from the step that hands them over to their end. The agent takes a turn for each message
that the conversation is taken up with; turns on which it has nothing to say do not count, and the others do. -/

namespace Chatflow.Proofs.AgentConversations
open Conversation Delegate SessionTable StoredSessions InProcessStore WorkLogic OrderlySessions AgentTurns EventPaths
  ResumedWaits CallCourses CompletionRequests ConversationOrder ReachableStates

variable {setup : Setup} {s updated : Session} {a : Agent} {e : Event} {w v after : World} {text : String}

/-! What an agent says. -/

theorem cut?_isSome {part cs : List Char} : (Handoff.cut? part cs).isSome = true ↔ part <:+: cs := by
  induction cs with
  | nil =>
    unfold Handoff.cut?
    cases part <;> simp
  | cons c rest ih =>
    unfold Handoff.cut?
    rw [List.infix_cons_iff, ← List.isPrefixOf_iff_prefix, ← ih]
    split
    next begins => simp [begins]
    next other => simp [other]

/-- A completion in which the marker stands hands the conversation over to a human. -/
def HandsOver (text : String) : Prop := Handoff.marker.toList <:+: text.toList

theorem split_payload (text : String) : (Handoff.split text).2.isSome = true ↔ HandsOver text := by
  rw [HandsOver, ← cut?_isSome]
  unfold Handoff.split
  cases Handoff.cut? Handoff.marker.toList text.toList <;> simp

instance (text : String) : Decidable (HandsOver text) := decidable_of_iff _ (split_payload text)

/-- Whether a turn is the last one: the agent hands the conversation over, or has taken as many turns as it may. -/
def IsLast (most turns : Int) (text : String) : Prop := HandsOver text ∨ most ≤ turns + 1

instance (most turns : Int) (text : String) : Decidable (IsLast most turns text) := inferInstanceAs (Decidable (_ ∨ _))

/-- What an agent says to a message, if it is asked and a provider answers. -/
def saying? (setup : Setup) (s : Session) (a : Agent) (message : Value) (o : Outside) : Option String :=
  match storedHistory s.vars with
  | .error _ => none
  | .ok entries =>
    (Completion.complete setup a s.id message (.list (lastTurns setup.historyWindow entries))
      (decide (a.maxTurns ≤ s.aiTurns + 1)) o).1.toOption

theorem saying?_of_asks {agent : Option Agent} {message : Value} {history : List Value} {o answered : Outside}
    (asks : Asks setup s agent message o a history (.ok text) answered) : saying? setup s a message o = some text := by
  simp only [saying?, asks.stored, asks.completes, Except.toOption]

/-- A turn that counts is one on which an agent that is active said something. -/
theorem handleTurn_says {agent : Option Agent} {message : Value} {turn : Delegate.Outcome} {o rest : Outside}
    (took : handleTurn setup s agent message o = (.ok (turn, updated), rest)) (counts : turn.failed = false) :
    ∃ a text, agent = some a ∧ a.isActive = true ∧ saying? setup s a message o = some text ∧
      turn.ended = decide (IsLast a.maxTurns s.aiTurns text) := by
  cases handleTurn_brings took with
  | unavailable | unanswered => cases counts
  | goesOn asks silent left =>
    rw [← Bool.not_eq_true, split_payload] at silent
    exact ⟨_, _, asks.available, asks.active, saying?_of_asks asks, (decide_eq_false (not_or.mpr ⟨silent, left⟩)).symm⟩
  | ends asks last =>
    rw [split_payload] at last
    exact ⟨_, _, asks.available, asks.active, saying?_of_asks asks, (decide_eq_true last).symm⟩

/-! A turn, and what it leaves behind. -/

/-- The agent that owns a conversation, if it is on offer. -/
def owner? (c : Catalogue) (s : Session) : Option Agent := (s.assignee.bind fun a => filled? a.id).bind c.agent?

/-- Whether an answer tells of a turn that counts. -/
def Counts (answer : Except Fault Outcome) : Prop :=
  ∃ o, answer = .ok o ∧ (o.status = .aiReply ∨ o.status = .aiHandoff)

/-- What becomes of a conversation when its agent is to take a turn: the turn counts and is saved, or nothing happens. -/
inductive Turned (setup : Setup) (s : Session) (e : Event) (v : World) : Except Fault Outcome × World → Prop where
  | counts {a : Agent} {text : String} {updated : Session} {now : Instant} {answer : Except Fault Outcome} {after : World}
      (owner : owner? v.catalogue s = some a) (active : a.isActive = true)
      (said : saying? setup s a (.str e.answer) v.outside = some text)
      (taken : Taken s (decide (IsLast a.maxTurns s.aiTurns text)) updated) (counted : Counts answer)
      (saved : Beside { v with table := v.table.put ((turnChange updated).apply now s) } after) :
      Turned setup s e v (answer, after)
  | fails {answer : Except Fault Outcome} {after : World} (uncounted : ¬ Counts answer) (still : Beside v after) :
      Turned setup s e v (answer, after)

theorem not_counts_error (fault : Fault) : ¬ Counts (.error fault) := fun ⟨_, impossible, _⟩ => by cases impossible

theorem not_counts {o : Outcome} (reply : o.status ≠ .aiReply) (handoff : o.status ≠ .aiHandoff) : ¬ Counts (.ok o) := by
  rintro ⟨_, same, status⟩
  cases same
  exact status.elim reply handoff

theorem turnStatus_counts {turn : Delegate.Outcome} (replied : turn.failed = false) (ids : List String)
    (actions : List Action) : Counts (.ok ⟨turnStatus turn, ids, actions⟩) := by
  refine ⟨_, rfl, ?_⟩
  simp only [turnStatus, replied, Bool.false_eq_true, if_false]
  cases turn.ended with
  | true => exact Or.inr rfl
  | false => exact Or.inl rfl

section
variable (inProcess : setup.hasDatabase = false)
include inProcess

theorem ownerOf_apply (s : Session) (w : World) : ownerOf setup s w = (.ok (owner? w.catalogue s), w) := by
  unfold ownerOf owner?
  cases s.assignee.bind fun a => filled? a.id with
  | none => rfl
  | some id =>
    dsimp only
    rw [agent?_eq inProcess]
    rfl

/-- A turn is saved in place of the session as it was read, since no one can have come in between. -/
theorem continueWithAgent_turned (alone : v.foreign = []) (stored : v.table.get? s.id = some s) (e : Event) :
    Turned setup s e v (continueWithAgent setup s e v) := by
  unfold continueWithAgent
  rw [bind_apply, ownerOf_apply inProcess]
  dsimp only
  rw [bind_apply]
  simp only [continueWithAgent.handle, Work.tryOutside, ExceptT.run]
  rcases took : handleTurn setup s (owner? v.catalogue s) (.str e.answer) v.outside with ⟨fault | ⟨turn, updated⟩, rest⟩
  · exact .fails (not_counts_error fault) ⟨rfl, rfl, rfl, rfl⟩
  · dsimp only
    cases failed : turn.failed with
    | true =>
      refine .fails (not_counts ?_ ?_) ⟨rfl, rfl, rfl, rfl⟩ <;>
        simp [turnStatus, failed]
    | false =>
      have taken := ((handleTurn_session took).resolve_left fun impossible => by
        rw [failed] at impossible
        cases impossible.1).2
      obtain ⟨a, text, owner, active, said, ended⟩ := handleTurn_says took failed
      rw [ended] at taken
      simp only [Bool.not_false, if_true, taken.id]
      rw [bind_apply, swap_apply inProcess, interfere_alone (by exact alone)]
      have stands : v.table.standsAt? s.id s.currentStep = some s := by
        simp only [standsAt?, stored, Option.filter_some, beq_self_eq_true, if_true]
      simp only [stands]
      cases setup.utcNow with
      | error fault => exact .fails (not_counts_error fault) ⟨rfl, rfl, rfl, rfl⟩
      | ok now => exact .counts owner active said taken (turnStatus_counts failed _ _) ⟨rfl, rfl, rfl, rfl⟩

/-- With its flow on offer, a conversation that belongs to an agent is the agent's to continue. -/
theorem continueFrom_turned (alone : v.foreign = []) (stored : v.table.get? s.id = some s) (assigned : s.isAiAssigned = true)
    (offered : (v.catalogue.flow? s.flowId).isSome = true) (e : Event) :
    Turned setup s e v (continueFrom setup s e v) := by
  unfold continueFrom
  cases setup.settings.swapAttempts.toNat with
  | zero => exact .fails (not_counts_error _) (.refl v)
  | succ left =>
    obtain ⟨f, found⟩ := Option.isSome_iff_exists.mp offered
    unfold continueSession
    rw [flow?_eq inProcess, bind_apply]
    simp only [Work.look, found, assigned, if_true]
    exact continueWithAgent_turned inProcess alone stored e

end

/-- What is done after a turn changes nothing about it, as long as it leaves the sessions alone and tells the answer. -/
theorem Turned.beside {done ended : Except Fault Outcome × World} (turned : Turned setup s e v done)
    (same : ∀ o, done.1 = .ok o → ended.1 = .ok o) (failed : ∀ fault, done.1 = .error fault → ¬ Counts ended.1)
    (beside : Beside done.2 ended.2) : Turned setup s e v ended := by
  cases turned with
  | counts owner active said taken counted saved =>
    obtain ⟨o, rfl, status⟩ := counted
    exact .counts owner active said taken ⟨o, same o rfl, status⟩ (saved.trans beside)
  | @fails answer after uncounted still =>
    refine .fails (fun counted => ?_) (still.trans beside)
    cases answer with
    | error fault => exact failed fault rfl counted
    | ok o =>
      rw [same o rfl] at counted
      exact uncounted counted

/-- To give the lock back and to send the reply changes nothing about a turn. -/
theorem Turned.underLock {address : String} {work : Work Outcome}
    (turned : Turned setup s e v (work (held setup address w))) :
    Turned setup s e v ((withLock setup address work >>= fun o => deliver setup o) w) := by
  obtain ⟨unlocked, _, locked⟩ := withLock_apply setup address work w
  rw [bind_apply, locked]
  rcases worked : work (held setup address w) with ⟨fault | o, inner⟩ <;> rw [worked] at turned
  · exact turned.beside (fun _ same => same) (fun _ _ => not_counts_error fault) ⟨rfl, rfl, rfl, rfl⟩
  · have returned : Beside inner { inner with outside := unlocked } := ⟨rfl, rfl, rfl, rfl⟩
    refine turned.beside (fun other same => ?_) (fun _ impossible => by cases impossible)
      (returned.trans (deliver_aside o _))
    cases same
    exact deliver_ok o _

/-- A call takes a conversation up, with a message that neither resets it nor begins another one, or because it is asked
to. Told are the session as it is stored, what is said to it, and the world once the contact's lock is held. -/
inductive TakenUp (setup : Setup) (w : World) : Session → Event → World → Except Fault Outcome × World → Prop where
  | message {raw e : Event} {v : World} {s : Session} (admitted : Admitted setup raw w e v) (kind : e.kind = .message)
      (plain : isReset e.text = false) (found : v.table.find? e.address = some s)
      (other : TriggerMatch.isKeyword e.text v.catalogue.active = false) :
      TakenUp setup w s e v (handleEvent setup raw w)
  | request {address flowId : String} {e : Event} {s : Session}
      (found : w.table.findForFlow? ⟨address, flowId⟩ = some s) (active : s.isActive = true) :
      TakenUp setup w s e (held setup address w) (continueFound setup address (.str flowId) (.ok e) w)

namespace TakenUp

variable {ended : Except Fault Outcome × World}

theorem active (takenUp : TakenUp setup w s e v ended) : s.isActive = true := by
  cases takenUp with
  | message _ _ _ found _ => exact find?_active found
  | request _ active => exact active

theorem beside (takenUp : TakenUp setup w s e v ended) : Beside w v := by
  cases takenUp with
  | message admitted => exact admitted.beside
  | request => exact ⟨rfl, rfl, rfl, rfl⟩

theorem stored (takenUp : TakenUp setup w s e v ended) (sound : Sound w.table) : w.table.get? s.id = some s := by
  cases takenUp with
  | message admitted _ _ found _ =>
    rw [admitted.beside.table] at found
    exact sound.get?_of_mem (find?_mem found)
  | request found _ => exact sound.get?_of_mem (findForFlow?_mem found)

theorem turned (inProcess : setup.hasDatabase = false) (takenUp : TakenUp setup w s e v ended) (solitary : Solitary w)
    (assigned : s.isAiAssigned = true) (offered : (v.catalogue.flow? s.flowId).isSome = true) :
    Turned setup s e v ended := by
  have beside := takenUp.beside
  have stored := takenUp.stored solitary.sound
  rw [← beside.table] at stored
  have turned := continueFrom_turned inProcess (Solitary.settled beside solitary).alone stored assigned offered e
  have active := takenUp.active
  cases takenUp with
  | @message raw e v s admitted kind plain found other =>
    have worked : handleLocked setup e v = continueFrom setup s e v := by
      unfold handleLocked
      simp only [kind, plain, Bool.and_false, Bool.false_eq_true, if_false, if_true, bind_apply, active_eq inProcess,
        find_eq inProcess, Work.look, found, Option.filter_some, active, other]
    obtain ⟨answered, left⟩ := admitted.handleEvent
    rw [worked] at answered left
    refine turned.beside (fun o same => by rw [answered, same]; rfl) (fun fault same => ?_) left
    rw [answered, same, concluded]
    split
    · exact not_counts (by decide) (by decide)
    · exact not_counts_error fault
  | @request address flowId e s found _ =>
    unfold continueFound
    refine .underLock ?_
    have known : (held setup address w).table.findForFlow? ⟨address, flowId⟩ = some s := found
    rw [bind_apply]
    simp only [Store.findForFlowGiven, Store.lookUpKey, findForFlow_eq inProcess, Work.look, known, Option.filter_some,
      active, if_true]
    exact turned

end TakenUp

/-- To continue a flow takes up the contact's conversation in it, or asks for nothing. -/
theorem continueFlow_asks (inProcess : setup.hasDatabase = false) (address flowId text : String) (replyId : Option String)
    (w : World) :
    (continueFlow setup address flowId text replyId w).2.outside.inquiries = w.outside.inquiries ∨
      ∃ s e v, TakenUp setup w s e v (continueFlow setup address flowId text replyId w) := by
  unfold continueFlow
  cases found : (w.table.findForFlow? ⟨Phone.normalize address, flowId⟩).filter Session.isActive with
  | some s =>
    obtain ⟨known, active⟩ := Option.filter_eq_some_iff.mp found
    exact Or.inr ⟨s, _, _, .request known active⟩
  | none =>
    have missing : ((held setup (Phone.normalize address) w).table.findForFlow?
      ⟨Phone.normalize address, flowId⟩).filter Session.isActive = none := found
    refine Or.inl (delivered_inquiries ?_)
    rw [bind_apply]
    simp only [Store.findForFlowGiven, Store.lookUpKey, findForFlow_eq inProcess, Work.look, missing]
    rfl

/-- A call that asks providers for completions takes a conversation up. -/
theorem call_asks (inProcess : setup.hasDatabase = false) (call : Call) (w : World) :
    (call.perform setup w).2.outside.inquiries = w.outside.inquiries ∨
      ∃ s e v, TakenUp setup w s e v (call.perform setup w) := by
  cases call with
  | event raw =>
    rcases handleEvent_asks inProcess raw w with still | ⟨e, v, admitted, kind, plain, ⟨s, found⟩, other⟩
    · exact Or.inl still
    · exact Or.inr ⟨s, e, v, .message admitted kind plain found other⟩
  | startFlow flowId address vars => exact Or.inl (startFlow_unasking inProcess flowId address vars w)
  | continueFlow address flowId text replyId => exact continueFlow_asks inProcess address flowId text replyId w
  | resume id now =>
    cases now with
    | some now => exact Or.inl (resumeAsOf_unasking inProcess now id w)
    | none => exact Or.inl (((Unasking.check _).bind fun now => resumeAsOf_unasking inProcess now id) w)
  | reset address => exact Or.inl (reset_unasking inProcess address w)

/-! Whole conversations. -/

/-- A session that is completed, belongs to nobody and is parked nowhere. -/
structure IsOver (s : Session) : Prop where
  completed : s.status = .completed
  unparked : s.currentStep = none
  unassigned : s.assignee = none

theorem IsOver.inactive (ended : IsOver s) : s.isActive = false := by
  simp [Session.isActive, ended.completed]

/-- What is stored after a turn that counted. -/
theorem saved_turn {last : Bool} (taken : Taken s last updated) (assigned : s.isAiAssigned = true) (now : Instant) :
    ((turnChange updated).apply now s).aiTurns = s.aiTurns + 1 ∧
      if last then IsOver ((turnChange updated).apply now s)
      else ((turnChange updated).apply now s).isAiAssigned = true := by
  cases taken with
  | goesOn => exact ⟨rfl, assigned⟩
  | ends => exact ⟨rfl, rfl, rfl, rfl⟩

/-- What an agent says concludes a conversation if the last of it is said on a last turn. -/
def Concluded (most : Int) (texts : List String) : Prop :=
  ∃ earlier text, texts = earlier ++ [text] ∧ IsLast most earlier.length text

theorem not_concluded_nil (most : Int) : ¬ Concluded most [] := by
  rintro ⟨earlier, text, impossible, _⟩
  exact List.append_ne_nil_of_right_ne_nil earlier (List.cons_ne_nil text []) impossible.symm

theorem concluded_append {most : Int} {texts : List String} :
    Concluded most (texts ++ [text]) ↔ IsLast most texts.length text := by
  refine ⟨?_, fun last => ⟨texts, text, rfl, last⟩⟩
  rintro ⟨earlier, other, same, last⟩
  obtain ⟨rfl, one⟩ := List.append_inj' same rfl
  cases one
  exact last

/-- A conversation that may go on has turns left. -/
theorem turns_left {most : Int} {texts : List String} (positive : 1 ≤ most) (open' : ¬ Concluded most texts) :
    (texts.length : Int) < most := by
  rcases List.eq_nil_or_concat texts with rfl | ⟨earlier, text, rfl⟩
  · exact positive
  · rw [List.concat_eq_append, concluded_append, IsLast, not_or] at open'
    rw [List.concat_eq_append, List.length_append, List.length_singleton]
    omega

/-- The conversation was handed over to an agent, and none of its turns is counted yet. -/
structure Handed (id : String) (w : World) : Prop where
  solitary : Solitary w
  session : ∃ s, w.table.get? id = some s ∧ s.isAiAssigned = true ∧ s.aiTurns = 0

/-- A run that ends by handing over has handed its conversation over once it is saved. -/
theorem handed_of_saved {f : Flow} {now moment : Instant} {steps : List Step} {r : Interpreter.RunResult}
    (solitary : Solitary w) (stored : w.table.get? s.id = some s) (hands : RunEndings.Ending.handed.Fits f now steps r) :
    Handed s.id { w with table := w.table.put ((savedChange r.session).apply moment s) } := by
  obtain ⟨step, c, agent, parked, _, _, _, _, owner, _, fresh⟩ := hands
  have kept := solitary.changed (get?_mem stored) (savedChange r.session) moment
  refine ⟨kept, (savedChange r.session).apply moment s, kept.sound.get?_put, ?_, fresh⟩
  simp [Session.isAiAssigned, Session.isActive, Change.apply, savedChange, parked.active, parked.place, owner]

/-- What a conversation needs so that it can be taken up: its flow is on offer. The agent, if it is on offer and active, may
take so many turns. -/
structure Offers (most : Int) (s : Session) (w : World) : Prop where
  flow : (w.catalogue.flow? s.flowId).isSome = true
  agent : ∀ a, owner? w.catalogue s = some a → a.isActive = true → a.maxTurns = most

/-- A conversation from the world in which it was handed over, told by what the agent said on the turns that counted. It is
taken up with messages, each with settings and a time of its own; what other calls and writers do in between does not
concern it. -/
inductive Talk (most : Int) (id : String) (start : World) : List String → World → Prop where
  | handed : Talk most id start [] start
  | took {texts : List String} {w v after : World} {setup : Setup} {s : Session} {e : Event} {a : Agent} {text : String}
      {answer : Except Fault Outcome} (talk : Talk most id start texts w) (inProcess : setup.hasDatabase = false)
      (takenUp : TakenUp setup w s e v (answer, after)) (ours : s.id = id) (offers : Offers most s v)
      (counted : Counts answer) (owner : owner? v.catalogue s = some a)
      (said : saying? setup s a (.str e.answer) v.outside = some text) : Talk most id start (texts ++ [text]) after
  | failed {texts : List String} {w v after : World} {setup : Setup} {s : Session} {e : Event}
      {answer : Except Fault Outcome} (talk : Talk most id start texts w) (inProcess : setup.hasDatabase = false)
      (takenUp : TakenUp setup w s e v (answer, after)) (ours : s.id = id) (offers : Offers most s v)
      (uncounted : ¬ Counts answer) : Talk most id start texts after
  | meanwhile {texts : List String} {w after : World} (talk : Talk most id start texts w)
      (untouched : after.table.get? id = w.table.get? id) (solitary : Solitary after) : Talk most id start texts after

/-- The stored session is what was said makes of it. -/
structure Stands (most : Int) (id : String) (texts : List String) (w : World) : Prop where
  solitary : Solitary w
  first : ∀ earlier, earlier <+: texts → earlier ≠ texts → ¬ Concluded most earlier
  session : ∃ s, w.table.get? id = some s ∧ s.aiTurns = texts.length ∧
    (Concluded most texts → IsOver s) ∧ (¬ Concluded most texts → s.isAiAssigned = true)

variable {most : Int} {id : String} {texts : List String} {answer : Except Fault Outcome} {start : World}

theorem Handed.stands (handed : Handed id w) : Stands most id [] w := by
  obtain ⟨s, stored, assigned, fresh⟩ := handed.session
  refine ⟨handed.solitary, fun earlier front proper => absurd (List.prefix_nil.mp front) proper, s, stored, fresh, ?_, ?_⟩
  · exact fun concluded => absurd concluded (not_concluded_nil most)
  · exact fun _ => assigned

/-- Who takes the conversation up finds that it is not over. -/
theorem Stands.taken_up (stands : Stands most id texts w) {ended : Except Fault Outcome × World}
    (takenUp : TakenUp setup w s e v ended) (ours : s.id = id) :
    ¬ Concluded most texts ∧ s.isAiAssigned = true ∧ s.aiTurns = texts.length := by
  obtain ⟨stored, found, turns, closed, goesOn⟩ := stands.session
  have same := takenUp.stored stands.solitary.sound
  rw [ours, found] at same
  obtain rfl := Option.some.inj same
  have going : ¬ Concluded most texts := fun concluded => by
    have inactive := (closed concluded).inactive
    rw [takenUp.active] at inactive
    cases inactive
  exact ⟨going, goesOn going, turns⟩

theorem Stands.turned (stands : Stands most id texts w) (inProcess : setup.hasDatabase = false)
    {ended : Except Fault Outcome × World} (takenUp : TakenUp setup w s e v ended) (ours : s.id = id)
    (offers : Offers most s v) : Turned setup s e v ended :=
  takenUp.turned inProcess stands.solitary (stands.taken_up takenUp ours).2.1 offers.flow

/-- A turn that fails leaves the stored sessions as they are. -/
theorem Stands.failed (stands : Stands most id texts w) (inProcess : setup.hasDatabase = false)
    (takenUp : TakenUp setup w s e v (answer, after)) (ours : s.id = id) (offers : Offers most s v)
    (uncounted : ¬ Counts answer) : after.table = w.table ∧ Stands most id texts after := by
  cases stands.turned inProcess takenUp ours offers with
  | counts _ _ _ _ counted => exact absurd counted uncounted
  | fails _ still =>
    have beside := takenUp.beside.trans still
    refine ⟨beside.table, Solitary.settled beside stands.solitary, stands.first, ?_⟩
    rw [beside.table]
    exact stands.session

/-- A turn that counts is stored, and the last one ends the conversation. -/
theorem Stands.took (stands : Stands most id texts w) (inProcess : setup.hasDatabase = false)
    (takenUp : TakenUp setup w s e v (answer, after)) (ours : s.id = id) (offers : Offers most s v)
    (counted : Counts answer) (owner : owner? v.catalogue s = some a)
    (said : saying? setup s a (.str e.answer) v.outside = some text) : Stands most id (texts ++ [text]) after := by
  obtain ⟨going, assigned, turns⟩ := stands.taken_up takenUp ours
  cases stands.turned inProcess takenUp ours offers with
  | fails uncounted => exact absurd counted uncounted
  | @counts b words updated now _ _ known active spoken taken _ saved =>
    cases owner.symm.trans known
    cases said.symm.trans spoken
    rw [offers.agent a owner active, turns] at taken
    obtain ⟨count, left⟩ := saved_turn taken assigned now
    have entered := Solitary.settled takenUp.beside stands.solitary
    have stored := takenUp.stored stands.solitary.sound
    rw [← takenUp.beside.table] at stored
    have kept := entered.changed (get?_mem stored) (turnChange updated) now
    refine ⟨Solitary.settled saved kept, fun earlier front proper => ?_, (turnChange updated).apply now s, ?_, ?_, ?_⟩
    · rcases List.prefix_concat_iff.mp front with whole | front
      · exact absurd whole proper
      · by_cases same : earlier = texts
        · rw [same]
          exact going
        · exact stands.first earlier front same
    · rw [saved.table, ← ours]
      exact kept.sound.get?_put
    · rw [count, turns, List.length_append, List.length_singleton]
      rfl
    · rw [concluded_append]
      by_cases last : IsLast most texts.length text
      · rw [if_pos (decide_eq_true last)] at left
        exact ⟨fun _ => left, fun other => absurd last other⟩
      · rw [decide_eq_false last, if_neg Bool.false_ne_true] at left
        exact ⟨fun other => absurd other last, fun _ => left⟩

theorem Talk.stands (handed : Handed id start) (talk : Talk most id start texts w) : Stands most id texts w := by
  induction talk with
  | handed => exact handed.stands
  | took _ inProcess takenUp ours offers counted owner said stands =>
    exact stands.took inProcess takenUp ours offers counted owner said
  | failed _ inProcess takenUp ours offers uncounted stands =>
    exact (stands.failed inProcess takenUp ours offers uncounted).2
  | meanwhile _ untouched solitary stands =>
    refine ⟨solitary, stands.first, ?_⟩
    rw [untouched]
    exact stands.session

/-- An agent takes no more turns than it may. The stored session counts the turns on which it said something. It is over
exactly after the first of them that hands over or is the last one it may take, and then no call takes it up any more, so that
whatever providers are still asked is asked for another one. Turns that fail leave everything that is stored as it is. -/
theorem agent_turns_are_bounded (positive : 1 ≤ most) (handed : Handed id start) (talk : Talk most id start texts w) :
    (∃ s, w.table.get? id = some s ∧ s.aiTurns = texts.length ∧ (texts.length : Int) ≤ most ∧
      (Concluded most texts → IsOver s) ∧ (¬ Concluded most texts → s.isActive = true ∧ s.aiTurns < most)) ∧
      (∀ earlier, earlier <+: texts → earlier ≠ texts → ¬ Concluded most earlier) ∧
      ∀ setup, setup.hasDatabase = false →
        (∀ s e v answer after, TakenUp setup w s e v (answer, after) → s.id = id →
          ¬ Concluded most texts ∧ (Offers most s v → ¬ Counts answer → after.table = w.table)) ∧
        ∀ call : Call, (call.perform setup w).2.outside.inquiries = w.outside.inquiries ∨
          ∃ s e v, TakenUp setup w s e v (call.perform setup w) ∧ (Concluded most texts → s.id ≠ id) := by
  have stands := talk.stands handed
  obtain ⟨s, stored, turns, ended, goesOn⟩ := stands.session
  refine ⟨⟨s, stored, turns, ?_, ended, fun going => ?_⟩, stands.first, fun setup inProcess => ⟨?_, fun call => ?_⟩⟩
  · rcases List.eq_nil_or_concat texts with rfl | ⟨earlier, text, rfl⟩
    · exact Int.le_trans (by decide) positive
    · have before := stands.first earlier (by simp) (by simp)
      have left := turns_left positive before
      rw [List.concat_eq_append, List.length_append, List.length_singleton]
      omega
  · rw [turns]
    exact ⟨(Bool.and_eq_true_iff.mp (goesOn going)).1, turns_left positive going⟩
  · intro s e v answer after takenUp ours
    refine ⟨(stands.taken_up takenUp ours).1, fun offers uncounted => ?_⟩
    exact (stands.failed inProcess takenUp ours offers uncounted).1
  · rcases call_asks inProcess call w with still | ⟨s, e, v, takenUp⟩
    · exact Or.inl still
    · exact Or.inr ⟨s, e, v, takenUp, fun concluded ours => (stands.taken_up takenUp ours).1 concluded⟩

/-- A contact whose conversation was handed over to an agent that may take one turn. -/
def cared : Session :=
  { RunEndings.newcomer RunEndings.handingFlow with currentStep := some "bot", assignee := some ⟨.ai, some "ana"⟩ }

def ana : Agent := { id := "ana", name := "Ana", maxTurns := 1 }

def ward : World :=
  { table := ⟨[(cared.key, cared)]⟩, catalogue := Catalogue.ofLists [RunEndings.handingFlow] [ana], nextSession := 2,
    outside := { geminiAnswers := [.text "Hola"] } }

def answering : Setup := { aloneAt ⟨5, 0⟩ with hasGemini := true }

def call : Event := { address := "+5215512345678", text := "Buenas" }

theorem ward_handed : Handed "s1" ward := ⟨solitary_of_first cared rfl rfl rfl rfl, cared, rfl, rfl, rfl⟩

theorem ward_talk : Talk 1 "s1" ward ["Hola"] (handleEvent answering call ward).2 := by
  have named : Phone.normalize call.address = call.address := by decide +kernel
  have admitted : Admitted answering call ward call (held answering call.address ward) :=
    ⟨by rw [named], by decide, ward, rfl, rfl⟩
  have takenUp : TakenUp answering ward cared call _ (handleEvent answering call ward) :=
    .message admitted rfl (by decide +kernel) rfl (by decide +kernel)
  have limit : ∀ a, owner? (held answering call.address ward).catalogue cared = some a → a.isActive = true →
      a.maxTurns = 1 := by
    intro a owner _
    cases (show owner? (held answering call.address ward).catalogue cared = some ana from rfl).symm.trans owner
    rfl
  have handedOver : (handleEvent answering call ward).1.toOption.map Outcome.status = some .aiHandoff := by decide +kernel
  rcases answered : handleEvent answering call ward with ⟨fault | o, after⟩ <;> rw [answered] at handedOver takenUp
  · cases handedOver
  · refine .took .handed rfl takenUp rfl ⟨rfl, limit⟩ ⟨o, rfl, Or.inr (Option.some.inj handedOver)⟩ (rfl : _ = some ana) ?_
    decide +kernel

theorem ward_talk_is_bounded :
    (1 ≤ (1 : Int) ∧ Handed "s1" ward ∧ Talk 1 "s1" ward ["Hola"] (handleEvent answering call ward).2) ∧
      ∃ s, (handleEvent answering call ward).2.table.get? "s1" = some s ∧ s.aiTurns = 1 ∧ IsOver s := by
  obtain ⟨⟨s, stored, turns, _, ended, _⟩, _⟩ := agent_turns_are_bounded (by decide) ward_handed ward_talk
  exact ⟨⟨by decide, ward_handed, ward_talk⟩, s, stored, turns, ended ⟨[], "Hola", rfl, Or.inr (by decide)⟩⟩

end Chatflow.Proofs.AgentConversations
