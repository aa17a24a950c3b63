import Chatflow.Conversation.Inbound
import Chatflow.Proofs.AgentTurns
import Chatflow.Proofs.ContactRecords
import Chatflow.Proofs.InProcessStore
import Chatflow.Proofs.ReplyRuns
import Chatflow.Proofs.SentActions

/-! Work that is confined to one contact. It does among the contact's records what it would do if there were no others,
and the others stay as they are. -/

namespace Chatflow.Proofs.ConfinedWork
open Conversation Interpreter SessionTable StepEffects RunEndings AgentTurns ContactRecords InProcessStore ReplyRuns
  SentActions WorkLogic

/-- A world in which a contact's records are the only ones. -/
def alone (contact : String) (w : World) : World := { w with table := only contact w.table }

variable {contact : String} {others : List (SessionKey × Session)} {setup : Setup} {s : Session}

/-- A contact's records are parted from the others, and no id that is going to be given out is one of theirs. -/
structure Apart (contact : String) (others : List (SessionKey × Session)) (w : World) : Prop where
  parted : Parted contact others w.table
  fresh : ∀ row ∈ others, ∀ n, w.nextSession ≤ n → row.2.id ≠ s!"s{n}"

section
variable {α β : Type} {mid : α → Prop} {post : β → Prop}

/-- Work keeps a contact apart from the others, and does the same where the others are missing; what it answers fits
`post`. -/
def Confined (contact : String) (others : List (SessionKey × Session)) (work : Work α) (post : α → Prop) : Prop :=
  ∀ w, Apart contact others w →
    Apart contact others (work w).2 ∧ work (alone contact w) = ((work w).1, alone contact (work w).2) ∧
      ∀ a, (work w).1 = .ok a → post a

namespace Confined

theorem bind {work : Work α} {next : α → Work β} (first : Confined contact others work mid)
    (rest : ∀ a, mid a → Confined contact others (next a) post) : Confined contact others (work >>= next) post := by
  intro w apart
  obtain ⟨after, same, answers⟩ := first w apart
  rw [bind_apply, bind_apply, same]
  rcases done : work w with ⟨_ | a, middle⟩ <;> rw [done] at after answers
  · exact ⟨after, rfl, fun b impossible => by cases impossible⟩
  · exact rest a (answers a rfl) middle after

theorem pure {b : β} (fits : post b) : Confined contact others (Pure.pure b) post := by
  intro w apart
  refine ⟨apart, rfl, fun answer same => ?_⟩
  cases same
  exact fits

theorem fail {fault : Fault} : Confined contact others (Work.fail fault) post := by
  intro w apart
  exact ⟨apart, rfl, fun b impossible => by cases impossible⟩

theorem look {f : World → β} (same : ∀ w, Apart contact others w → f (alone contact w) = f w)
    (fits : ∀ w, Apart contact others w → post (f w)) : Confined contact others (Work.look f) post := by
  intro w apart
  refine ⟨apart, ?_, fun answer done => ?_⟩
  · simp only [Work.look, same w apart]
  · cases done
    exact fits w apart

theorem lookAny {f : World → β} (same : ∀ w, Apart contact others w → f (alone contact w) = f w) :
    Confined contact others (Work.look f) fun _ => True :=
  look same fun _ _ => trivial

theorem onTable {act : SessionTable → β × SessionTable}
    (made : MadeWithin contact others fun t => (act t).2)
    (same : ∀ t, Parted contact others t → (act (only contact t)).1 = (act t).1) :
    Confined contact others (fun w => (.ok (act w.table).1, { w with table := (act w.table).2 })) fun _ => True := by
  intro w apart
  obtain ⟨parted, within⟩ := made w.table apart.parted
  refine ⟨⟨parted, apart.fresh⟩, ?_, fun _ _ => trivial⟩
  have answer := same w.table apart.parted
  simp only [alone, answer, within]

theorem changeTable {change : SessionTable → SessionTable} (made : MadeWithin contact others change) :
    Confined contact others (Work.change fun w => { w with table := change w.table }) fun _ => True :=
  @onTable contact others Unit (fun t => ((), change t)) made fun _ _ => rfl

/-- Work that neither looks at the sessions nor changes them, nor gives out ids. -/
theorem unseen {work : Work β}
    (blind : ∀ w t, work { w with table := t } = ((work w).1, { (work w).2 with table := t }))
    (kept : ∀ w, (work w).2.table = w.table ∧ (work w).2.nextSession = w.nextSession)
    (fits : ∀ w b, (work w).1 = .ok b → post b) : Confined contact others work post := by
  intro w apart
  obtain ⟨table, ids⟩ := kept w
  refine ⟨⟨?_, ?_⟩, ?_, fits w⟩
  · rw [table]
    exact apart.parted
  · rw [ids]
    exact apart.fresh
  · rw [alone, blind, alone, table]

theorem check {e : Except Fault β} : Confined contact others (Work.check e) fun _ => True :=
  unseen (fun _ _ => rfl) (fun _ => ⟨rfl, rfl⟩) fun _ _ _ => trivial

theorem onOutside {work : StateM Outside β} : Confined contact others (Work.onOutside work) fun _ => True :=
  unseen (fun _ _ => rfl) (fun _ => ⟨rfl, rfl⟩) fun _ _ _ => trivial

theorem tryOutside {work : StateM Outside (Except Fault β)}
    (fits : ∀ outside b after, work outside = (.ok b, after) → post b) :
    Confined contact others (Work.tryOutside work) post :=
  unseen (fun _ _ => rfl) (fun _ => ⟨rfl, rfl⟩) fun w b done => fits w.outside b _ (Prod.ext done rfl)

theorem running {run : List Float → Except Fault β × List Float} :
    Confined contact others (running run) fun b => ∃ rolls rest, run rolls = (.ok b, rest) :=
  unseen (fun _ _ => rfl) (fun _ => ⟨rfl, rfl⟩) fun _ _ ran => running_ok ran

theorem attempt {work : Work β} (confined : Confined contact others work post) :
    Confined contact others work.attempt fun result => ∀ b, result = .ok b → post b := by
  intro w apart
  obtain ⟨after, same, answers⟩ := confined w apart
  refine ⟨after, ?_, fun result done b ok => ?_⟩
  · simp only [Work.attempt, same]
    rfl
  · cases done
    exact answers b ok

theorem finally' {work : Work β} {last : Work Unit} (confined : Confined contact others work post)
    (ending : Confined contact others last fun _ => True) : Confined contact others (work.finally' last) post := by
  intro w apart
  obtain ⟨after, same, answers⟩ := confined w apart
  obtain ⟨final, ends, _⟩ := ending (work w).2 after
  refine ⟨final, ?_, answers⟩
  simp only [Work.finally', same, ends]
  rfl

theorem filterM {test : α → Work Bool} (confined : ∀ a, Confined contact others (test a) fun _ => True)
    (items : List α) : Confined contact others (items.filterM test) fun _ => True := by
  have kept : ∀ items taken, Confined contact others (List.filterAuxM test items taken) fun _ => True := by
    intro items
    induction items with
    | nil => exact fun taken => pure trivial
    | cons a rest ih => exact fun taken => (confined a).bind fun _ _ => ih _
  exact (kept items []).bind fun taken _ => pure trivial

end Confined

end

section
variable (inProcess : setup.hasDatabase = false)
include inProcess

theorem find_confined :
    Confined contact others (Store.find setup contact) fun found => ∀ s, found = some s → Belongs contact others s := by
  rw [find_eq inProcess]
  exact .look (fun w _ => only_find? contact w.table) fun w apart _ found => apart.parted.find?_belongs found

theorem findForFlow_confined (flowId : String) :
    Confined contact others (Store.findForFlow setup ⟨contact, flowId⟩) fun found =>
      ∀ s, found = some s → Belongs contact others s := by
  rw [findForFlow_eq inProcess]
  refine .look (fun w _ => only_findForFlow? rfl w.table) fun w apart s found => ?_
  exact apart.parted.findForFlow?_belongs rfl found

theorem get_confined {id : String} (apart : ∀ row ∈ others, row.2.id ≠ id) :
    Confined contact others (Store.get setup id) fun found => ∀ s, found = some s → Belongs contact others s := by
  rw [get_eq inProcess]
  exact .look (fun w within => within.parted.only_get? apart) fun w within _ => within.parted.get?_belongs apart

theorem has_confined (flowId : String) :
    Confined contact others (Store.has setup ⟨contact, flowId⟩) fun _ => True := by
  rw [has_eq inProcess]
  exact .look (fun w _ => @only_has contact ⟨contact, flowId⟩ rfl w.table) fun _ _ => trivial

theorem flow?_confined (id : String) : Confined contact others (Offer.flow? setup id) fun _ => True := by
  rw [flow?_eq inProcess]
  exact .look (fun _ _ => rfl) fun _ _ => trivial

/-- A new session belongs to the contact, since its id was never given out to anyone else. -/
theorem create_confined (flowId : String) (vars : Fields) (deviceId : Option String) :
    Confined contact others (Store.create setup ⟨contact, flowId⟩ vars deviceId) (Belongs contact others) := by
  intro w apart
  have later : ∀ row ∈ others, ∀ n, w.nextSession + 1 ≤ n → row.2.id ≠ s!"s{n}" :=
    fun row member n given => apart.fresh row member n (Nat.le_of_succ_le given)
  rw [create_apply inProcess, create_apply inProcess]
  cases setup.utcNow with
  | error fault => exact ⟨⟨apart.parted, later⟩, rfl, fun s impossible => by cases impossible⟩
  | ok now =>
    have belongs : Belongs contact others (newSession s!"s{w.nextSession}" now ⟨contact, flowId⟩ vars deviceId) :=
      ⟨rfl, fun row member => apart.fresh row member w.nextSession (Nat.le_refl _)⟩
    obtain ⟨parted, within⟩ := put_madeWithin belongs w.table apart.parted
    refine ⟨⟨parted, later⟩, ?_, fun s same => ?_⟩
    · simp only [alone] at within ⊢
      rw [within]
    · cases same
      exact belongs

omit inProcess in
theorem interfere_confined {id : String} (apart : ∀ row ∈ others, row.2.id ≠ id) :
    Confined contact others (Store.interfere setup id) fun _ => True := by
  unfold Store.interfere
  refine (Confined.lookAny fun _ _ => rfl).bind fun write _ => ?_
  refine (Confined.unseen (fun _ _ => rfl) (fun _ => ⟨rfl, rfl⟩) fun _ _ _ => trivial :
    Confined contact others _ fun _ => True).bind fun _ _ => ?_
  cases write with
  | none => exact .pure trivial
  | some write =>
    refine Confined.check.bind fun now _ => ?_
    exact .changeTable (foreignWrite_madeWithin write now apart)

/-- A swap of a session of the contact meets no other's. -/
theorem swap_confined {id : String} (apart : ∀ row ∈ others, row.2.id ≠ id) (expected : Option String) (c : Change) :
    Confined contact others (Store.swap setup id expected c) fun _ => True := by
  simp only [Store.swap, inProcess, Bool.false_eq_true, if_false]
  refine (interfere_confined apart).bind fun _ _ => ?_
  refine (Confined.lookAny fun w within => within.parted.only_standsAt? apart expected).bind fun stands _ => ?_
  split
  · exact .pure trivial
  · refine Confined.check.bind fun now _ => ?_
    exact .onTable (swap_madeWithin apart now expected c) fun t parted => parted.swap_answer apart now expected c

theorem abandonAll_confined : Confined contact others (Store.abandonAll setup contact) fun _ => True := by
  simp only [Store.abandonAll, inProcess, Bool.false_eq_true, if_false]
  refine (Confined.lookAny fun w _ => any_isOpenRow contact w.table).bind fun any _ => ?_
  split
  · refine Confined.check.bind fun now _ => ?_
    exact .onTable (abandonAll_madeWithin now) fun t _ => abandonAll_count contact now t
  · exact .pure trivial

theorem reset_confined : Confined contact others (Store.reset setup contact) fun _ => True := by
  simp only [Store.reset, inProcess, Bool.false_eq_true, if_false]
  exact .onTable reset_madeWithin fun t _ => reset_count contact t

/-- All actions go to the contact. -/
def Addressed (contact : String) (actions : List Action) : Prop :=
  ∀ a ∈ actions, a.envelope.recipient = contact

omit inProcess in
theorem addressed_nil : Addressed contact [] := fun a impossible => by cases impossible

omit inProcess in
theorem Addressed.append {actions more : List Action} (first : Addressed contact actions)
    (last : Addressed contact more) : Addressed contact (actions ++ more) :=
  fun a member => (List.mem_append.mp member).elim (first a) (last a)

omit inProcess in
theorem addressed_textFor (belongs : Belongs contact others s) (text : String) :
    Addressed contact [textFor s text] := by
  intro a member
  rw [List.mem_singleton.mp member]
  exact belongs.address

theorem commit_confined (belongs : Belongs contact others s) {r : RunResult} (same : SameConversation s r.session) :
    Confined contact others (commit setup s r) fun _ => True := by
  have apart : ∀ row ∈ others, row.2.id ≠ r.session.id := by
    rw [same.id]
    exact belongs.apart
  exact swap_confined inProcess apart _ _

theorem firstRun_confined (f : Flow) (vars : Fields) (deviceId firstStep : Option String) :
    Confined contact others (firstRun setup contact f vars deviceId firstStep) fun made =>
      Addressed contact made.2.actions := by
  unfold firstRun
  refine (create_confined inProcess f.id vars deviceId).bind fun s belongs => ?_
  refine Confined.check.bind fun options _ => Confined.check.bind fun now _ => ?_
  refine Confined.running.bind fun r ⟨rolls, rest, ran⟩ => ?_
  refine (commit_confined inProcess belongs (run_sameConversation ran)).bind fun accepted _ => ?_
  cases accepted with
  | false => exact .fail
  | true => exact .pure fun a member => (run_recipients ran a member).trans belongs.address

theorem chainedFlow?_confined (r : RunResult) : Confined contact others (chainedFlow? setup r) fun _ => True := by
  unfold chainedFlow?
  split
  · exact (flow?_confined inProcess _).bind fun _ _ => .pure trivial
  · exact .pure trivial

theorem start_confined (left : Nat) (f : Flow) (vars : Fields) (deviceId firstStep : Option String) :
    Confined contact others (start setup contact left f vars deviceId firstStep) fun o =>
      Addressed contact o.actions := by
  induction left generalizing f vars deviceId firstStep with
  | zero =>
    unfold start
    exact (firstRun_confined inProcess f vars deviceId firstStep).bind fun made addressed => .pure addressed
  | succ left ih =>
    unfold start
    refine (firstRun_confined inProcess f vars deviceId firstStep).bind fun made addressed => ?_
    refine (chainedFlow?_confined inProcess _).bind fun next _ => ?_
    cases next with
    | none => exact .pure addressed
    | some next => exact (ih next _ none none).bind fun o more => .pure (addressed.append more)

theorem follow_confined (r : RunResult) {o : Outcome} (addressed : Addressed contact o.actions) :
    Confined contact others (follow setup contact r o) fun o => Addressed contact o.actions := by
  unfold follow
  refine (chainedFlow?_confined inProcess _).bind fun next _ => ?_
  cases next with
  | none => exact .pure addressed
  | some next => exact (start_confined inProcess _ next _ none none).bind fun o more => .pure (addressed.append more)

theorem ownerOf_confined (s : Session) : Confined contact others (ownerOf setup s) fun _ => True := by
  unfold ownerOf
  split
  · rw [agent?_eq inProcess]
    exact .lookAny fun _ _ => rfl
  · exact .pure trivial

theorem continueWithAgent_confined (belongs : Belongs contact others s) (e : Event) :
    Confined contact others (continueWithAgent setup s e) fun o => Addressed contact o.actions := by
  unfold continueWithAgent
  refine (ownerOf_confined inProcess s).bind fun agent _ => ?_
  have handled : Confined contact others
      (continueWithAgent.handle (Delegate.handleTurn setup s agent (.str e.answer))) fun turn => turn.2.id = s.id := by
    refine .tryOutside fun outside ⟨turn, updated⟩ after took => ?_
    rcases handleTurn_session took with ⟨_, rfl⟩ | ⟨_, taken⟩
    · rfl
    · exact taken.id
  refine handled.bind fun ⟨turn, updated⟩ id => ?_
  have reply : Addressed contact (if turn.reply = "" then [] else [textFor s turn.reply]) := by
    split
    · exact addressed_nil
    · exact addressed_textFor belongs _
  have apart : ∀ row ∈ others, row.2.id ≠ updated.id := by
    rw [id]
    exact belongs.apart
  dsimp only
  split
  · exact (swap_confined inProcess apart _ _).bind fun _ _ => .pure reply
  · exact .pure reply

omit inProcess in
theorem runReply_confined (f : Flow) (s : Session) (e : Event) :
    Confined contact others (runReply setup f s e) fun found => ∀ r, found = some r →
      SameConversation s r.session ∧ Addressed s.address r.actions := by
  unfold runReply
  refine Confined.check.bind fun resolution _ => ?_
  split
  · exact .pure fun r impossible => by cases impossible
  · refine Confined.check.bind fun options _ => Confined.check.bind fun now _ => ?_
    refine Confined.running.bind fun r ⟨rolls, rest, ran⟩ => .pure fun other same => ?_
    cases same
    have conversation := run_sameConversation ran
    exact ⟨⟨conversation.id, conversation.address, conversation.flowId, conversation.deviceId,
      conversation.createdAt, conversation.loose⟩, fun a member => run_recipients ran a member⟩

theorem tryReply_confined (f : Flow) (belongs : Belongs contact others s) (e : Event) :
    Confined contact others (tryReply setup f s e) fun found => ∀ o, found = some o → Addressed contact o.actions := by
  unfold tryReply
  refine (runReply_confined f s e).bind fun found fits => ?_
  cases found with
  | none =>
    refine .pure fun o same => ?_
    cases same
    exact addressed_textFor belongs _
  | some r =>
    obtain ⟨same, sent⟩ := fits r rfl
    rw [belongs.address] at sent ⊢
    refine (commit_confined inProcess belongs same).bind fun accepted _ => ?_
    cases accepted with
    | false => exact .pure fun o impossible => by cases impossible
    | true =>
      refine (follow_confined inProcess r sent).bind fun o addressed => .pure fun other same => ?_
      cases same
      exact addressed

theorem continueSession_confined (e : Event) (left : Nat) (belongs : Belongs contact others s) :
    Confined contact others (continueSession setup e left s) fun o => Addressed contact o.actions := by
  induction left generalizing s with
  | zero => exact .fail
  | succ left ih =>
    unfold continueSession
    refine (flow?_confined inProcess s.flowId).bind fun found _ => ?_
    cases found with
    | none => exact (swap_confined inProcess belongs.apart _ _).bind fun _ _ => .pure addressed_nil
    | some f =>
      dsimp only
      split
      · exact continueWithAgent_confined inProcess belongs e
      · split
        · exact .pure addressed_nil
        · refine (tryReply_confined inProcess f belongs e).bind fun found addressed => ?_
          cases found with
          | some o => exact .pure (addressed o rfl)
          | none =>
            refine (get_confined inProcess belongs.apart).bind fun read known => ?_
            cases kept : read.filter Session.isActive with
            | none => exact .pure addressed_nil
            | some current => exact ih (known current (Option.filter_eq_some_iff.mp kept).1)

theorem priorFlows_confined (flows : List Flow) :
    Confined contact others (priorFlows setup contact flows) fun _ => True := by
  unfold priorFlows
  refine .bind (.filterM (fun f => ?_) _) fun prior _ => .pure trivial
  exact has_confined inProcess f.id

theorem startAll_confined (e : Event) (here : e.address = contact) (triggered : List (Flow × String)) {o : Outcome}
    (addressed : Addressed contact o.actions) :
    Confined contact others (startAll setup e triggered o) fun o => Addressed contact o.actions := by
  induction triggered generalizing o with
  | nil => exact .pure addressed
  | cons entry rest ih =>
    unfold startAll
    rw [here]
    exact (start_confined inProcess _ _ _ _ _).bind fun started more => ih (addressed.append more)

theorem trigger_confined (e : Event) (here : e.address = contact) (flows : List Flow) :
    Confined contact others (trigger setup e flows) fun o => Addressed contact o.actions := by
  unfold trigger
  rw [here]
  refine (priorFlows_confined inProcess flows).bind fun prior _ => ?_
  dsimp only
  split
  · exact .pure addressed_nil
  · exact startAll_confined inProcess e here _ addressed_nil

theorem resetFor_confined (e : Event) (here : e.address = contact) :
    Confined contact others (resetFor setup e) fun o => Addressed contact o.actions := by
  unfold resetFor
  rw [here]
  refine (reset_confined inProcess).bind fun _ _ => .pure fun a member => ?_
  rw [List.mem_singleton.mp member]

theorem handleLocked_confined (e : Event) (here : e.address = contact) :
    Confined contact others (handleLocked setup e) fun o => Addressed contact o.actions := by
  unfold handleLocked
  split
  · exact resetFor_confined inProcess e here
  · rw [active_eq inProcess, here]
    refine (Confined.lookAny fun _ _ => rfl).bind fun flows _ => ?_
    split
    · refine (find_confined inProcess).bind fun found known => ?_
      split
      next s kept =>
        split
        · exact (abandonAll_confined inProcess).bind fun _ _ => trigger_confined inProcess e here flows
        · exact continueSession_confined inProcess e _ (known s (Option.filter_eq_some_iff.mp kept).1)
      next => exact trigger_confined inProcess e here flows
    · exact trigger_confined inProcess e here flows

end

end Chatflow.Proofs.ConfinedWork
