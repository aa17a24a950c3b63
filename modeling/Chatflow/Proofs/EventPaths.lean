import Chatflow.Proofs.ResumedWaits

/-! The paths of events. An event is let in unless its delivery was seen before. Then it resets its contact, takes a
conversation on, or comes to the flows that it triggers, and these are started one after another. -/

namespace Chatflow.Proofs.EventPaths
open Conversation Interpreter RunEndings SessionTable StoredSessions InProcessStore WorkLogic ReplyRuns CallCourses
  OrderlySessions ConversationOrder StoreInvariants ResumedWaits

variable {setup : Setup} {raw e : Event} {w v u after : World} {flows : List Flow} {o : Outcome} {fault : Fault}

/-- If work comes to an answer, the answer fits. -/
abbrev Yields {α : Type} (fits : α → Prop) (work : Work α) : Prop :=
  Keeps (fun _ => True) (fun _ => True) work fun a _ => fits a

theorem anyway {α : Type} {work : Work α} : Yields (fun _ => True) work := fun _ _ _ => ⟨trivial, fun _ _ => trivial⟩

theorem Yields.of_ok {α : Type} {fits : α → Prop} {work : Work α} (yields : Yields fits work) {a : α}
    (done : work w = (.ok a, after)) : fits a :=
  (yields w trivial trivial).2 a (congrArg Prod.fst done)

theorem Yields.andThen {α β : Type} {fits : α → Prop} {last : β → Prop} {work : Work α} {next : α → Work β}
    (first : Yields fits work) (rest : ∀ a, fits a → Yields last (next a)) : Yields last (work >>= next) :=
  first.bind fun a => .given (fun _ _ holds => ⟨holds, trivial⟩) (rest a)

theorem tryReply_yields (f : Flow) (s : Session) (e : Event) :
    Yields (fun found => ∀ o, found = some o → o.status ≠ .started) (tryReply setup f s e) := by
  unfold tryReply
  refine anyway.bind fun found => ?_
  cases found with
  | none =>
    refine .pure fun w _ _ o same => ?_
    cases same
    exact OutcomeStatus.noConfusion
  | some r =>
    refine anyway.bind fun accepted => ?_
    have goesOn : Yields (fun o : Outcome => o.status = .continued)
        (follow setup s.address r ⟨.continued, [s.id], r.actions⟩) :=
      fun w _ _ => ⟨trivial, fun o done => follow_status (Prod.ext done rfl)⟩
    cases accepted with
    | false => exact .pure fun w _ _ o same => by cases same
    | true =>
      refine goesOn.bind fun last => .pure fun w _ status o same => ?_
      cases same
      rw [status]
      exact OutcomeStatus.noConfusion

theorem continueWithAgent_yields (s : Session) (e : Event) :
    Yields (fun o => o.status ≠ .started) (continueWithAgent setup s e) := by
  have turned : ∀ turn, turnStatus turn ≠ .started := by
    intro turn
    unfold turnStatus
    split
    · decide
    · split <;> decide
  unfold continueWithAgent
  refine anyway.bind fun agent => anyway.bind fun took => ?_
  dsimp only
  split
  · exact anyway.bind fun _ => .pure fun _ _ _ => turned took.1
  · exact .pure fun _ _ _ => turned took.1

/-- To take a conversation on is not to start one. -/
theorem continueSession_yields (e : Event) (left : Nat) (s : Session) :
    Yields (fun o => o.status ≠ .started) (continueSession setup e left s) := by
  induction left generalizing s with
  | zero => exact .fail
  | succ left ih =>
    unfold continueSession
    refine anyway.bind fun found => ?_
    cases found with
    | none => exact anyway.bind fun _ => .pure fun _ _ _ => OutcomeStatus.noConfusion
    | some f =>
      dsimp only
      split
      · exact continueWithAgent_yields s e
      · split
        · exact .pure fun _ _ _ => OutcomeStatus.noConfusion
        · refine (tryReply_yields f s e).bind fun outcome => ?_
          cases outcome with
          | some o => exact .pure fun _ _ other => other o rfl
          | none =>
            refine .requiring (fun _ _ _ => trivial) (anyway.bind fun read => ?_)
            cases read.filter Session.isActive with
            | none => exact .pure fun _ _ _ => OutcomeStatus.noConfusion
            | some current => exact ih current

theorem start_yields (address : String) (left : Nat) (f : Flow) (vars : Fields) (deviceId firstStep : Option String) :
    Yields (fun o => o.sessionIds ≠ []) (start setup address left f vars deviceId firstStep) := by
  cases left with
  | zero => exact anyway.bind fun first => .pure fun _ _ _ => List.cons_ne_nil _ _
  | succ left =>
    refine anyway.bind fun first => anyway.bind fun next => ?_
    cases next with
    | none => exact .pure fun _ _ _ => List.cons_ne_nil _ _
    | some next => exact anyway.bind fun _ => .pure fun _ _ _ => List.cons_ne_nil _ _

/-- Flows that are started one after another keep the status of the outcome, and each adds a session to it. -/
theorem startAll_yields (e : Event) (triggered : List (Flow × String)) (o : Outcome) :
    Yields (fun last => last.status = o.status ∧ (o.sessionIds ≠ [] ∨ triggered ≠ [] → last.sessionIds ≠ []))
      (startAll setup e triggered o) := by
  induction triggered generalizing o with
  | nil => exact .pure fun _ _ _ => ⟨rfl, fun either => either.resolve_right fun none => none rfl⟩
  | cons entry rest ih =>
    refine Keeps.bind (start_yields _ _ _ _ _ _) fun started => ?_
    refine .given (fun _ _ made => ⟨made, trivial⟩) fun made => (ih (o.extend started)).weaken (fun _ _ _ => trivial) ?_
    intro last _ _ ⟨status, ids⟩
    exact ⟨status, fun _ => ids (Or.inl (List.append_ne_nil_of_right_ne_nil _ made))⟩

/-- Where starting flows fails, those before some flow were started, and then that one could not be. -/
theorem startAll_failed {triggered : List (Flow × String)}
    (failed : startAll setup e triggered o w = (.error fault, after)) :
    ∃ before f step rest last u, triggered = before ++ (f, step) :: rest ∧ startAll setup e before o w = (.ok last, u) ∧
      start setup e.address maxChained f (initialVariables e.address (some e) []) e.deviceId (some step) u =
        (.error fault, after) := by
  induction triggered generalizing o w with
  | nil => cases failed
  | cons entry triggered ih =>
    rcases bind_failed failed with first | ⟨started, middle, begun, later⟩
    · exact ⟨[], entry.1, entry.2, triggered, o, w, rfl, rfl, first⟩
    · obtain ⟨before, f, step, rest, last, u, split, reached, broken⟩ := ih later
      refine ⟨entry :: before, f, step, rest, last, u, by rw [split, List.cons_append], ?_, broken⟩
      rw [startAll, bind_apply, begun]
      exact reached

theorem startAll_append {before : List (Flow × String)} {first last : Outcome} (rest : List (Flow × String))
    (reached : startAll setup e before first w = (.ok last, u)) :
    startAll setup e (before ++ rest) first w = startAll setup e rest last u := by
  induction before generalizing first w with
  | nil =>
    cases reached
    rfl
  | cons entry before ih =>
    obtain ⟨started, middle, begun, goesOn⟩ := bind_ok reached
    refine Eq.trans ?_ (ih goesOn)
    rw [List.cons_append, startAll, bind_apply, begun]

/-- The flows that an event triggers for a contact who has been in some flows before. -/
def triggeredBy (setup : Setup) (e : Event) (flows : List Flow) (prior : List String) : List (Flow × String) :=
  TriggerMatch.matching e flows prior.contains setup.settings.enforceDeviceScope
    (if e.kind = .thirdParty then e.triggerId else none)

theorem mem_triggeredBy {prior : List String} {f : Flow} {step : String} :
    (f, step) ∈ triggeredBy setup e flows prior ↔ f ∈ flows ∧
      TriggerMatch.starts e setup.settings.enforceDeviceScope (if e.kind = .thirdParty then e.triggerId else none)
        prior.contains f = true ∧ f.startStep?.map Step.id = some step := by
  simp only [triggeredBy, TriggerMatch.matching, List.mem_filterMap, List.mem_filter]
  constructor
  · rintro ⟨other, ⟨offered, allowed⟩, begins⟩
    obtain ⟨first, found, same⟩ := Option.map_eq_some_iff.mp begins
    cases same
    exact ⟨offered, allowed, by rw [found]; rfl⟩
  · rintro ⟨offered, allowed, begins⟩
    obtain ⟨first, found, rfl⟩ := Option.map_eq_some_iff.mp begins
    exact ⟨f, ⟨offered, allowed⟩, by rw [found]; rfl⟩

/-- Each flow on offer is triggered once at most. -/
theorem triggeredBy_nodup (distinct : (flows.map Flow.id).Nodup) (prior : List String) :
    ((triggeredBy setup e flows prior).map fun entry => entry.1.id).Nodup := by
  refine distinct.sublist ?_
  have started : ∀ taken : List Flow,
      ((taken.filterMap fun f => f.startStep?.map fun s => (f, s.id)).map fun entry => entry.1.id).Sublist
        (taken.map Flow.id) := by
    intro taken
    induction taken with
    | nil => exact .slnil
    | cons f rest ih =>
      cases begins : f.startStep? with
      | none => simpa [begins] using ih.cons f.id
      | some step => simpa [begins] using ih.cons_cons f.id
  exact (started _).trans (List.filter_sublist.map _)

theorem trigger_apply {prior : List String} (known : priorFlows setup e.address flows w = (.ok prior, u)) :
    trigger setup e flows w = match triggeredBy setup e flows prior with
      | [] => (.ok ⟨.noMatch, [], []⟩, u)
      | triggered => startAll setup e triggered nothingYet u := by
  unfold trigger
  rw [bind_apply, known]
  change (match triggeredBy setup e flows prior with
    | [] => pure ⟨.noMatch, [], []⟩
    | triggered => startAll setup e triggered nothingYet : Work Outcome) u = _
  cases triggeredBy setup e flows prior <;> rfl

/-- A message interrupts: its contact takes part in a conversation, it names a keyword of the flows on offer, and the
conversations of the contact were ended for it. -/
inductive Interrupts (setup : Setup) (e : Event) (w : World) (flows : List Flow) (u : World) : Prop where
  | intro {v x s n} (kind : e.kind = .message) (plain : isReset e.text = false)
      (offered : Offer.active setup w = (.ok flows, v)) (searched : Store.find setup e.address v = (.ok (some s), x))
      (active : s.isActive = true) (keyword : TriggerMatch.isKeyword e.text flows = true)
      (ended : Store.abandonAll setup e.address x = (.ok n, u))

theorem Interrupts.kind (interrupts : Interrupts setup e w flows u) : e.kind = .message := by
  obtain ⟨kind, _, _, _, _, _, _⟩ := interrupts
  exact kind

theorem Interrupts.keyword (interrupts : Interrupts setup e w flows u) : TriggerMatch.isKeyword e.text flows = true := by
  obtain ⟨_, _, _, _, _, keyword, _⟩ := interrupts
  exact keyword

/-- The work on an event comes to the flows that it triggers, among those on offer: the event is no message, or a message
whose contact takes part in no conversation, or one that interrupts. -/
inductive Sought (setup : Setup) (e : Event) (w : World) (flows : List Flow) (u : World) : Prop where
  | other (kind : e.kind ≠ .message) (offered : Offer.active setup w = (.ok flows, u))
  | idle {v found} (kind : e.kind = .message) (plain : isReset e.text = false)
      (offered : Offer.active setup w = (.ok flows, v)) (searched : Store.find setup e.address v = (.ok found, u))
      (absent : found.filter Session.isActive = none)
  | restart (interrupts : Interrupts setup e w flows u)

/-- What an event comes to is told by the world that the work on it finds. -/
theorem Sought.unique {others : List Flow} {x : World} (sought : Sought setup e w flows u)
    (again : Sought setup e w others x) : others = flows ∧ x = u := by
  cases sought with
  | other kind offered =>
    cases again with
    | other _ same =>
      cases offered.symm.trans same
      exact ⟨rfl, rfl⟩
    | idle message => exact absurd message kind
    | restart interrupts => exact absurd interrupts.kind kind
  | idle message plain offered searched absent =>
    cases again with
    | other kind => exact absurd message kind
    | idle _ _ same found _ =>
      cases offered.symm.trans same
      cases searched.symm.trans found
      exact ⟨rfl, rfl⟩
    | restart interrupts =>
      obtain ⟨_, _, same, found, active, _, _⟩ := interrupts
      cases offered.symm.trans same
      cases searched.symm.trans found
      rw [Option.filter_some, if_pos active] at absent
      cases absent
  | restart interrupts =>
    obtain ⟨message, _, offered, searched, active, _, ended⟩ := interrupts
    cases again with
    | other kind => exact absurd message kind
    | idle _ _ same found absent =>
      cases offered.symm.trans same
      cases searched.symm.trans found
      rw [Option.filter_some, if_pos active] at absent
      cases absent
    | restart interrupts =>
      obtain ⟨_, _, same, found, _, _, closed⟩ := interrupts
      cases offered.symm.trans same
      cases searched.symm.trans found
      cases ended.symm.trans closed
      exact ⟨rfl, rfl⟩

theorem Sought.handleLocked (sought : Sought setup e w flows u) :
    handleLocked setup e w = trigger setup e flows u := by
  unfold Conversation.handleLocked
  cases sought with
  | other kind offered => simp only [kind, decide_false, Bool.false_and, Bool.false_eq_true, if_false, bind_apply, offered]
  | idle kind plain offered searched absent =>
    simp only [kind, plain, Bool.and_false, Bool.false_eq_true, if_false, if_true, bind_apply, offered, searched, absent]
  | restart interrupts =>
    obtain ⟨kind, plain, offered, searched, active, keyword, ended⟩ := interrupts
    simp only [kind, plain, Bool.and_false, Bool.false_eq_true, if_false, if_true, bind_apply, offered, searched,
      Option.filter_some, active, keyword, ended]

/-- Work on an event that started flows came to those that the event triggers. -/
theorem sought_of_started (done : Conversation.handleLocked setup e w = (.ok o, after)) (started : o.status = .started) :
    ∃ flows u, Sought setup e w flows u := by
  unfold Conversation.handleLocked at done
  split at done
  · obtain ⟨_, _, _, confirmed⟩ := bind_ok done
    cases confirmed
    cases started
  next plain =>
    obtain ⟨flows, v, offered, done⟩ := bind_ok done
    split at done
    next kind =>
      have unreset : isReset e.text = false := by simpa [kind] using plain
      obtain ⟨found, x, searched, done⟩ := bind_ok done
      cases read : found.filter Session.isActive with
      | none => exact ⟨flows, x, .idle kind unreset offered searched read⟩
      | some s =>
        rw [read] at done
        obtain ⟨rfl, active⟩ := Option.filter_eq_some_iff.mp read
        dsimp only at done
        split at done
        next keyword =>
          obtain ⟨n, u, ended, _⟩ := bind_ok done
          exact ⟨flows, u, .restart ⟨kind, unreset, offered, searched, active, keyword, ended⟩⟩
        next =>
          exact absurd started ((continueSession_yields e _ s).of_ok done)
    next kind => exact ⟨flows, v, .other kind offered⟩

/-- An event is let in: it names a contact, its delivery was not seen before, and the contact's lock is held. -/
structure Admitted (setup : Setup) (raw : Event) (w : World) (e : Event) (v : World) : Prop where
  named : e = { raw with address := Phone.normalize raw.address }
  addressed : e.address ≠ ""
  fresh : ∃ seen, wasSeen setup e w = (.ok false, seen) ∧ v = held setup e.address seen

theorem Admitted.address (admitted : Admitted setup raw w e v) : e.address = Phone.normalize raw.address := by
  rw [admitted.named]

theorem Admitted.kind (admitted : Admitted setup raw w e v) : e.kind = raw.kind := by
  rw [admitted.named]

theorem Admitted.unique {other : Event} {x : World} (admitted : Admitted setup raw w e v)
    (again : Admitted setup raw w other x) : other = e ∧ x = v := by
  obtain ⟨rfl, _, seen, checked, rfl⟩ := admitted
  obtain ⟨rfl, _, _, same, rfl⟩ := again
  cases checked.symm.trans same
  exact ⟨rfl, rfl⟩

theorem Admitted.beside (admitted : Admitted setup raw w e v) : Beside w v := by
  obtain ⟨seen, checked, rfl⟩ := admitted.fresh
  have beside := @wasSeen_aside setup e w
  rw [checked] at beside
  exact ⟨beside.table, beside.catalogue, beside.nextSession, beside.foreign⟩

/-- What the work on an event ends in. A conflict is an outcome as well. -/
def concluded : Except Fault Outcome → Except Fault Outcome
  | .ok o => .ok o
  | .error fault => if isConflict fault then .ok ⟨.conflict, [], []⟩ else .error fault

/-- The answer to an event that is let in is what the work on it ends in; after that work nothing is done to the sessions. -/
theorem Admitted.handleEvent (admitted : Admitted setup raw w e v) :
    (handleEvent setup raw w).1 = concluded (handleLocked setup e v).1 ∧
      Beside (handleLocked setup e v).2 (handleEvent setup raw w).2 := by
  obtain ⟨named, addressed, seen, checked, rfl⟩ := admitted
  subst named
  unfold Conversation.handleEvent
  dsimp only
  rw [if_neg addressed]
  unfold handleFor
  rw [bind_apply, checked]
  dsimp only
  rw [if_neg Bool.false_ne_true, bind_apply]
  obtain ⟨unlocked, _, locked⟩ := withLock_apply setup (Phone.normalize raw.address)
    (handleLocked setup { raw with address := Phone.normalize raw.address }) seen
  simp only [Work.attempt, locked]
  rcases handleLocked setup { raw with address := Phone.normalize raw.address } _ with ⟨fault | o, inner⟩
  · dsimp only [concluded]
    split
    · exact ⟨rfl, rfl, rfl, rfl, rfl⟩
    · exact ⟨rfl, rfl, rfl, rfl, rfl⟩
  · have returned : Beside inner { inner with outside := unlocked } := ⟨rfl, rfl, rfl, rfl⟩
    exact ⟨deliver_ok o _, returned.trans (deliver_aside o _)⟩

/-- An event that started flows was let in. -/
theorem admitted_of_started (done : Conversation.handleEvent setup raw w = (.ok o, after)) (started : o.status = .started) :
    ∃ e v inner, Admitted setup raw w e v ∧ Conversation.handleLocked setup e v = (.ok o, inner) ∧ Beside inner after := by
  have admitted : ∃ e v, Admitted setup raw w e v := by
    unfold Conversation.handleEvent at done
    split at done
    · cases done
      cases started
    next addressed =>
      obtain ⟨seen, before, checked, handled⟩ := bind_ok done
      cases seen with
      | true =>
        cases handled
        cases started
      | false => exact ⟨_, _, rfl, addressed, before, checked, rfl⟩
  obtain ⟨e, v, admitted⟩ := admitted
  have ends := admitted.handleEvent
  rw [done] at ends
  rcases worked : Conversation.handleLocked setup e v with ⟨fault | decided, inner⟩ <;> rw [worked] at ends
  · have answer := ends.1
    dsimp only [concluded] at answer
    split at answer <;> cases answer
    cases started
  · have answer : Except.ok o = .ok decided := ends.1
    cases answer
    exact ⟨e, v, inner, admitted, worked, ends.2⟩

/-- Whether the flow is for once per contact. -/
def isOnce (f : Flow) : Bool := (f.trigger?.map fun t => t.scope.oncePerContact).getD false

section
variable (inProcess : setup.hasDatabase = false)
include inProcess

/-- Of the flows that are for once per contact, those count that the contact has a record of. -/
theorem priorFlows_apply (address : String) (flows : List Flow) (w : World) :
    priorFlows setup address flows w =
      (.ok (((flows.filter isOnce).filter fun f => w.table.has ⟨address, f.id⟩).map Flow.id), w) := by
  have read : ∀ f : Flow, Store.has setup ⟨address, f.id⟩ w = (.ok (w.table.has ⟨address, f.id⟩), w) := by
    intro f
    rw [has_eq inProcess]
    rfl
  unfold priorFlows
  rw [bind_apply, filterM_apply read]
  rfl

/-- What has been done to the stored sessions when the flows are sought. -/
theorem Sought.ended (sought : Sought setup e w flows u) : flows = w.catalogue.active ∧
    (u = w ∧ (e.kind = .message → w.table.find? e.address = none ∨ w.table.rows.any (isOpenRow e.address) = false) ∨
      ∃ now, u = { w with table := (w.table.abandonAll now e.address).2 }) := by
  cases sought with
  | other kind offered =>
    rw [active_eq inProcess] at offered
    cases offered
    exact ⟨rfl, Or.inl ⟨rfl, fun same => absurd same kind⟩⟩
  | idle _ _ offered searched absent =>
    rw [active_eq inProcess] at offered
    cases offered
    rw [find_eq inProcess] at searched
    cases searched
    refine ⟨rfl, Or.inl ⟨rfl, fun _ => Or.inl (Option.eq_none_iff_forall_ne_some.mpr fun s found => ?_)⟩⟩
    exact Option.filter_eq_none_iff.mp absent s found (find?_active found)
  | restart interrupts =>
    obtain ⟨_, _, offered, searched, _, _, ended⟩ := interrupts
    rw [active_eq inProcess] at offered
    cases offered
    rw [find_eq inProcess] at searched
    obtain rfl := congrArg Prod.snd searched
    rw [abandonAll_apply inProcess] at ended
    split at ended
    · cases present : setup.utcNow <;> rw [present] at ended <;> cases ended
      exact ⟨rfl, Or.inr ⟨_, rfl⟩⟩
    next closed =>
      cases ended
      exact ⟨rfl, Or.inl ⟨rfl, fun _ => Or.inr (Bool.eq_false_iff.mpr closed)⟩⟩

end

end Chatflow.Proofs.EventPaths
