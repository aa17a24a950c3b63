import Chatflow.Proofs.IdleWork
import Chatflow.Proofs.ReplyRuns

/-! Invariants that calls of the runtime keep, wherever the sessions are stored and however the calls end. Between the
operations that change the stored sessions nothing that lasts is touched, so that it is enough to look at these. -/

namespace Chatflow.Proofs.LastingInvariants
open Conversation Interpreter StepEffects RunEndings ParkedSessions AgentTurns ReplyRuns OutsideWork IdleWork SessionTable
  WorkLogic

variable {α β : Type} {setup : Setup} {inHand mine : String → Prop} {offered : String → Flow → Prop}
  {stored : Session → World → Prop} {inv pre : World → Prop} {s : Session} {f : Flow} {r : RunResult}

/-- A run of a flow that starts from a session, with whatever variables. -/
def RunOf (f : Flow) (s : Session) (r : RunResult) : Prop :=
  ∃ options now vars rolls rest start, run f options now { s with vars := vars } rolls start = (.ok r, rest)

theorem RunOf.sameConversation (ran : RunOf f s r) : SameConversation s r.session := by
  obtain ⟨options, now, vars, rolls, rest, start, ran⟩ := ran
  have same := run_sameConversation ran
  exact ⟨same.id, same.address, same.flowId, same.deviceId, same.createdAt, same.loose⟩

theorem runOf_answers {e : Event} {step : Option String} (answers : Answers f s e step r) : RunOf f s r := by
  obtain ⟨resolution, options, now, rolls, rest, _, _, ran⟩ := answers
  exact ⟨options, now, _, rolls, rest, _, ran⟩

/-- The changes by which the runtime saves what became of a session that it has read. A session of which an AI agent is
the owner is not run, unless it waits. -/
inductive Advances (offered : String → Flow → Prop) (s : Session) : Change → Prop where
  | ran {f : Flow} {r : RunResult} (onOffer : offered s.flowId f) (turn : ¬ OwnedByAi s ∨ s.isWaiting = true)
      (ran : RunOf f s r) : Advances offered s (savedChange r.session)
  | taken {ended : Bool} {updated : Session} (assigned : s.isAiAssigned = true) (taken : Taken s ended updated) :
      Advances offered s (turnChange updated)
  | missed (active : s.isActive = true) : Advances offered s (missingFlowChange s)

theorem Advances.typed {c : Change} (advances : Advances offered s c) : c.loose = [] := by
  cases advances with
  | ran | taken | missed => rfl

/-- An assertion that stays true as long as nothing that lasts is touched. -/
def Still (setup : Setup) (assertion : World → Prop) : Prop :=
  ∀ {w after}, Unmoved setup w after → assertion w → assertion after

theorem still_true : Still setup fun _ => True := fun _ _ => trivial

/-- Work that keeps an invariant and finds stored sessions only. -/
def Finds (stored : Session → World → Prop) (inv : World → Prop) (work : Work (Option Session)) : Prop :=
  Keeps inv (fun _ => True) work fun found w => ∀ s, found = some s → stored s w

/-- An invariant that is kept where flows are started and taken on. Sessions are made for contacts to whom they may be
made, and those that are in hand may be read again. It is kept by the changes that the runtime makes of a session that is
still stored as it was read. -/
structure Lasting (setup : Setup) (inHand mine : String → Prop) (offered : String → Flow → Prop)
    (stored : Session → World → Prop) (inv : World → Prop) : Prop where
  unmoved : Still setup inv
  stays : ∀ s, Still setup (stored s)
  known : ∀ {s w}, inv w → stored s w → inHand s.id ∧ mine s.address
  flow? : ∀ id, Keeps inv (fun _ => True) (Offer.flow? setup id) fun found _ =>
    ∀ f, found = some f → offered id f ∧ offered f.id f
  active : Keeps inv (fun _ => True) (Offer.active setup) fun flows _ => ∀ f ∈ flows, offered f.id f
  get : ∀ id, inHand id → Finds stored inv (Store.get setup id)
  create : ∀ key vars deviceId, mine key.address →
    Keeps inv (fun _ => True) (Store.create setup key vars deviceId) stored
  swap : ∀ {s c}, Advances offered s c →
    Keeps inv (stored s) (Store.swap setup s.id s.currentStep c) fun _ _ => True

theorem create_made {key : SessionKey} {vars : Fields} {deviceId : Option String} {w : World}
    (made : (Store.create setup key vars deviceId w).1 = .ok s) :
    ∃ id now, s = newSession id now key vars deviceId := by
  have done : Store.create setup key vars deviceId w = (.ok s, (Store.create setup key vars deviceId w).2) :=
    Prod.ext made rfl
  unfold Store.create at done
  split at done
  · obtain ⟨id, _, _, done⟩ := bind_ok done
    obtain ⟨now, _, _, done⟩ := bind_ok done
    obtain ⟨_, _, _, done⟩ := bind_ok done
    obtain ⟨_, _, _, done⟩ := bind_ok done
    exact ⟨id, now, (Except.ok.inj (congrArg Prod.fst done)).symm⟩
  · obtain ⟨id, _, _, done⟩ := bind_ok done
    obtain ⟨now, _, _, done⟩ := bind_ok done
    obtain ⟨_, _, _, done⟩ := bind_ok done
    exact ⟨id, now, (Except.ok.inj (congrArg Prod.fst done)).symm⟩

theorem Finds.bind {work : Work (Option Session)} {next : Option Session → Work β} (finds : Finds stored inv work)
    (missing : Preserves inv (next none)) (rest : ∀ s, Keeps inv (stored s) (next (some s)) fun _ _ => True) :
    Preserves inv (work >>= next) := by
  apply Keeps.bind finds
  intro found
  cases found with
  | none => exact .requiring (fun _ _ _ => trivial) missing
  | some s => exact .requiring (fun _ _ here => here s rfl) (rest s)

/-- Idle work of which is known what it finds. -/
theorem keeps_looking {work : Work α} {next : α → Work β} {fact : α → Prop} {post : β → World → Prop}
    (still : Still setup pre) (idle : Idle setup work) (finds : Keeps inv (fun _ => True) work fun a _ => fact a)
    (rest : ∀ a, fact a → Keeps inv pre (next a) post) : Keeps inv pre (work >>= next) post := by
  have both : Keeps inv pre work fun a w => fact a ∧ pre w := by
    intro w holds fits
    obtain ⟨after, found⟩ := finds w holds trivial
    exact ⟨after, fun a done => ⟨found a done, still (idle w) fits⟩⟩
  exact both.bind fun a => .given (fun _ _ holds => holds) (rest a)

namespace Lasting
variable (lasting : Lasting setup inHand mine offered stored inv)
include lasting

theorem idle {work : Work α} (idle : Idle setup work) : Preserves inv work :=
  fun w holds _ => ⟨lasting.unmoved (idle w) holds, fun _ _ => trivial⟩

theorem idly {work : Work α} {next : α → Work β} {post : β → World → Prop} (still : Still setup pre)
    (idle : Idle setup work) (rest : ∀ a before, (work before).1 = .ok a → Keeps inv pre (next a) post) :
    Keeps inv pre (work >>= next) post := by
  intro w holds fits
  have before := idle w
  rw [bind_apply]
  rcases done : work w with ⟨_ | a, after⟩ <;> rw [done] at before
  · exact ⟨lasting.unmoved before holds, fun _ impossible => by cases impossible⟩
  · exact rest a w (congrArg Prod.fst done) after (lasting.unmoved before holds) (still before fits)

theorem commit (onOffer : offered s.flowId f) (turn : ¬ OwnedByAi s ∨ s.isWaiting = true) (ran : RunOf f s r) :
    Keeps inv (stored s) (Conversation.commit setup s r) fun _ _ => True := by
  unfold Conversation.commit
  rw [ran.sameConversation.id]
  exact lasting.swap (.ran onOffer turn ran)

theorem firstRun {address : String} (own : mine address) (onOffer : offered f.id f) (vars : Fields)
    (deviceId firstStep : Option String) : Preserves inv (firstRun setup address f vars deviceId firstStep) := by
  have created : Keeps inv (fun _ => True) (Store.create setup ⟨address, f.id⟩ vars deviceId) fun s w =>
      (∃ id now, s = newSession id now ⟨address, f.id⟩ vars deviceId) ∧ stored s w := by
    intro w holds _
    obtain ⟨after, made⟩ := lasting.create ⟨address, f.id⟩ vars deviceId own w holds trivial
    exact ⟨after, fun s done => ⟨create_made done, made s done⟩⟩
  unfold Conversation.firstRun
  apply created.bind
  intro s
  refine .given (fun _ _ holds => holds) fun ⟨id, began, made⟩ => ?_
  have unowned : ¬ OwnedByAi s := fun ⟨agent, owner⟩ => by rw [made] at owner; cases owner
  have flow : s.flowId = f.id := by rw [made]; rfl
  apply lasting.idly (lasting.stays s) (.check _)
  intro options _ _
  apply lasting.idly (lasting.stays s) (.check _)
  intro now _ _
  apply lasting.idly (lasting.stays s) (.running _)
  intro r before ran
  obtain ⟨rolls, rest, ran⟩ := running_ok ran
  apply (lasting.commit (by rwa [flow]) (Or.inl unowned) ⟨options, now, s.vars, rolls, rest, _, ran⟩).bind
  intro accepted
  cases accepted with
  | false => exact .fail
  | true => exact .done

theorem chainedFlow? (r : RunResult) : Keeps inv (fun _ => True) (chainedFlow? setup r) fun next _ =>
    ∀ f, next = some f → offered f.id f := by
  unfold Conversation.chainedFlow?
  split
  · apply (lasting.flow? _).bind
    intro found
    refine .pure fun _ _ known f kept => ?_
    exact (known f (Option.filter_eq_some_iff.mp kept).1).2
  · exact .pure fun _ _ _ _ impossible => by cases impossible

/-- The induction is on how many more flows the chain may have. -/
theorem start {address : String} (own : mine address) (onOffer : offered f.id f) (left : Nat) (vars : Fields)
    (deviceId firstStep : Option String) : Preserves inv (start setup address left f vars deviceId firstStep) := by
  induction left generalizing f vars deviceId firstStep with
  | zero =>
    unfold Conversation.start
    exact (lasting.firstRun own onOffer _ _ _).bind fun first => .done
  | succ left ih =>
    unfold Conversation.start
    apply (lasting.firstRun own onOffer _ _ _).bind
    intro first
    apply keeps_looking still_true (chainedFlow?_idle _) (lasting.chainedFlow? _)
    intro next known
    cases next with
    | none => exact .done
    | some next => exact (ih (known next rfl) _ _ _).bind fun _ => .done

theorem follow {address : String} (own : mine address) (r : RunResult) (o : Outcome) :
    Preserves inv (follow setup address r o) := by
  unfold Conversation.follow
  apply keeps_looking still_true (chainedFlow?_idle _) (lasting.chainedFlow? _)
  intro next known
  cases next with
  | none => exact .done
  | some next => exact (lasting.start own (known next rfl) _ _ _ _).bind fun _ => .done

theorem startAll {e : Event} (own : mine e.address) {triggered : List (Flow × String)}
    (onOffer : ∀ entry ∈ triggered, offered entry.1.id entry.1) (o : Outcome) :
    Preserves inv (startAll setup e triggered o) := by
  induction triggered generalizing o with
  | nil => exact .done
  | cons entry rest ih =>
    unfold Conversation.startAll
    apply (lasting.start own (onOffer entry List.mem_cons_self) _ _ _ _).bind
    intro started
    exact ih (fun entry inside => onOffer entry (List.mem_cons_of_mem _ inside)) _

theorem trigger {e : Event} (own : mine e.address) {flows : List Flow} (onOffer : ∀ f ∈ flows, offered f.id f) :
    Preserves inv (trigger setup e flows) := by
  unfold Conversation.trigger
  apply lasting.idly still_true (priorFlows_idle _ _)
  intro prior _ _
  dsimp only
  generalize listed : TriggerMatch.matching e flows _ _ _ = triggered
  cases triggered with
  | nil => exact .done
  | cons first rest =>
    refine lasting.startAll own (fun entry inside => ?_) _
    rw [← listed] at inside
    obtain ⟨f, kept, start⟩ := List.mem_filterMap.mp inside
    obtain ⟨step, _, rfl⟩ := Option.map_eq_some_iff.mp start
    exact onOffer f (List.mem_filter.mp kept).1

/-- What is known of a session's flow if the session is found to wait in it. -/
theorem waitingIn? (s : Session) : Keeps inv (fun _ => True) (waitingIn? setup s) fun found _ =>
    ∀ f, found = some f → offered s.flowId f ∧ s.isWaiting = true := by
  unfold Conversation.waitingIn?
  apply (lasting.flow? s.flowId).bind
  intro found
  cases found with
  | none => exact .pure fun _ _ _ _ impossible => by cases impossible
  | some f =>
    dsimp only
    split
    next waiting =>
      refine .pure fun _ _ known other kept => ?_
      split at kept
      · cases kept
        exact ⟨(known f rfl).1, waiting⟩
      · cases kept
    next => exact .pure fun _ _ _ _ impossible => by cases impossible

theorem resumeLocked {id : String} (held : inHand id) (now : Instant) : Preserves inv (resumeLocked setup now id) := by
  unfold Conversation.resumeLocked
  refine (lasting.get id held).bind ?_ fun s => ?_
  · exact .done
  refine .given (fun _ holds here => ⟨(lasting.known holds here).2, here⟩) fun own => ?_
  apply keeps_looking (lasting.stays s) (waitingIn?_idle s) (lasting.waitingIn? s)
  intro waits known
  split
  next f dueAt _ =>
    obtain ⟨onOffer, waiting⟩ := known f rfl
    split
    · exact .done
    · apply lasting.idly (lasting.stays s) (.check _)
      intro options _ _
      apply lasting.idly (lasting.stays s) (.running _)
      intro r before ran
      obtain ⟨rolls, rest, ran⟩ := running_ok ran
      apply (lasting.commit onOffer (Or.inr waiting) ⟨options, now, s.vars, rolls, rest, _, ran⟩).bind
      intro accepted
      cases accepted with
      | false => exact .done
      | true => exact lasting.follow own _ _
  · exact .done

theorem continueWithAgent (assigned : s.isAiAssigned = true) (e : Event) :
    Keeps inv (stored s) (continueWithAgent setup s e) fun _ _ => True := by
  unfold Conversation.continueWithAgent
  apply lasting.idly (lasting.stays s) (ownerOf_idle s)
  intro agent _ _
  apply lasting.idly (lasting.stays s) (.tryOutside (standing_innermost.handleTurn s agent _))
  intro ⟨turn, updated⟩ before took
  have handled : Delegate.handleTurn setup s agent (.str e.answer) before.outside = (.ok (turn, updated), _) :=
    Prod.ext took rfl
  rcases handleTurn_session handled with ⟨failed, _⟩ | ⟨replied, taken⟩
  · simp only [failed, Bool.not_true, Bool.false_eq_true, if_false]
    exact .done
  · simp only [replied, Bool.not_false, if_true]
    rw [taken.id]
    exact (lasting.swap (.taken assigned taken)).bind fun _ => .done

theorem tryReply (own : mine s.address) (onOffer : offered s.flowId f) (unowned : ¬ OwnedByAi s) (e : Event) :
    Keeps inv (stored s) (tryReply setup f s e) fun _ _ => True := by
  unfold Conversation.tryReply
  apply lasting.idly (lasting.stays s) (runReply_idle f s e)
  intro found before ran
  cases found with
  | none => exact .done
  | some r =>
    apply (lasting.commit onOffer (Or.inl unowned) (runOf_answers (runReply_answers ran))).bind
    intro accepted
    cases accepted with
    | false => exact .done
    | true => exact (lasting.follow own _ _).bind fun _ => .done

/-- Each look at a reply begins with the session as it is stored. The induction is on how many more looks there may be. -/
theorem continueSession (active : s.isActive = true) (e : Event) (left : Nat) :
    Keeps inv (stored s) (continueSession setup e left s) fun _ _ => True := by
  induction left generalizing s with
  | zero => exact .fail
  | succ left ih =>
    unfold Conversation.continueSession
    apply keeps_looking (lasting.stays s) (flow?_idle _) (lasting.flow? s.flowId)
    intro found offers
    cases found with
    | none => exact (lasting.swap (.missed active)).bind fun _ => .done
    | some f =>
      refine .given (fun _ holds here => ⟨lasting.known holds here, here⟩) fun ⟨held, own⟩ => ?_
      dsimp only
      split
      next assigned => exact lasting.continueWithAgent assigned e
      next notAssigned =>
        split
        · exact .done
        · have unowned : ¬ OwnedByAi s := fun owned => notAssigned (isAiAssigned_of_ownedByAi active owned)
          apply (lasting.tryReply own (offers f rfl).1 unowned e).bind
          intro outcome
          cases outcome with
          | some outcome => exact .done
          | none =>
            apply Keeps.preserves
            apply Keeps.bind (lasting.get s.id held)
            intro read
            cases kept : read.filter Session.isActive with
            | none => exact .done
            | some current =>
              obtain ⟨rfl, active⟩ := Option.filter_eq_some_iff.mp kept
              exact .requiring (fun _ _ here => here current rfl) (ih active)

theorem withLock {address : String} {work : Work α} (keeps : Preserves inv work) :
    Preserves inv (withLock setup address work) := by
  unfold Conversation.withLock
  apply lasting.idly still_true (.onOutside (standing_lockless.enterLock _ _ _))
  intro hold _ _
  refine keeps.finally' (fun w holds => ?_) fun _ _ _ _ => trivial
  exact lasting.unmoved (Idle.onOutside (standing_lockless.leaveLock _ _ hold) w) holds

theorem deliver (o : Outcome) : Preserves inv (deliver setup o) := lasting.idle (deliver_idle o)

theorem resumeFound {id : String} (held : inHand id) (now : Instant) (s : Session) :
    Preserves inv (resumeFound setup now id s) :=
  (lasting.withLock (lasting.resumeLocked held now)).bind fun o => lasting.deliver o

theorem resumeAsOf {id : String} (held : inHand id) (now : Instant) : Preserves inv (resumeAsOf setup now id) := by
  unfold Conversation.resumeAsOf
  apply lasting.idly still_true (get_idle id)
  intro found _ _
  cases found with
  | none => exact .done
  | some s => exact lasting.resumeFound held now s

theorem resume {id : String} (held : inHand id) : Preserves inv (resume setup id) :=
  lasting.idly still_true (.check _) fun now _ _ => lasting.resumeAsOf held now

theorem startFlow {address : String} (own : mine (Phone.normalize address)) (flowId : String) (vars : Fields) :
    Preserves inv (startFlow setup flowId address vars) := by
  unfold Conversation.startFlow startFound
  apply keeps_looking still_true (flow?_idle _) (lasting.flow? flowId)
  intro found offers
  cases found with
  | none => exact .fail
  | some f => exact (lasting.withLock (lasting.start own (offers f rfl).2 _ _ _ _)).bind fun o => lasting.deliver o

end Lasting

/-- What becomes of an event that was not seen before. -/
def handleNew (setup : Setup) (e : Event) : Work Outcome := do
  match ← Work.attempt (withLock setup e.address (handleLocked setup e)) with
  | .ok outcome => deliver setup outcome
  | .error fault =>
    if isConflict fault then
      Work.onOutside (Outside.raiseAlert setup "critical" "Session compare-and-swap retries exhausted"
        [("address", .str e.address)])
      return ⟨.conflict, [], []⟩
    else Work.fail fault

theorem handleFor_eq (e : Event) : handleFor setup e = (wasSeen setup e >>= fun seen =>
    if seen then pure ⟨.duplicate, [], []⟩ else handleNew setup e) := rfl

/-- The store can be asked for any session, and made to forget. -/
structure Served (setup : Setup) (stored : Session → World → Prop) (inv : World → Prop) (contact : String)
    (resets : Prop) : Prop where
  find : Finds stored inv (Store.find setup contact)
  abandonAll : Preserves inv (Store.abandonAll setup contact)
  reset : resets → Preserves inv (Store.reset setup contact)

section
variable (lasting : Lasting setup inHand mine offered stored inv)
include lasting

theorem handleLocked_lasts {e : Event} (own : mine e.address)
    (served : Served setup stored inv e.address (e.kind = .message ∧ isReset e.text = true)) :
    Preserves inv (handleLocked setup e) := by
  unfold handleLocked
  split
  next resets =>
    unfold resetFor
    exact (served.reset (by simpa using resets)).bind fun _ => .done
  next =>
    apply keeps_looking still_true active_idle lasting.active
    intro flows onOffer
    split
    · apply Keeps.bind served.find
      intro found
      split
      next s kept =>
        obtain ⟨rfl, active⟩ := Option.filter_eq_some_iff.mp kept
        split
        · exact (served.abandonAll.bind fun _ => lasting.trigger own onOffer).preserves
        · exact .requiring (fun _ _ here => here s rfl) (lasting.continueSession active e _)
      next => exact (lasting.trigger own onOffer).preserves
    · exact lasting.trigger own onOffer

theorem handleNew_lasts {e : Event} (own : mine e.address)
    (served : Served setup stored inv e.address (e.kind = .message ∧ isReset e.text = true)) :
    Preserves inv (handleNew setup e) := by
  unfold handleNew
  apply (lasting.withLock (handleLocked_lasts lasting own served)).attempt.bind
  intro result
  cases result with
  | ok outcome => exact (lasting.deliver outcome).preserves
  | error fault =>
    dsimp only
    split
    · exact (lasting.idle ((Idle.onOutside (standing_innermost.raiseAlert _ _ _)).bind fun _ => .pure _)).preserves
    · exact .fail

theorem handleEvent_lasts {raw : Event} (own : Phone.normalize raw.address ≠ "" → mine (Phone.normalize raw.address))
    (seen : Preserves inv (wasSeen setup { raw with address := Phone.normalize raw.address }))
    (served : Served setup stored inv (Phone.normalize raw.address) (raw.kind = .message ∧ isReset raw.text = true)) :
    Preserves inv (handleEvent setup raw) := by
  unfold handleEvent
  dsimp only
  split
  · exact .done
  next addressed =>
    rw [handleFor_eq]
    apply seen.bind
    intro duplicate
    split
    · exact .done
    · exact handleNew_lasts lasting (own addressed) served

theorem continueFlow_lasts {address flowId : String}
    (finds : Finds stored inv (Store.findForFlow setup ⟨Phone.normalize address, flowId⟩)) (text : String)
    (replyId : Option String) : Preserves inv (continueFlow setup address flowId text replyId) := by
  unfold continueFlow continueFound
  refine (lasting.withLock ?_).bind fun o => lasting.deliver o
  apply Keeps.bind finds
  intro found
  cases kept : found.filter Session.isActive with
  | none => exact .fail
  | some s =>
    obtain ⟨rfl, active⟩ := Option.filter_eq_some_iff.mp kept
    refine .requiring (fun _ _ here => here s rfl) ?_
    apply lasting.idly (lasting.stays s) (.check _)
    intro e _ _
    exact lasting.continueSession active e _

theorem reset_lasts {address : String} (resets : Preserves inv (Store.reset setup (Phone.normalize address))) :
    Preserves inv (Conversation.reset setup address) :=
  lasting.withLock (resets.bind fun _ => .done)

end

/-! Invariants for which it does not matter what is made of a session. -/

/-- A session known only by its id and its contact. -/
abbrev Named (inHand mine : String → Prop) (s : Session) (_ : World) : Prop := inHand s.id ∧ mine s.address

/-- An invariant that is kept by any change of sessions that are in hand, to values that their fields are meant for. -/
structure Tolerant (setup : Setup) (inHand mine : String → Prop) (inv : World → Prop) : Prop where
  unmoved : Still setup inv
  create : ∀ key vars deviceId, mine key.address →
    Keeps inv (fun _ => True) (Store.create setup key vars deviceId) fun s _ => inHand s.id
  swap : ∀ id, inHand id → ∀ expected change, change.loose = [] → Preserves inv (Store.swap setup id expected change)
  get : ∀ id, inHand id → Finds (Named inHand mine) inv (Store.get setup id)

theorem Tolerant.lasting (tolerant : Tolerant setup inHand mine inv) :
    Lasting setup inHand mine (fun _ _ => True) (Named inHand mine) inv where
  unmoved := tolerant.unmoved
  stays _ _ _ _ named := named
  known _ named := named
  flow? id w holds _ := ⟨tolerant.unmoved (flow?_idle id w) holds, fun _ _ _ _ => ⟨trivial, trivial⟩⟩
  active w holds _ := ⟨tolerant.unmoved (active_idle w) holds, fun _ _ _ _ => trivial⟩
  get := tolerant.get
  create key vars deviceId own w holds _ := by
    obtain ⟨after, made⟩ := tolerant.create key vars deviceId own w holds trivial
    refine ⟨after, fun s done => ⟨made s done, ?_⟩⟩
    obtain ⟨id, now, rfl⟩ := create_made done
    exact own
  swap {s c} advances w holds named :=
    tolerant.swap s.id named.1 s.currentStep c advances.typed w holds trivial

end Chatflow.Proofs.LastingInvariants
