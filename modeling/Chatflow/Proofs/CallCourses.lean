import Chatflow.Proofs.CallDeeds
import Chatflow.Proofs.OutsideWork
import Chatflow.Proofs.ReachableStates

/-! The courses of calls. A call saves its runs first and hands over their actions at the end; where it fails, it does
so before anything is done, or in the first run of a flow that it was about to start. -/

namespace Chatflow.Proofs.CallCourses
open Conversation Interpreter InProcessStore ReachableStates AgentTurns CallDeeds OutsideWork ReplyRuns WorkLogic

variable {setup : Setup}

/-- Work that starts flows adds the actions of the runs that it saves to an outcome. It fails with the first run that
it cannot save. -/
def Begins (o : Outcome) : Except Fault Outcome → List Deed → Prop
  | .ok after, deeds => (∀ d ∈ deeds, d.IsFlowWork) ∧ after.status = o.status ∧
      after.actions = o.actions ++ (savedRuns deeds).flatMap RunResult.actions
  | .error fault, deeds => ∃ whole, deeds = whole ++ [.broken fault] ∧ ∀ d ∈ whole, d.IsFlowWork

/-- The outcome of flows that are started, before there are any. -/
def nothingYet : Outcome := ⟨.started, [], []⟩

/-- An outcome tells the actions of all runs that were saved. Work fails before it has done anything, or with the first
run of a flow. -/
def Told : Except Fault Outcome → List Deed → Prop
  | .ok o, deeds => o.status ≠ .conflict ∧ (savedRuns deeds = [] ∨
      (∀ d ∈ deeds, d.IsFlowWork) ∧ o.actions = (savedRuns deeds).flatMap RunResult.actions)
  | .error fault, deeds => (∀ d ∈ deeds, d.IsIdle) ∨
      ∃ whole, deeds = whole ++ [.broken fault] ∧ ∀ d ∈ whole, d.IsFlowWork

theorem forall_mem_append {holds : Deed → Prop} {deeds more : List Deed} (first : ∀ d ∈ deeds, holds d)
    (last : ∀ d ∈ more, holds d) : ∀ d ∈ deeds ++ more, holds d :=
  fun d member => (List.mem_append.mp member).elim (first d) (last d)

theorem forall_mem_nil {holds : Deed → Prop} : ∀ d ∈ ([] : List Deed), holds d := fun d impossible => by
  cases impossible

theorem forall_mem_one {holds : Deed → Prop} {deed : Deed} (one : holds deed) : ∀ d ∈ [deed], holds d :=
  fun d member => by rwa [List.mem_singleton.mp member]

theorem Begins.after {o before : Outcome} {result : Except Fault Outcome} {former more : List Deed}
    (begins : Begins before result more) (work : ∀ d ∈ former, d.IsFlowWork) (status : before.status = o.status)
    (sent : before.actions = o.actions ++ (savedRuns former).flatMap RunResult.actions) :
    Begins o result (former ++ more) := by
  cases result with
  | error fault =>
    obtain ⟨whole, rfl, rest⟩ := begins
    exact ⟨former ++ whole, (List.append_assoc ..).symm, forall_mem_append work rest⟩
  | ok after =>
    obtain ⟨rest, same, actions⟩ := begins
    refine ⟨forall_mem_append work rest, same.trans status, ?_⟩
    rw [actions, sent, savedRuns_append, List.flatMap_append, List.append_assoc]

theorem Begins.told {o : Outcome} {result : Except Fault Outcome} {deeds : List Deed}
    (begins : Begins o result deeds) (peaceful : o.status ≠ .conflict) (empty : o.actions = []) :
    Told result deeds := by
  cases result with
  | error fault => exact Or.inr begins
  | ok after =>
    obtain ⟨work, status, actions⟩ := begins
    rw [empty, List.nil_append] at actions
    exact ⟨by rw [status]; exact peaceful, Or.inr ⟨work, actions⟩⟩

/-- Changes that were refused before make no difference to what is told. -/
theorem Told.afterRefused {result : Except Fault Outcome} {deeds : List Deed} (told : Told result deeds) :
    Told result ([.refused] ++ deeds) := by
  have none : savedRuns ([.refused] ++ deeds) = savedRuns deeds := rfl
  have work : ∀ d ∈ [Deed.refused], d.IsFlowWork := forall_mem_one trivial
  have idle : ∀ d ∈ [Deed.refused], d.IsIdle := forall_mem_one trivial
  cases result with
  | error fault =>
    rcases told with rest | ⟨whole, rfl, rest⟩
    · exact Or.inl (forall_mem_append idle rest)
    · exact Or.inr ⟨[.refused] ++ whole, (List.append_assoc ..).symm, forall_mem_append work rest⟩
  | ok o =>
    obtain ⟨peaceful, rest⟩ := told
    refine ⟨peaceful, ?_⟩
    rw [none]
    exact rest.imp id fun ⟨rest, actions⟩ => ⟨forall_mem_append work rest, actions⟩

theorem told_unsaved {status : OutcomeStatus} {ids : List String} {actions : List Action} {deeds : List Deed}
    (peaceful : status ≠ .conflict) (unsaved : savedRuns deeds = []) : Told (.ok ⟨status, ids, actions⟩) deeds :=
  ⟨peaceful, Or.inl unsaved⟩

theorem failed_idly (fault : Fault) : Told (.error fault) [] := Or.inl forall_mem_nil

section
variable (inProcess : setup.hasDatabase = false)

theorem firstRun_tells (address : String) (f : Flow) (vars : Fields) (deviceId firstStep : Option String) :
    Tells setup (firstRun setup address f vars deviceId firstStep) fun result deeds => match result with
      | .ok made => deeds = [.started made.2]
      | .error fault => deeds = [.broken fault] := by
  intro w
  rcases done : firstRun setup address f vars deviceId firstStep w with ⟨fault | ⟨s, r⟩, after⟩
  · exact ⟨_, .deed (.broken done), rfl⟩
  · exact ⟨_, .deed (.started done), rfl⟩

/-- A swap is accepted and does its deed, or it is refused. -/
def Answered (deed : Deed) (result : Except Fault Bool) (deeds : List Deed) : Prop :=
  (result = .ok true ∧ deeds = [deed]) ∨ (result ≠ .ok true ∧ deeds = [.refused])

theorem Answered.failed {deed : Deed} {fault : Fault} {deeds : List Deed}
    (answered : Answered deed (.error fault) deeds) : deeds = [.refused] := by
  rcases answered with ⟨impossible, _⟩ | ⟨_, refused⟩
  · cases impossible
  · exact refused

theorem Answered.told {deed : Deed} {fault : Fault} {deeds : List Deed}
    (answered : Answered deed (.error fault) deeds) : Told (.error fault) deeds := by
  rw [answered.failed]
  exact Or.inl (forall_mem_one trivial)

theorem Answered.unsaved {deed : Deed} {result : Except Fault Bool} {deeds : List Deed}
    (answered : Answered deed result deeds) (unsaving : deed.run? = none) : savedRuns deeds = [] := by
  rcases answered with ⟨_, rfl⟩ | ⟨_, rfl⟩
  · simp only [savedRuns, List.filterMap_cons, unsaving, List.filterMap_nil]
  · rfl

theorem swap_tells {id : String} {expected : Option String} {change : Change} {deed : Deed}
    (accepted : ∀ w after, Store.swap setup id expected change w = (.ok true, after) → Leads setup w deed after) :
    Tells setup (Store.swap setup id expected change) (Answered deed) := by
  intro w
  by_cases done : (Store.swap setup id expected change w).1 = .ok true
  · exact ⟨_, .deed (accepted w _ (Prod.ext done rfl)), Or.inl ⟨done, rfl⟩⟩
  · exact ⟨_, .deed (.refused rfl done), Or.inr ⟨done, rfl⟩⟩

theorem commit_tells {s : Session} {r : RunResult} (takesOn : TakesOn s r) :
    Tells setup (commit setup s r) (Answered (.saved r)) :=
  swap_tells fun _ _ accepted => .saved takesOn accepted

theorem consult_tells (s : Session) (agent : Option Agent) (message : Value) :
    Tells setup (Work.tryOutside (Delegate.handleTurn setup s agent message).run) fun result deeds =>
      deeds = [.consulted] ∧
        ∀ turn updated, result = .ok (turn, updated) → turn.failed = false → Taken s turn.ended updated := by
  refine fun w => ⟨_, .deed (.consulted s agent message), rfl, fun turn updated answered well => ?_⟩
  have took : Delegate.handleTurn setup s agent message w.outside =
      (.ok (turn, updated), (Delegate.handleTurn setup s agent message w.outside).2) := Prod.ext answered rfl
  rcases handleTurn_session took with ⟨failed, _⟩ | ⟨_, taken⟩
  · rw [failed] at well
    cases well
  · exact taken

include inProcess

theorem flow?_reads (id : String) : Reads (Offer.flow? setup id) := by
  rw [flow?_eq inProcess]
  exact .look _

theorem chainedFlow?_reads (r : RunResult) : Reads (chainedFlow? setup r) := by
  unfold chainedFlow?
  split
  · exact (flow?_reads inProcess _).bind fun _ => .pure _
  · exact .pure _

omit inProcess in
theorem extended_tells {work : Work Outcome} (tells : Tells setup work (Begins nothingYet)) (o : Outcome) :
    Tells setup (do return o.extend (← work)) (Begins o) := by
  refine tells.bind (fun fault deeds stopped => stopped) fun started former begun => ?_
  obtain ⟨work, _, actions⟩ := begun
  refine .pure ?_
  rw [List.append_nil]
  refine ⟨work, rfl, ?_⟩
  simp only [Outcome.extend, actions, nothingYet, List.nil_append]

theorem chained_tells {address : String} {left : Nat} {r : RunResult} {o : Outcome}
    (begun : ∀ next, Tells setup
      (start setup address left next (initialVariables address none r.session.vars) none none) (Begins nothingYet)) :
    Tells setup (do
      match ← chainedFlow? setup r with
      | some next =>
        return o.extend (← start setup address left next (initialVariables address none r.session.vars) none none)
      | none => return o) (Begins o) := by
  refine .afterReading (chainedFlow?_reads inProcess r) fun next => ?_
  cases next with
  | none => exact .pure ⟨forall_mem_nil, rfl, (List.append_nil _).symm⟩
  | some next => exact extended_tells (begun next) o

theorem start_tells (address : String) (left : Nat) (f : Flow) (vars : Fields) (deviceId firstStep : Option String) :
    Tells setup (start setup address left f vars deviceId firstStep) (Begins nothingYet) := by
  -- The induction is on how many more flows the chain may have.
  have one : ∀ r, ∀ d ∈ [Deed.started r], d.IsFlowWork := fun r => forall_mem_one trivial
  induction left generalizing f vars deviceId firstStep with
  | zero =>
    unfold start
    refine (firstRun_tells address f vars deviceId firstStep).bind ?_ ?_
    · exact fun fault deeds stopped => ⟨[], stopped, forall_mem_nil⟩
    · intro first former made
      refine .pure ?_
      rw [made]
      exact ⟨one first.2, rfl, (List.append_nil _).symm⟩
  | succ left ih =>
    unfold start
    refine (firstRun_tells address f vars deviceId firstStep).bind ?_ ?_
    · exact fun fault deeds stopped => ⟨[], stopped, forall_mem_nil⟩
    · intro first former made
      subst made
      refine (chained_tells inProcess fun next => ih next _ none none).weaken fun result more begins => ?_
      exact begins.after (one first.2) rfl (List.append_nil _).symm

theorem follow_tells (address : String) (r : RunResult) (o : Outcome) :
    Tells setup (follow setup address r o) (Begins o) :=
  chained_tells inProcess fun next => start_tells inProcess address _ next _ none none

theorem followed_tells {address : String} {r : RunResult} {status : OutcomeStatus} {ids : List String}
    (peaceful : status ≠ .conflict) :
    Tells setup (follow setup address r ⟨status, ids, r.actions⟩) fun result more =>
      Told result ([.saved r] ++ more) := by
  refine (follow_tells inProcess _ _ _).weaken fun result more begins => ?_
  have whole : Begins ⟨status, ids, []⟩ result ([.saved r] ++ more) :=
    begins.after (forall_mem_one trivial) rfl (List.append_nil _).symm
  exact whole.told peaceful rfl

theorem ownerOf_reads (s : Session) : Reads (ownerOf setup s) := by
  unfold ownerOf
  split
  · rw [agent?_eq inProcess]
    exact .look _
  · exact .pure _

theorem continueWithAgent_tells (s : Session) (e : Event) : Tells setup (continueWithAgent setup s e) Told := by
  have peaceful : ∀ turn, turnStatus turn ≠ .conflict := fun turn => by
    unfold turnStatus
    split
    · exact fun impossible => by cases impossible
    · split <;> exact fun impossible => by cases impossible
  unfold continueWithAgent
  refine .afterReading (ownerOf_reads inProcess s) fun agent => ?_
  refine (consult_tells s agent _).bind ?_ ?_
  · intro fault deeds ⟨consulted, _⟩
    rw [consulted]
    exact Or.inl (forall_mem_one trivial)
  · intro ⟨turn, updated⟩ former ⟨consulted, takes⟩
    subst consulted
    dsimp only
    split
    next well =>
      have taken : Taken s turn.ended updated := takes turn updated rfl (by simpa using well)
      refine (swap_tells fun _ _ accepted => .turned taken accepted).bind ?_ ?_
      · intro fault deeds answered
        rw [answered.failed]
        exact Or.inl (forall_mem_append (forall_mem_one trivial) (forall_mem_one trivial))
      · intro accepted deeds answered
        refine .pure (told_unsaved (peaceful turn) ?_)
        rw [List.append_nil, savedRuns_append, answered.unsaved rfl]
        rfl
    · exact .pure (told_unsaved (peaceful turn) rfl)

omit inProcess in
theorem runReply_calm (f : Flow) (s : Session) (e : Event) : Calm (runReply setup f s e) := by
  unfold runReply
  refine (Calm.check _).bind fun resolution => ?_
  split
  · exact .pure _
  · refine (Calm.check _).bind fun options => (Calm.check _).bind fun now => ?_
    exact (Calm.running _).bind fun r => .pure _

/-- A try at a reply that comes to nothing was refused. -/
theorem tryReply_tells (f : Flow) (s : Session) (e : Event) :
    Tells setup (tryReply setup f s e) fun result deeds => match result with
      | .ok none => deeds = [.refused]
      | .ok (some o) => Told (.ok o) deeds
      | .error fault => Told (.error fault) deeds := by
  unfold tryReply
  refine .afterCalm (runReply_calm f s e) failed_idly fun found w ran => ?_
  cases found with
  | none => exact .pure (told_unsaved (by decide) rfl)
  | some r =>
    have takesOn : TakesOn s r := .answer (runReply_answers ran)
    refine (commit_tells takesOn).bind (fun fault deeds answered => answered.told) fun accepted former answered => ?_
    rcases answered with ⟨done, rfl⟩ | ⟨undone, rfl⟩
    · cases done
      have followed := @followed_tells _ inProcess s.address r .continued [s.id] (by decide)
      refine followed.bind (fun fault deeds told => told) fun o deeds told => .pure ?_
      rwa [List.append_nil]
    · cases accepted with
      | true => exact absurd rfl undone
      | false => exact .pure rfl

theorem continueSession_tells (e : Event) (left : Nat) (s : Session) :
    Tells setup (continueSession setup e left s) Told := by
  -- The induction is on the looks that are left; each one after the first follows a run that was refused.
  induction left generalizing s with
  | zero => exact .fail (failed_idly _)
  | succ left ih =>
    unfold continueSession
    refine .afterReading (flow?_reads inProcess s.flowId) fun found => ?_
    cases found with
    | none =>
      refine (swap_tells fun _ _ accepted => .missed accepted).bind (fun fault deeds answered => answered.told) ?_
      intro accepted deeds answered
      refine .pure (told_unsaved (by decide) ?_)
      rw [List.append_nil, answered.unsaved rfl]
    | some f =>
      dsimp only
      split
      · exact continueWithAgent_tells inProcess s e
      · split
        · exact .pure (told_unsaved (by decide) rfl)
        · refine (tryReply_tells inProcess f s e).bind (fun fault deeds told => told) fun found former told => ?_
          cases found with
          | some o =>
            refine .pure ?_
            rwa [List.append_nil]
          | none =>
            subst told
            rw [get_eq inProcess]
            refine .afterReading (.look _) fun read => ?_
            cases read.filter Session.isActive with
            | none => exact .pure (told_unsaved (by decide) rfl).afterRefused
            | some current => exact (ih current).weaken fun result deeds told => told.afterRefused

theorem priorFlows_reads (address : String) (flows : List Flow) : Reads (priorFlows setup address flows) := by
  unfold priorFlows
  refine .bind (.filterM (fun f => ?_) _) fun prior => .pure _
  rw [has_eq inProcess]
  exact .look _

theorem startAll_tells (e : Event) (triggered : List (Flow × String)) (o : Outcome) :
    Tells setup (startAll setup e triggered o) (Begins o) := by
  induction triggered generalizing o with
  | nil => exact .pure ⟨forall_mem_nil, rfl, (List.append_nil _).symm⟩
  | cons entry rest ih =>
    unfold startAll
    refine (start_tells inProcess _ _ _ _ _ _).bind (fun fault deeds stopped => stopped) fun started former begun => ?_
    obtain ⟨work, _, actions⟩ := begun
    refine (ih (o.extend started)).weaken fun result more begins => begins.after work rfl ?_
    simp only [Outcome.extend, actions, nothingYet, List.nil_append]

/-- An event that triggers nothing has no actions; otherwise the flows that it triggers are started. -/
theorem trigger_tells (e : Event) (flows : List Flow) :
    Tells setup (trigger setup e flows) fun result deeds => ∃ o : Outcome,
      o.status ≠ .conflict ∧ o.actions = [] ∧ Begins o result deeds := by
  unfold trigger
  refine .afterReading (priorFlows_reads inProcess e.address flows) fun prior => ?_
  dsimp only
  split
  · refine .pure ⟨⟨.noMatch, [], []⟩, by decide, rfl, ?_⟩
    exact ⟨forall_mem_nil, rfl, rfl⟩
  · refine (startAll_tells inProcess e _ nothingYet).weaken fun result deeds begins => ?_
    exact ⟨nothingYet, by decide, rfl, begins⟩

theorem abandonAll_tells (address : String) :
    Tells setup (Store.abandonAll setup address) fun result deeds => match result with
      | .ok _ => deeds = [.ended]
      | .error _ => deeds = [] := by
  intro w
  rcases done : Store.abandonAll setup address w with ⟨fault | n, after⟩
  · have unchanged : after = w := by
      rw [abandonAll_apply inProcess] at done
      split at done
      · cases present : setup.utcNow <;> rw [present] at done <;> cases done
        rfl
      · cases done
    exact ⟨[], .quiet (by rw [unchanged]; exact .refl w), rfl⟩
  · exact ⟨_, .deed (.ended done), rfl⟩

theorem forget_tells (address : String) (o : Outcome) :
    Tells setup (do let _ ← Store.reset setup address; return o) fun result deeds =>
      result = .ok o ∧ deeds = [.forgotten] := by
  intro w
  have done := reset_apply inProcess address w
  rw [bind_apply, done]
  exact ⟨_, .deed (.forgotten done), rfl, rfl⟩

theorem resetFor_tells (e : Event) : Tells setup (resetFor setup e) Told := by
  refine (forget_tells inProcess e.address _).weaken fun result deeds ⟨answer, done⟩ => ?_
  rw [answer, done]
  exact told_unsaved (by decide) rfl

theorem handleLocked_tells (e : Event) : Tells setup (handleLocked setup e) Told := by
  have triggers : ∀ flows, Tells setup (trigger setup e flows) Told := fun flows =>
    (trigger_tells inProcess e flows).weaken fun result deeds ⟨o, peaceful, empty, begins⟩ =>
      begins.told peaceful empty
  unfold handleLocked
  split
  · exact resetFor_tells inProcess e
  · rw [active_eq inProcess]
    refine .afterReading (.look _) fun flows => ?_
    split
    · rw [find_eq inProcess]
      refine .afterReading (.look _) fun found => ?_
      split
      · split
        · refine (abandonAll_tells inProcess e.address).bind ?_ ?_
          · intro fault deeds unchanged
            rw [unchanged]
            exact failed_idly fault
          · intro n former ended
            subst ended
            refine (trigger_tells inProcess e flows).weaken fun result deeds ⟨o, peaceful, empty, begins⟩ => ?_
            have sent : o.actions = o.actions ++ (savedRuns [.ended]).flatMap RunResult.actions :=
              (List.append_nil _).symm
            have one : ∀ d ∈ [Deed.ended], d.IsFlowWork := forall_mem_one trivial
            exact (begins.after one rfl sent).told peaceful empty
        · exact continueSession_tells inProcess e _ _
      · exact triggers flows
    · exact triggers flows

theorem waitingIn?_reads (s : Session) : Reads (waitingIn? setup s) := by
  unfold waitingIn?
  refine (flow?_reads inProcess s.flowId).bind fun found => ?_
  cases found <;> exact .pure _

theorem resumeLocked_tells (now : Instant) (id : String) : Tells setup (resumeLocked setup now id) Told := by
  have stale : Told (.ok ⟨.stale, [id], []⟩) [] := told_unsaved (by decide) rfl
  unfold resumeLocked
  rw [get_eq inProcess]
  refine .afterReading (.look _) fun read => ?_
  cases read with
  | none => exact .pure stale
  | some s =>
    refine .afterReading (waitingIn?_reads inProcess s) fun waits => ?_
    split
    · split
      · exact .pure (told_unsaved (by decide) rfl)
      · refine .afterCalm (.check _) failed_idly fun options _ _ => ?_
        refine .afterCalm (.running _) failed_idly fun r w ran => ?_
        obtain ⟨rolls, rest, ran⟩ := running_ok ran
        have takesOn : TakesOn s r := .resume ran
        refine (commit_tells takesOn).bind (fun fault deeds answered => answered.told) ?_
        intro accepted former answered
        rcases answered with ⟨done, rfl⟩ | ⟨undone, rfl⟩
        · cases done
          exact followed_tells inProcess (by decide)
        · cases accepted with
          | true => exact absurd rfl undone
          | false => exact .pure stale.afterRefused
    · exact .pure stale

end

/-- The part of the outside in which it shows that something was sent. -/
def sendings (o : Outside) : List Post × List Letter × List Pause := (o.posts, o.letters, o.pauses)

theorem mute_of_sendings {o after : Outside} (same : sendings after = sendings o) : Mute o after := by
  simp only [sendings, Prod.mk.injEq] at same
  exact ⟨same.1, same.2.1, same.2.2⟩

theorem sendings_apart : Apart setup sendings := ⟨fun _ _ => rfl, fun _ _ => rfl, fun _ _ _ => rfl⟩

theorem enterLock_mute (name : String) (seconds : Amount) (task : Nat) (o : Outside) :
    Mute o (Cache.enterLock setup.link lobby name seconds task o).2 :=
  mute_of_sendings (sendings_apart.enterLock name seconds task o)

theorem leaveLock_mute (name : String) (task : Nat) (hold : Cache.Hold) (o : Outside) :
    Mute o (Cache.leaveLock setup.link lobby name task hold o).2 :=
  mute_of_sendings (sendings_apart.leaveLock name task hold o)

theorem isDuplicate_mute (delivery : String) (seconds : Amount) (o : Outside) :
    Mute o (Cache.isDuplicate setup.link dedupeBreaker setup.reading delivery seconds o).2 :=
  mute_of_sendings (sendings_apart.isDuplicate delivery seconds o)

theorem withLock_tells {address : String} {work : Work Outcome} {post : Except Fault Outcome → List Deed → Prop}
    (tells : Tells setup work post) : Tells setup (withLock setup address work) post := by
  unfold withLock
  refine .afterOutside (enterLock_mute _ _ _) fun hold => ?_
  exact tells.finally' (.onOutside (leaveLock_mute _ _ _))

/-- How a call ends after some deeds: it hands over what the outcome tells, or nothing at all. -/
inductive Ends (setup : Setup) (deeds : List Deed) (middle : World) : Except Fault Outcome × World → Prop where
  | handed {o after} (told : Told (.ok o) deeds) (delivered : deliver setup o middle = (.ok o, after)) :
      Ends setup deeds middle (.ok o, after)
  | conflicted {fault after} (told : Told (.error fault) deeds) (quiet : Quiet middle after) :
      Ends setup deeds middle (.ok ⟨.conflict, [], []⟩, after)
  | failed {fault} (told : Told (.error fault) deeds) : Ends setup deeds middle (.error fault, middle)

def Concludes (setup : Setup) (work : Work Outcome) : Prop :=
  ∀ w, ∃ deeds middle, Course setup w deeds middle ∧ Ends setup deeds middle (work w)

theorem deliver_ok (o : Outcome) (w : World) : (deliver setup o w).1 = .ok o := by
  unfold deliver
  dsimp only
  split <;> rfl

theorem handed {o : Outcome} {deeds : List Deed} {middle : World} (told : Told (.ok o) deeds) :
    Ends setup deeds middle (deliver setup o middle) := by
  have delivered : deliver setup o middle = (.ok o, (deliver setup o middle).2) := Prod.ext (deliver_ok o middle) rfl
  rw [delivered]
  exact .handed told delivered

theorem deliver_nothing {o : Outcome} (empty : o.actions = []) (w : World) : deliver setup o w = (.ok o, w) := by
  unfold deliver
  rw [empty]
  rfl

namespace Concludes

theorem deliver {work : Work Outcome} (tells : Tells setup work Told) :
    Concludes setup (work >>= Conversation.deliver setup) := by
  intro w
  obtain ⟨deeds, course, told⟩ := tells w
  rw [bind_apply]
  rcases done : work w with ⟨fault | o, middle⟩ <;> rw [done] at course told
  · exact ⟨deeds, middle, course, .failed told⟩
  · exact ⟨deeds, middle, course, handed told⟩

/-- An outcome without actions is as good as handed over. -/
theorem undelivered {work : Work Outcome}
    (tells : Tells setup work fun result deeds => ∃ o, result = .ok o ∧ o.actions = [] ∧ Told (.ok o) deeds) :
    Concludes setup work := by
  intro w
  obtain ⟨deeds, course, o, answer, empty, told⟩ := tells w
  have done : work w = (.ok o, (work w).2) := Prod.ext answer rfl
  refine ⟨deeds, (work w).2, course, ?_⟩
  rw [done]
  exact .handed told (deliver_nothing empty _)

theorem silent {status : OutcomeStatus} {ids : List String} (peaceful : status ≠ .conflict) :
    Concludes setup (pure ⟨status, ids, []⟩) :=
  undelivered (.pure ⟨_, rfl, rfl, told_unsaved peaceful rfl⟩)

theorem fail (fault : Fault) : Concludes setup (Work.fail fault) :=
  fun w => ⟨[], w, .quiet (.refl w), .failed (failed_idly fault)⟩

theorem afterReading {α : Type} {work : Work α} {next : α → Work Outcome} (reads : Reads work)
    (rest : ∀ a, Concludes setup (next a)) : Concludes setup (work >>= next) := by
  intro w
  obtain ⟨a, read⟩ := reads w
  rw [bind_apply, read]
  exact rest a w

theorem afterCalm {α : Type} {work : Work α} {next : α → Work Outcome} (calm : Calm work)
    (rest : ∀ a, Concludes setup (next a)) : Concludes setup (work >>= next) := by
  intro w
  have before := calm w
  rw [bind_apply]
  rcases done : work w with ⟨fault | a, middle⟩ <;> rw [done] at before
  · exact ⟨[], middle, .quiet before, .failed (failed_idly fault)⟩
  · obtain ⟨deeds, last, course, ends⟩ := rest a middle
    exact ⟨[] ++ deeds, last, (Course.quiet before).trans course, ends⟩

end Concludes

theorem alert_quiet (severity error : String) (context : Fields) (w : World) :
    Quiet w (Work.onOutside (Outside.raiseAlert setup severity error context) w).2 := by
  have mute : ∀ o, Mute o (Outside.raiseAlert setup severity error context o).2 := by
    intro o
    unfold Outside.raiseAlert
    change Mute o (if setup.hasAlerting && setup.utcNow.isOk then _ else _)
    split <;> exact ⟨rfl, rfl, rfl⟩
  exact Calm.onOutside mute w

section
variable (inProcess : setup.hasDatabase = false)
include inProcess

theorem handleEvent_concludes (e : Event) : Concludes setup (handleEvent setup e) := by
  unfold handleEvent handleFor
  dsimp only
  split
  · exact .silent (by decide)
  · have looked : Calm (wasSeen setup { e with address := Phone.normalize e.address }) := by
      unfold wasSeen
      split
      · exact .onOutside (isDuplicate_mute _ _)
      · exact .pure _
    refine .afterCalm looked fun seen => ?_
    split
    · exact .silent (by decide)
    · intro w
      obtain ⟨deeds, course, told⟩ :=
        withLock_tells (handleLocked_tells inProcess { e with address := Phone.normalize e.address }) w
      rw [bind_apply]
      simp only [Work.attempt]
      rcases done : withLock setup (Phone.normalize e.address)
        (handleLocked setup { e with address := Phone.normalize e.address }) w with ⟨fault | o, middle⟩ <;>
        rw [done] at course told
      · dsimp only
        split
        · exact ⟨deeds, middle, course, .conflicted told (alert_quiet _ _ _ middle)⟩
        · exact ⟨deeds, middle, course, .failed told⟩
      · exact ⟨deeds, middle, course, handed told⟩

theorem startFlow_concludes (flowId address : String) (vars : Fields) :
    Concludes setup (startFlow setup flowId address vars) := by
  unfold startFlow startFound
  refine .afterReading (flow?_reads inProcess flowId) fun found => ?_
  cases found with
  | none => exact .fail _
  | some f =>
    refine .deliver (withLock_tells ?_)
    refine (start_tells inProcess _ _ _ _ _ _).weaken fun result deeds begins => ?_
    exact begins.told (by decide) rfl

theorem continueFlow_concludes (address flowId text : String) (replyId : Option String) :
    Concludes setup (continueFlow setup address flowId text replyId) := by
  unfold continueFlow continueFound
  refine .deliver (withLock_tells ?_)
  simp only [Store.findForFlowGiven, Store.lookUpKey, findForFlow_eq inProcess]
  refine .afterReading (.look _) fun found => ?_
  cases found.filter Session.isActive with
  | none => exact .fail (failed_idly _)
  | some s => exact .afterCalm (.check _) failed_idly fun e _ _ => continueSession_tells inProcess e _ s

theorem resumeAsOf_concludes (now : Instant) (id : String) : Concludes setup (resumeAsOf setup now id) := by
  unfold resumeAsOf resumeFound
  rw [get_eq inProcess]
  refine .afterReading (.look _) fun read => ?_
  cases read with
  | none => exact .silent (by decide)
  | some s => exact .deliver (withLock_tells (resumeLocked_tells inProcess now id))

theorem reset_concludes (address : String) : Concludes setup (Conversation.reset setup address) := by
  refine .undelivered (withLock_tells ?_)
  refine (forget_tells inProcess _ _).weaken fun result deeds ⟨answer, done⟩ => ⟨_, answer, rfl, ?_⟩
  rw [done]
  exact told_unsaved (by decide) rfl

theorem call_concludes (call : Call) : Concludes setup (call.perform setup) := by
  cases call with
  | event e => exact handleEvent_concludes inProcess e
  | startFlow flowId address vars => exact startFlow_concludes inProcess flowId address vars
  | continueFlow address flowId text replyId => exact continueFlow_concludes inProcess address flowId text replyId
  | resume id now =>
    cases now with
    | some now => exact resumeAsOf_concludes inProcess now id
    | none => exact .afterCalm (.check _) fun now => resumeAsOf_concludes inProcess now id
  | reset address => exact reset_concludes inProcess address

end

end Chatflow.Proofs.CallCourses
