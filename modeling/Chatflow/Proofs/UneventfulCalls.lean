import Chatflow.Proofs.EventPaths
import Chatflow.Proofs.NumberedOptions

/-! Calls that tell of nothing. Where a call has nothing to do, finds that its session has moved on, or gets no reply from an
agent, it leaves all records as they were. The contact may be told that a reply was not understood, or that the agent could
not answer; nothing else goes out. -/

namespace Chatflow.Proofs.UneventfulCalls
open Conversation Interpreter SessionTable StoredSessions InProcessStore WorkLogic ReplyRuns AgentTurns StoreInvariants
  CallCourses ConversationOrder ResumedWaits EventPaths ReachableStates

variable {α : Type} {setup : Setup} {t : SessionTable} {s : Session} {o : Outcome} {work : Work Outcome}

def idleStatuses : List OutcomeStatus := [.ignored, .duplicate, .waiting, .notDue, .notFound, .stale, .aiFailed]

/-- An outcome that tells of nothing that happened. That nothing matched counts only where there is a session; without one
it says that no flow was triggered. -/
def Uneventful (o : Outcome) : Prop := o.status ∈ idleStatuses ∨ (o.status = .noMatch ∧ o.sessionIds ≠ [])

instance (o : Outcome) : Decidable (Uneventful o) := inferInstanceAs (Decidable (_ ∨ _))

/-- A session takes part in a conversation, and one text is sent for it. -/
def OneText (t : SessionTable) (text : String) (o : Outcome) : Prop :=
  ∃ s ∈ t.sessions, s.isActive = true ∧ o.sessionIds = [s.id] ∧ o.actions = [textFor s text]

/-- What the contact is told where nothing happened. -/
def Replies (t : SessionTable) (o : Outcome) : Prop :=
  match o.status with
  | .noMatch => OneText t Wording.invalidOption o
  | .aiFailed => OneText t Wording.aiFallbackReply o
  | _ => o.actions = []

/-- The stored sessions are these, and nobody else writes. -/
structure Holds (t : SessionTable) (w : World) : Prop where
  table : w.table = t
  alone : w.foreign = []

theorem Holds.settled : Settled (Holds t) :=
  fun beside holds => ⟨beside.table.trans holds.table, beside.foreign.trans holds.alone⟩

/-- Whoever has this outcome finds the stored sessions as they were, unless it tells of something. -/
def Left (t : SessionTable) (o : Outcome) (w : World) : Prop := Uneventful o → w.table = t ∧ Replies t o

theorem Left.settled (o : Outcome) : Settled (Left t o) :=
  fun beside left uneventful => ⟨beside.table.trans (left uneventful).1, (left uneventful).2⟩

/-- Work that leaves the stored sessions as they are, if its outcome tells of nothing. -/
abbrev Rests (t : SessionTable) (work : Work Outcome) : Prop := Keeps (fun _ => True) (Holds t) work (Left t)

theorem settled_anything : Settled fun _ => True := fun _ _ => trivial

/-- Work that leaves the stored sessions alone may come before. -/
theorem afterAside {β : Type} {post : β → World → Prop} {work : Work α} {next : α → Work β} (aside : Aside work)
    (rest : ∀ a before, (work before).1 = .ok a → Keeps (fun _ => True) (Holds t) (next a) post) :
    Keeps (fun _ => True) (Holds t) (work >>= next) post :=
  aside.andThen settled_anything Holds.settled rest

/-- So may work that looks something up among the stored sessions. -/
theorem afterLook (look : SessionTable → α) {next : α → Work Outcome} (rest : Rests t (next (look t))) :
    Rests t ((Work.look fun w => look w.table) >>= next) := by
  intro w _ holds
  rw [bind_apply]
  simp only [Work.look, holds.table]
  exact rest w trivial holds

namespace Rests

theorem still {status : OutcomeStatus} {ids : List String} {actions : List Action}
    (replies : Replies t ⟨status, ids, actions⟩) : Rests t (pure ⟨status, ids, actions⟩) :=
  .pure fun _ _ holds _ => ⟨holds.table, replies⟩

theorem eventful {pre : World → Prop} (tells : Yields (fun o => ¬ Uneventful o) work) :
    Keeps (fun _ => True) pre work (Left t) :=
  fun w _ _ => ⟨trivial, fun o done uneventful => absurd uneventful ((tells w trivial trivial).2 o done)⟩

theorem underLock (rests : Rests t work) (address : String) : Rests t (withLock setup address work) := by
  refine afterAside (.onOutside _) fun hold _ _ => rests.finally' (fun _ _ => trivial) fun o w _ left => ?_
  exact Left.settled o (Aside.onOutside _ w) left

theorem deliver (o : Outcome) : Keeps (fun _ => True) (Left t o) (deliver setup o) (Left t) := by
  refine fun w _ left => ⟨trivial, fun told answer => ?_⟩
  rw [deliver_ok] at answer
  cases answer
  exact Left.settled o (deliver_aside o w) left

theorem delivered (rests : Rests t work) : Rests t (work >>= Conversation.deliver setup) := rests.bind fun o => deliver o

end Rests

theorem not_uneventful (status : OutcomeStatus) (told : status ∉ .noMatch :: idleStatuses) (same : o.status = status) :
    ¬ Uneventful o := by
  subst same
  rintro (listed | ⟨unmatched, _⟩)
  · exact told (List.mem_cons_of_mem _ listed)
  · exact told (by rw [unmatched]; exact List.mem_cons_self)

/-! Flows that are started tell of something. -/

section
variable (inProcess : setup.hasDatabase = false)
include inProcess

theorem start_yields_started (address : String) (left : Nat) (f : Flow) (vars : Fields) (deviceId firstStep : Option String) :
    Yields (fun o => o.status = .started) (start setup address left f vars deviceId firstStep) := by
  refine fun w _ _ => ⟨trivial, fun o done => ?_⟩
  obtain ⟨deeds, _, begins⟩ := start_tells inProcess address left f vars deviceId firstStep w
  rw [done] at begins
  exact begins.2.1

omit inProcess in
theorem trigger_yields (e : Event) (flows : List Flow) : Yields (fun o => ¬ Uneventful o) (trigger setup e flows) := by
  refine anyway.bind fun prior => ?_
  dsimp only
  split
  · exact .pure fun _ _ _ uneventful => by simp [Uneventful, idleStatuses] at uneventful
  · refine (startAll_yields e _ ⟨.started, [], []⟩).weaken (fun _ _ _ => trivial) fun o _ _ ⟨status, _⟩ => ?_
    exact not_uneventful _ (by decide) status

/-! What is done for a session that is stored. -/

theorem commit_rests (r : RunResult) :
    Keeps (fun _ => True) (Holds t) (commit setup s r) fun accepted w => accepted = false → Holds t w := by
  refine fun w _ holds => ⟨trivial, fun accepted done refused => ?_⟩
  have same : (commit setup s r w).2 = w :=
    swap_unaccepted inProcess holds.alone (Prod.ext done rfl) (by rw [refused]; exact fun impossible => by cases impossible)
  rwa [same]

/-- A turn that fails is told by one text, and any other turn is told of. -/
theorem continueWithAgent_rests (member : s ∈ t.sessions) (active : s.isActive = true) (e : Event) :
    Rests t (continueWithAgent setup s e) := by
  have owner : Aside (ownerOf setup s) := fun w => by
    obtain ⟨agent, read⟩ := ownerOf_reads inProcess s w
    rw [read]
    exact .refl w
  unfold continueWithAgent
  refine afterAside owner fun agent _ _ => afterAside (.tryOutside _) fun ⟨turn, updated⟩ before took => ?_
  dsimp only
  cases failed : turn.failed with
  | false =>
    refine Rests.eventful (anyway.bind fun _ => .pure fun _ _ _ => ?_)
    cases ended : turn.ended with
    | true => exact not_uneventful .aiHandoff (by decide) (by simp [turnStatus, failed, ended])
    | false => exact not_uneventful .aiReply (by decide) (by simp [turnStatus, failed, ended])
  | true =>
    have same : turn = Delegate.failure := handleTurn_failed (Prod.ext took rfl) failed
    subst same
    exact Rests.still ⟨s, member, active, rfl, rfl⟩

/-- A try at a reply comes to nothing if the session has moved on, and then the stored sessions are as they were. -/
theorem tryReply_rests (member : s ∈ t.sessions) (active : s.isActive = true) (f : Flow) (e : Event) :
    Keeps (fun _ => True) (Holds t) (tryReply setup f s e) fun found w => match found with
      | some o => Left t o w
      | none => Holds t w := by
  unfold tryReply
  refine afterAside (runReply_aside f s e) fun found _ _ => ?_
  cases found with
  | none => exact .pure fun _ _ holds _ => ⟨holds.table, s, member, active, rfl, rfl⟩
  | some r =>
    refine (commit_rests inProcess r).bind fun accepted => ?_
    cases accepted with
    | false => exact .pure fun _ _ refused => refused rfl
    | true =>
      have goesOn : Yields (fun o : Outcome => o.status = .continued)
          (follow setup s.address r ⟨.continued, [s.id], r.actions⟩) :=
        fun w _ _ => ⟨trivial, fun o done => follow_status (Prod.ext done rfl)⟩
      refine .requiring (fun _ _ _ => trivial) (goesOn.bind fun o => .pure fun _ _ status => ?_)
      exact fun uneventful => absurd uneventful (not_uneventful _ (by decide) status)

/-- The induction is on the looks that are left. Each look but the last finds the stored sessions as they were. -/
theorem continueSession_rests (member : s ∈ t.sessions) (active : s.isActive = true) (e : Event) (left : Nat) :
    Rests t (continueSession setup e left s) := by
  induction left generalizing s with
  | zero => exact .fail
  | succ left ih =>
    unfold continueSession
    refine afterAside (flow?_aside inProcess s.flowId) fun found _ _ => ?_
    cases found with
    | none => exact Rests.eventful (anyway.bind fun _ => .pure fun _ _ _ => not_uneventful .flowMissing (by decide) rfl)
    | some f =>
      dsimp only
      split
      · exact continueWithAgent_rests inProcess member active e
      · split
        · exact Rests.still rfl
        · refine (tryReply_rests inProcess member active f e).bind fun outcome => ?_
          cases outcome with
          | some o => exact .pure fun _ _ left => left
          | none =>
            rw [get_eq inProcess]
            refine afterLook (fun t => t.get? s.id) ?_
            cases read : (t.get? s.id).filter Session.isActive with
            | none => exact Rests.still rfl
            | some current =>
              obtain ⟨stored, going⟩ := Option.filter_eq_some_iff.mp read
              exact ih (get?_mem stored) going

theorem resumeLocked_rests (now : Instant) (id : String) : Rests t (resumeLocked setup now id) := by
  unfold resumeLocked
  rw [get_eq inProcess]
  refine afterLook (fun t => t.get? id) ?_
  cases t.get? id with
  | none => exact Rests.still rfl
  | some s =>
    have waits : Aside (waitingIn? setup s) := fun w => by
      rw [waitingIn?_apply inProcess]
      exact .refl w
    refine afterAside waits fun waited _ _ => ?_
    split
    · split
      · exact Rests.still rfl
      · refine afterAside (.check _) fun options _ _ => afterAside (running_aside _) fun r _ _ => ?_
        refine (commit_rests inProcess r).bind fun accepted => ?_
        cases accepted with
        | false => exact .pure fun _ _ refused _ => ⟨(refused rfl).table, rfl⟩
        | true =>
          refine .requiring (fun _ _ _ => trivial) fun w _ _ => ⟨trivial, fun o done uneventful => ?_⟩
          have status : o.status = .resumed := follow_status (Prod.ext done rfl)
          exact absurd uneventful (not_uneventful _ (by decide) status)
    · exact Rests.still rfl

/-! Calls. -/

theorem handleLocked_rests (e : Event) : Rests t (handleLocked setup e) := by
  unfold handleLocked
  split
  · exact Rests.eventful (anyway.bind fun _ => .pure fun _ _ _ => not_uneventful .reset (by decide) rfl)
  · refine afterAside (by rw [active_eq inProcess]; exact .look _) fun flows _ _ => ?_
    split
    · rw [find_eq inProcess]
      refine afterLook (fun t => t.find? e.address) ?_
      cases read : (t.find? e.address).filter Session.isActive with
      | none => exact Rests.eventful (trigger_yields e flows)
      | some s =>
        obtain ⟨found, active⟩ := Option.filter_eq_some_iff.mp read
        dsimp only
        split
        · exact Rests.eventful (anyway.andThen fun _ _ => trigger_yields e flows)
        · exact continueSession_rests inProcess (find?_mem found) active e _
    · exact Rests.eventful (trigger_yields e flows)

theorem handleEvent_rests (e : Event) : Rests t (handleEvent setup e) := by
  unfold handleEvent
  dsimp only
  split
  · exact Rests.still rfl
  · unfold handleFor
    refine afterAside (wasSeen_aside _) fun seen _ _ => ?_
    cases seen with
    | true => exact Rests.still rfl
    | false =>
      refine ((handleLocked_rests inProcess _).underLock _).attempt.bind fun result => ?_
      cases result with
      | ok o => exact .requiring (fun _ _ decided => decided o rfl) (Rests.deliver o)
      | error fault =>
        dsimp only
        split
        · exact Rests.eventful (anyway.bind fun _ => .pure fun _ _ _ => not_uneventful .conflict (by decide) rfl)
        · exact .fail

theorem continueFlow_rests (address flowId text : String) (replyId : Option String) :
    Rests t (continueFlow setup address flowId text replyId) := by
  refine Rests.delivered (Rests.underLock ?_ _)
  simp only [Store.findForFlowGiven, Store.lookUpKey]
  rw [findForFlow_eq inProcess]
  refine afterLook (fun t => t.findForFlow? ⟨Phone.normalize address, flowId⟩) ?_
  cases read : (t.findForFlow? ⟨Phone.normalize address, flowId⟩).filter Session.isActive with
  | none => exact .fail
  | some s =>
    obtain ⟨found, active⟩ := Option.filter_eq_some_iff.mp read
    exact afterAside (.check _) fun e _ _ => continueSession_rests inProcess (findForFlow?_mem found) active e _

theorem resumeAsOf_rests (now : Instant) (id : String) : Rests t (resumeAsOf setup now id) := by
  unfold resumeAsOf
  rw [get_eq inProcess]
  refine afterLook (fun t => t.get? id) ?_
  cases t.get? id with
  | none => exact Rests.still rfl
  | some s => exact Rests.delivered (Rests.underLock (resumeLocked_rests inProcess now id) _)

theorem startFlow_rests (flowId address : String) (vars : Fields) : Rests t (startFlow setup flowId address vars) := by
  refine afterAside (flow?_aside inProcess flowId) fun found _ _ => ?_
  cases found with
  | none => exact .fail
  | some f =>
    refine Rests.delivered (Rests.underLock (Rests.eventful (anyway.andThen fun vars _ => ?_)) _)
    exact (start_yields_started inProcess _ _ f _ none none).weaken (fun _ _ _ => trivial) fun o _ _ status =>
      not_uneventful .started (by decide) status

theorem call_rests (call : Call) : Rests t (call.perform setup) := by
  cases call with
  | event e => exact handleEvent_rests inProcess e
  | startFlow flowId address vars => exact startFlow_rests inProcess flowId address vars
  | continueFlow address flowId text replyId => exact continueFlow_rests inProcess address flowId text replyId
  | resume id now =>
    cases now with
    | some now => exact resumeAsOf_rests inProcess now id
    | none => exact afterAside (.check _) fun now _ _ => resumeAsOf_rests inProcess now id
  | reset address =>
    exact Rests.underLock (Rests.eventful (anyway.bind fun _ => .pure fun _ _ _ => not_uneventful .reset (by decide) rfl)) _

end

/-- Where a call tells of nothing that happened, while nobody else writes, every record is as it was. Nothing goes out but
one text for a session: that its reply was not understood, or that the agent could not answer. -/
theorem uneventful_call_changes_no_record {w after : World} (inProcess : setup.hasDatabase = false)
    (alone : w.foreign = []) {call : Call} (done : call.perform setup w = (.ok o, after)) (uneventful : Uneventful o) :
    after.table = w.table ∧ Replies w.table o := by
  have left := (call_rests (t := w.table) inProcess call w trivial ⟨rfl, alone⟩).2 o (congrArg Prod.fst done) uneventful
  rwa [done] at left

/-- A guest who is asked for a drink. -/
def guest : Session := { RunEndings.newcomer NumberedOptions.bar with currentStep := some "ask" }

def taproom : World :=
  { table := ⟨[(guest.key, guest)]⟩, catalogue := Catalogue.ofLists [NumberedOptions.bar] [], nextSession := 2 }

def mumble : Event := { address := "+5215512345678", text := "No idea" }

theorem mumbled_order_changes_nothing :
    ∃ o after, Call.perform (aloneAt ⟨5, 0⟩) (.event mumble) taproom = (.ok o, after) ∧ Uneventful o ∧
      after.table = taproom.table ∧ o.actions = [textFor guest Wording.invalidOption] := by
  have unmatched : (Call.perform (aloneAt ⟨5, 0⟩) (.event mumble) taproom).1.toOption.map (fun o => (o.status, o.sessionIds)) =
      some (.noMatch, ["s1"]) := by decide +kernel
  rcases done : Call.perform (aloneAt ⟨5, 0⟩) (.event mumble) taproom with ⟨fault | o, after⟩ <;> rw [done] at unmatched
  · cases unmatched
  · simp only [Except.toOption, Option.map_some, Option.some.injEq, Prod.mk.injEq] at unmatched
    obtain ⟨status, ids⟩ := unmatched
    have uneventful : Uneventful o := Or.inr ⟨status, by rw [ids]; exact List.cons_ne_nil _ _⟩
    obtain ⟨same, told⟩ := uneventful_call_changes_no_record rfl rfl done uneventful
    simp only [Replies, status] at told
    obtain ⟨s, member, _, _, actions⟩ := told
    rw [List.mem_singleton.mp (member : s ∈ [guest])] at actions
    exact ⟨o, after, rfl, uneventful, same, actions⟩

end Chatflow.Proofs.UneventfulCalls
