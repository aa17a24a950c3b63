import Chatflow.Proofs.FiledSessions
import Chatflow.Proofs.ResumedWaits

/-! Sessions that are over. Whatever ends a session leaves nothing to take it up by, except that a session whose flow is
found missing when a reply comes in keeps the wait, or the AI agent, that it had. -/

namespace Chatflow.Proofs.CompletedSessions
open Conversation Interpreter StepEffects RunEndings AgentTurns ParkedSessions SessionTable StoredSessions InProcessStore
  ConfirmedResets IdleWork OrderlySessions LastingInvariants LastingRequests FiledSessions ReachableStates ResumedWaits
  WorkLogic

variable {setup : Setup} {f : Flow} {s former : Session} {r : RunResult} {w : World}

/-- Nothing is left to take a session up by: no step, no wait, and no AI agent as its owner. -/
structure Detached (s : Session) : Prop where
  place : s.currentStep = none
  resumeAt : s.resumeAt = none
  resumeStep : s.resumeStep = none
  owner : ¬ OwnedByAi s

/-- A session was ended because its flow was missing. -/
def LostFlow (s : Session) : Prop := s.diagnostic = some Diagnostic.missingFlow.name

/-- What is true of every session that is stored. -/
structure Coherent (s : Session) : Prop where
  owned : OwnedByAi s → s.resumeAt = none
  paired : s.resumeAt = none → s.resumeStep = none
  ongoing : s.status = .active → ¬ LostFlow s
  gone : s.status = .completed → s.currentStep = none
  detached : s.status = .completed → ¬ LostFlow s → Detached s

/-- Only a step that gives a conversation to an AI agent leaves one as the owner. -/
theorem run_owned {options : RunOptions} {now : Instant} {rolls rest : List Float} {start : Option String}
    (ran : run f options now s rolls start = (.ok r, rest)) (free : ¬ OwnedByAi s) (owned : OwnedByAi r.session) :
    r.session.status = .active ∧ r.session.resumeAt = none := by
  obtain ⟨ended, rfl, _, reached, passed, concludes⟩ := run_concludes ran
  have unowned : ¬ OwnedByAi reached := not_ownedByAi_of_passed passed free
  have still : reached.resumeAt = none := by
    obtain ⟨vars, owner, turns, rfl, _⟩ := passed
    rfl
  revert concludes
  cases (trail f options now options.maxSteps s.fresh rolls start).2 with
  | finished | exhausted | lost =>
    intro concludes
    rw [OwnedByAi, concludes.1] at owned
    exact absurd owned unowned
  | stopped =>
    rintro ⟨step, earlier, final, _, _, _, does⟩
    rcases ended with ⟨actions, left, directive, executed⟩
    cases does with
    | asks | waits | chains | refuses | lacksAgent => exact absurd owned unowned
    | hands => exact ⟨rfl, still⟩

theorem diagnostic_ne_missingFlow (options : RunOptions) (halt : Halt) (last : Option Step) :
    halt.diagnostic? options last ≠ some .missingFlow := by
  unfold Halt.diagnostic?
  split
  · simp
  · simp
  · simp
  · split
    · simp
    · simp
    · split <;> simp
    · simp

theorem run_finds_flow {options : RunOptions} {now : Instant} {rolls rest : List Float} {start : Option String}
    (ran : run f options now s rolls start = (.ok r, rest)) : ¬ LostFlow r.session := by
  obtain ⟨_, told⟩ := run_fits ran
  intro lost
  obtain ⟨diagnostic, same, name⟩ := Option.map_eq_some_iff.mp (told.symm.trans lost)
  obtain rfl : diagnostic = .missingFlow := by cases diagnostic <;> first | rfl | simp [Diagnostic.name] at name
  exact diagnostic_ne_missingFlow _ _ _ same

theorem run_coherent {options : RunOptions} {now : Instant} {rolls rest : List Float} {start : Option String}
    (ran : run f options now s rolls start = (.ok r, rest)) (free : ¬ OwnedByAi s) : Coherent r.session := by
  obtain ⟨⟨ending, fits⟩, _⟩ := run_fits ran
  have owned := run_owned ran free
  have ended : r.session.status = .completed → r.session.currentStep = none ∧ Unscheduled r.session := by
    intro completed
    cases ending with
    | completed => exact ⟨fits.2.1, fits.2.2.1⟩
    | asking =>
      obtain ⟨step, content, parked, _⟩ := fits
      cases parked.active.symm.trans completed
    | waiting =>
      obtain ⟨step, c, dueAt, parked, _⟩ := fits
      cases parked.active.symm.trans completed
    | handed =>
      obtain ⟨step, c, agent, parked, _⟩ := fits
      cases parked.active.symm.trans completed
  refine ⟨fun given => (owned given).2, fun unawaited => ?_, fun _ => run_finds_flow ran,
    fun completed => (ended completed).1, fun completed _ => ?_⟩
  · cases ending with
    | completed => exact fits.2.2.1.resumeStep
    | asking =>
      obtain ⟨step, content, _, still, _⟩ := fits
      exact still.resumeStep
    | waiting =>
      obtain ⟨step, c, dueAt, _, _, _, awaited, _⟩ := fits
      cases awaited.symm.trans unawaited
    | handed =>
      obtain ⟨step, c, agent, _, still, _⟩ := fits
      exact still.resumeStep
  · obtain ⟨place, unscheduled⟩ := ended completed
    refine ⟨place, unscheduled.resumeAt, unscheduled.resumeStep, fun given => ?_⟩
    cases (owned given).1.symm.trans completed

/-- Only the fields by which a session is taken up or told to be over matter. -/
theorem Coherent.congr {other : Session} (coherent : Coherent s) (place : other.currentStep = s.currentStep)
    (status : other.status = s.status) (owner : other.assignee = s.assignee) (resumeAt : other.resumeAt = s.resumeAt)
    (resumeStep : other.resumeStep = s.resumeStep) (diagnostic : other.diagnostic = s.diagnostic) : Coherent other := by
  obtain ⟨owned, paired, ongoing, gone, detached⟩ := coherent
  constructor
  · rwa [OwnedByAi, owner, resumeAt]
  · rwa [resumeAt, resumeStep]
  · rwa [LostFlow, status, diagnostic]
  · rwa [status, place]
  · intro ended found
    rw [LostFlow, diagnostic] at found
    rw [status] at ended
    obtain ⟨gone, unawaited, nowhere, unowned⟩ := detached ended found
    exact ⟨place.trans gone, resumeAt.trans unawaited, resumeStep.trans nowhere, by rwa [OwnedByAi, owner]⟩

theorem ownedByAi_of_isAiAssigned (assigned : s.isAiAssigned = true) : OwnedByAi s := by
  obtain ⟨_, owner⟩ := Bool.and_eq_true_iff.mp assigned
  cases given : s.assignee with
  | none => simp [given] at owner
  | some a =>
    obtain ⟨kind, id⟩ := a
    simp only [given, beq_iff_eq] at owner
    subst owner
    exact ⟨id, given⟩

theorem not_ownedByAi_of_vacant (vacant : s.assignee = none) : ¬ OwnedByAi s := by
  rintro ⟨agent, owner⟩
  cases vacant.symm.trans owner

theorem Detached.coherent (detached : Detached s) (completed : s.status = .completed) : Coherent s where
  owned _ := detached.resumeAt
  paired _ := detached.resumeStep
  ongoing active := by cases completed.symm.trans active
  gone _ := detached.place
  detached _ _ := detached

theorem coherent_lawful : Lawful (fun _ _ => True) Coherent where
  made _ _ _ _ _ := by
    refine ⟨fun owned => absurd owned (not_ownedByAi_of_vacant rfl), fun _ => rfl, fun _ lost => ?_,
      fun completed => ?_, fun completed => ?_⟩
    · cases lost
    · cases completed
    · cases completed
  abandoned _ _ _ := Detached.coherent ⟨rfl, rfl, rfl, not_ownedByAi_of_vacant rfl⟩ rfl
  advanced {s change} coherent advances now := by
    cases advances with
    | @ran f r _ turn ran =>
      -- An AI agent never owns a session that waits, so no run begins with one as the owner.
      have free : ¬ OwnedByAi s := by
        rcases turn with free | waiting
        · exact free
        · intro owned
          simp [Session.isWaiting, coherent.owned owned] at waiting
      obtain ⟨options, began, vars, rolls, rest, start, ran⟩ := ran
      exact (run_coherent ran free).congr rfl rfl rfl rfl rfl rfl
    | @taken ended updated assigned taken =>
      have unawaited := coherent.owned (ownedByAi_of_isAiAssigned assigned)
      rw [taken.saved now]
      cases taken with
      | goesOn vars => exact coherent.congr rfl rfl rfl rfl rfl rfl
      | ends vars =>
        refine Detached.coherent ⟨rfl, unawaited, coherent.paired unawaited, ?_⟩ rfl
        rintro ⟨agent, owner⟩
        cases owner
    | missed active =>
      refine ⟨coherent.owned, coherent.paired, fun active => ?_, fun _ => rfl, fun _ found => absurd rfl found⟩
      cases active

/-- A session whose flow was missing keeps its wait and its owner. -/
theorem detached_missed_iff (coherent : Coherent s) (active : s.isActive = true) (now : Instant) :
    Detached ((missingFlowChange s).apply now s) ↔ s.isWaiting = false ∧ s.isAiAssigned = false := by
  constructor
  · rintro ⟨_, unawaited, _, unowned⟩
    have awake : s.resumeAt = none := unawaited
    have free : ¬ OwnedByAi s := unowned
    exact ⟨by simp [Session.isWaiting, awake], Bool.eq_false_iff.mpr (mt ownedByAi_of_isAiAssigned free)⟩
  · rintro ⟨awake, unassigned⟩
    have unawaited : s.resumeAt = none := by simpa [Session.isWaiting, active] using awake
    refine ⟨rfl, unawaited, coherent.paired unawaited, fun owned => ?_⟩
    rw [isAiAssigned_of_ownedByAi active owned] at unassigned
    cases unassigned

/-- A reply to a session whose flow is missing leaves every session as it was, or ends the one that it is for. -/
theorem missing_flow_leaves {fits : Session → Prop} {left : Session} (kept : Kept fits w) (held : Held setup s w)
    (e : Event) (missing : (Offer.flow? setup s.flowId w).1 = .ok none)
    (there : Held setup left (continueFrom setup s e w).2) :
    Held setup left w ∨ ∃ now, left = (missingFlowChange s).apply now s := by
  unfold continueFrom at there
  cases looks : setup.settings.swapAttempts.toNat with
  | zero =>
    rw [looks] at there
    exact Or.inl there
  | succ more =>
    have unmoved := @flow?_idle setup s.flowId w
    rw [looks, continueSession, bind_apply] at there
    rcases looked : Offer.flow? setup s.flowId w with ⟨found, v⟩
    rw [looked] at there missing unmoved
    dsimp only at missing
    subst missing
    have swapped := @swap_leaves setup fits v s (missingFlowChange s) left (Kept.still unmoved kept)
      ((held_unmoved unmoved).mpr held) rfl
    rw [held_unmoved unmoved] at swapped
    apply swapped
    dsimp only at there
    rw [bind_apply] at there
    rcases done : Store.swap setup s.id s.currentStep (missingFlowChange s) v with ⟨_ | _, last⟩ <;>
      rw [done] at there <;> exact there

/-- A session is as one of the stores has it. -/
def Recorded (s : Session) (w : World) : Prop := s ∈ w.table.sessions ∨ OnFile s w

theorem recorded_of_held (held : Held setup s w) : Recorded s w := by
  unfold Held at held
  split at held
  · exact Or.inr held
  · exact Or.inl held.member

theorem tended_coherent (tended : Tended w) (recorded : Recorded s w) : Coherent s := by
  have kept := tended.kept coherent_lawful
  rcases recorded with member | onFile
  · exact kept.1.fit s member
  · obtain ⟨stored, documents, files⟩ := kept.2
    exact files.fit s (onFile.member documents files.plain)

/-- A record of a session that is over stands nowhere, and is detached unless its flow was found missing. A reply to a
session that is under way finds the flow missing and ends it if it still can; what is left is then detached exactly if the
session neither waited nor belonged to an AI agent. -/
theorem completed_session_detached_unless_flow_lost (tended : Tended w) :
    (∀ document ∈ sessionDocuments w, ∃ s, OnFile s w ∧ document = Documents.Sessions.toDocument s) ∧
    (∀ s, Recorded s w → s.status = .completed → s.currentStep = none ∧ (¬ LostFlow s → Detached s)) ∧
    ∀ (setup : Setup) (e : Event) (s left : Session), Held setup s w → s.isActive = true →
      (Offer.flow? setup s.flowId w).1 = .ok none → Held setup left (continueFrom setup s e w).2 → left.id = s.id →
      left.status = .completed →
        LostFlow left ∧ left.currentStep = none ∧ (Detached left ↔ s.isWaiting = false ∧ s.isAiAssigned = false) := by
  have kept := tended.kept coherent_lawful
  refine ⟨fun document member => ?_, fun s recorded completed => ?_,
    fun setup e s left held active missing there same completed => ?_⟩
  · obtain ⟨stored, documents, files⟩ := kept.2
    have inside := member
    rw [documents] at inside
    obtain ⟨s, filed, rfl⟩ := List.mem_map.mp inside
    exact ⟨s, onFile_of_member documents files.plain filed, rfl⟩
  · have coherent := tended_coherent tended recorded
    exact ⟨coherent.gone completed, coherent.detached completed⟩
  · rcases missing_flow_leaves kept held e missing there with former | ⟨now, rfl⟩
    -- If the swap came to nothing, the session is as it was, and that was under way.
    · rw [held.eq_of_id kept former same] at completed
      simp [Session.isActive, completed] at active
    · exact ⟨rfl, rfl, detached_missed_iff (tended_coherent tended (recorded_of_held held)) active now⟩

/-- A flow that is over as soon as it has begun. -/
def brief : Flow := { id := "brief", steps := [⟨"begin", .start none⟩] }

/-- What is left once a flow was started for a contact. -/
def begun (f : Flow) : World :=
  (Asking.call (.startFlow f.id "+5215512345678" [])).leave (aloneAt ⟨5, 0⟩) (untouched f)

theorem begun_tended (f : Flow) : Tended (begun f) := .asked (.empty rfl rfl rfl) _ _

/-- The flow is then taken off. -/
def withdrawn (f : Flow) : World := { begun f with catalogue := {} }

theorem withdrawn_tended (f : Flow) : Tended (withdrawn f) :=
  .beside (begun_tended f) rfl rfl (begun_tended f).alone (Nat.le_refl _)

def greeting : Event := { address := "+5215512345678", text := "hola" }

theorem brief_detached_nap_not :
    (Tended (begun brief) ∧ (begun brief).table.sessions.map (fun s => (s.status, s.diagnostic)) = [(.completed, none)] ∧
      ∀ s ∈ (begun brief).table.sessions, s.currentStep = none ∧ Detached s) ∧
    Tended (withdrawn napping) ∧ ∃ s left, Held (aloneAt ⟨9, 0⟩) s (withdrawn napping) ∧ s.isActive = true ∧
      Held (aloneAt ⟨9, 0⟩) left (continueFrom (aloneAt ⟨9, 0⟩) s greeting (withdrawn napping)).2 ∧ left.id = s.id ∧
      left.status = .completed ∧ LostFlow left ∧ left.currentStep = none ∧ ¬ Detached left := by
  have records : (begun brief).table.sessions.map (fun s => (s.status, s.diagnostic)) = [(.completed, none)] := by
    decide +kernel
  refine ⟨⟨begun_tended brief, records, ?brief⟩, withdrawn_tended napping, ?nap⟩
  case brief =>
    intro s member
    have told : (s.status, s.diagnostic) ∈ [(SessionStatus.completed, (none : Option String))] := by
      rw [← records]
      exact List.mem_map.mpr ⟨s, member, rfl⟩
    obtain ⟨completed, sound⟩ := Prod.mk.inj (List.mem_singleton.mp told)
    obtain ⟨_, detached, _⟩ := completed_session_detached_unless_flow_lost (begun_tended brief)
    obtain ⟨place, found⟩ := detached s (Or.inl member) completed
    exact ⟨place, found fun lost => by cases sound.symm.trans lost⟩
  case nap =>
    have told : ((withdrawn napping).table.get? "s1").bind (fun s =>
        ((continueFrom (aloneAt ⟨9, 0⟩) s greeting (withdrawn napping)).2.table.get? "s1").map fun left =>
          (s.id, s.isActive, s.isWaiting, left.id, left.status)) = some ("s1", true, true, "s1", .completed) := by
      decide +kernel
    obtain ⟨s, here, told⟩ := Option.bind_eq_some_iff.mp told
    obtain ⟨left, there, told⟩ := Option.map_eq_some_iff.mp told
    simp only [Prod.mk.injEq] at told
    obtain ⟨named, active, waiting, same, completed⟩ := told
    have held : Held (aloneAt ⟨9, 0⟩) s (withdrawn napping) := by
      rw [held_inProcess rfl, Stored, named]
      exact here
    have remains : Held (aloneAt ⟨9, 0⟩) left (continueFrom (aloneAt ⟨9, 0⟩) s greeting (withdrawn napping)).2 := by
      rw [held_inProcess rfl, Stored, same]
      exact there
    have missing : (Offer.flow? (aloneAt ⟨9, 0⟩) s.flowId (withdrawn napping)).1 = .ok none := by
      rw [flow?_eq rfl]
      rfl
    obtain ⟨_, _, ends⟩ := completed_session_detached_unless_flow_lost (withdrawn_tended napping)
    obtain ⟨lost, nowhere, detached⟩ :=
      ends _ greeting s left held active missing remains (same.trans named.symm) completed
    refine ⟨s, left, held, active, remains, same.trans named.symm, completed, lost, nowhere, fun free => ?_⟩
    rw [(detached.mp free).1] at waiting
    cases waiting

/-- The contact writes once the flow is off. -/
def bereft (f : Flow) : World := (Asking.call (.event greeting)).leave (aloneAt ⟨9, 0⟩) (withdrawn f)

theorem bereft_tended (f : Flow) : Tended (bereft f) := (withdrawn_tended f).asked _ _

/-- A session that waited is over and still has the time to be resumed at, and one that an AI agent had still has it. -/
theorem bereft_sessions_not_detached :
    (Tended (bereft napping) ∧ ∃ s, Recorded s (bereft napping) ∧ s.status = .completed ∧
      s.resumeAt = some ⟨300000005, 0⟩ ∧ s.resumeStep = some "nap" ∧ ¬ Detached s) ∧
    Tended (bereft handingFlow) ∧ ∃ s, Recorded s (bereft handingFlow) ∧ s.status = .completed ∧
      s.assignee = some ⟨.ai, some "ana"⟩ ∧ ¬ Detached s := by
  have records : (bereft napping).table.sessions.map (fun s => (s.status, s.resumeAt, s.resumeStep)) =
      [(.completed, some ⟨300000005, 0⟩, some "nap")] := by decide +kernel
  have owners : (bereft handingFlow).table.sessions.map (fun s => (s.status, s.assignee)) =
      [(.completed, some ⟨.ai, some "ana"⟩)] := by decide +kernel
  refine ⟨⟨bereft_tended napping, ?_⟩, bereft_tended handingFlow, ?_⟩
  · obtain ⟨s, member, told⟩ := List.mem_map.mp (records ▸ List.mem_singleton_self _)
    obtain ⟨completed, awaited, next⟩ :
        s.status = .completed ∧ s.resumeAt = some ⟨300000005, 0⟩ ∧ s.resumeStep = some "nap" :=
      ⟨congrArg (·.1) told, congrArg (·.2.1) told, congrArg (·.2.2) told⟩
    exact ⟨s, Or.inl member, completed, awaited, next, fun detached => by cases awaited.symm.trans detached.resumeAt⟩
  · obtain ⟨s, member, told⟩ := List.mem_map.mp (owners ▸ List.mem_singleton_self _)
    obtain ⟨completed, owner⟩ : s.status = .completed ∧ s.assignee = some ⟨.ai, some "ana"⟩ :=
      ⟨congrArg (·.1) told, congrArg (·.2) told⟩
    exact ⟨s, Or.inl member, completed, owner, fun detached => detached.owner ⟨_, owner⟩⟩

end Chatflow.Proofs.CompletedSessions
