import Chatflow.Proofs.AgentTurns
import Chatflow.Proofs.RunEndings

/-! Where sessions are parked. A session that takes part in a conversation stands at a step of its own flow that it
can be taken on from, and its other fields are those that this kind of step calls for. -/

namespace Chatflow.Proofs.ParkedSessions
open Interpreter StepEffects RunEndings AgentTurns

/-- The kinds of steps at which a session can be parked. -/
def parkingKinds : List StepKind :=
  [.questionSimple, .questionMultiple, .multipleChoice, .wait, .assignConversation]

/-- Whether a step gives the conversation to an AI agent. -/
def GivesToAi (step : Step) : Prop := ∃ c, step.body = .assign c ∧ c.agentKind = .ai

/-- Whether an AI agent is written down as the owner. -/
def OwnedByAi (s : Session) : Prop := ∃ agent, s.assignee = some ⟨.ai, agent⟩

/-- A session stands at a step of a flow as this step left it. -/
structure StandsAt (f : Flow) (id : String) (step : Step) (s : Session) : Prop where
  place : s.currentStep = some id
  found : f.step? id = some step
  readable : step.body.isValid = true
  kind : ∃ kind ∈ parkingKinds, step.body.kind? = some kind
  resumeAt : s.resumeAt.isSome = true ↔ step.body.kind? = some .wait
  resumeStep : step.body.kind? = some .wait → s.resumeStep = f.next? id
  owner : OwnedByAi s ↔ GivesToAi step

/-- A session stands at a step of the flow that it executes. -/
def InPlace (c : Catalogue) (s : Session) : Prop :=
  ∃ f id step, c.flow? s.flowId = some f ∧ StandsAt f id step s

theorem InPlace.congr {c : Catalogue} {s other : Session} (inPlace : InPlace c s) (flow : other.flowId = s.flowId)
    (place : other.currentStep = s.currentStep) (owner : other.assignee = s.assignee)
    (resumeAt : other.resumeAt = s.resumeAt) (resumeStep : other.resumeStep = s.resumeStep) : InPlace c other := by
  obtain ⟨f, id, step, known, stands⟩ := inPlace
  refine ⟨f, id, step, by rw [flow, known], ?_⟩
  exact {
    place := place.trans stands.place
    found := stands.found
    readable := stands.readable
    kind := stands.kind
    resumeAt := by rw [resumeAt]; exact stands.resumeAt
    resumeStep := fun waits => resumeStep.trans (stands.resumeStep waits)
    owner := by rw [OwnedByAi, owner]; exact stands.owner }

/-- A session that an AI agent does not own stays so while steps are passed. -/
theorem not_ownedByAi_of_passed {s reached : Session} (passed : Passed s reached) (free : ¬ OwnedByAi s) :
    ¬ OwnedByAi reached := by
  obtain ⟨vars, owner, turns, rfl, former | ⟨human, same⟩⟩ := passed
  · rintro ⟨agent, owned⟩
    exact free ⟨agent, former.symm.trans owned⟩
  · rintro ⟨agent, owned⟩
    cases same.symm.trans owned

theorem asks_of_prompt {body : StepBody} {vars : Fields} {content : Except Fault ActionContent}
    (prompt : prompt? body vars = some content) :
    body.isValid = true ∧ (∃ kind ∈ parkingKinds, body.kind? = some kind) ∧ body.kind? ≠ some .wait ∧
      ∀ c, body ≠ .assign c := by
  cases body with
  | question c => exact ⟨rfl, ⟨_, by simp [parkingKinds], rfl⟩, by simp [StepBody.kind?], by simp⟩
  | choice style c =>
    cases style
    · exact ⟨rfl, ⟨.questionMultiple, by simp [parkingKinds], rfl⟩, by simp [StepBody.kind?, ChoiceStyle.kind],
        by simp⟩
    · exact ⟨rfl, ⟨.multipleChoice, by simp [parkingKinds], rfl⟩, by simp [StepBody.kind?, ChoiceStyle.kind],
        by simp⟩
  | start | sendMessage | wait | condition | assign | automation | rotator | template | invalid | unknown =>
    simp only [prompt?, reduceCtorEq] at prompt

/-- A step that stops a run parks the session where it then stands, or ends it. -/
theorem stands_of_does {f : Flow} {options : RunOptions} {now : Instant} {step : Step} {s : Session}
    {effect : Effect} {directive : Option Directive} (does : Does f options now step s effect)
    (stops : effect.onward = .stop directive) (found : f.step? step.id = some step) (free : ¬ OwnedByAi s)
    (still : s.resumeAt = none) (active : effect.session.isActive = true) :
    StandsAt f step.id step effect.session := by
  cases does with
  | passes passed => cases stops
  | asks prompt =>
    obtain ⟨readable, kind, notWait, notAssign⟩ := asks_of_prompt prompt
    exact {
      place := rfl
      found := found
      readable := readable
      kind := kind
      resumeAt := by simp [Session.park, still, notWait]
      resumeStep := fun waits => absurd waits notWait
      owner := iff_of_false free fun ⟨c, body, _⟩ => notAssign c body }
  | waits body due =>
    exact {
      place := rfl
      found := found
      readable := by rw [body]; rfl
      kind := ⟨.wait, by simp [parkingKinds], by rw [body]; rfl⟩
      resumeAt := by simp [body, StepBody.kind?]
      resumeStep := fun _ => rfl
      owner := iff_of_false free fun ⟨c, assigns, _⟩ => by cases body.symm.trans assigns }
  | hands body ai assigned named =>
    exact {
      place := rfl
      found := found
      readable := by rw [body]; rfl
      kind := ⟨.assignConversation, by simp [parkingKinds], by rw [body]; rfl⟩
      resumeAt := by simp [Session.park, still, body, StepBody.kind?]
      resumeStep := fun waits => by simp [body, StepBody.kind?] at waits
      owner := iff_of_true ⟨_, rfl⟩ ⟨_, body, ai⟩ }
  | chains | refuses | lacksAgent => simp [Session.isActive, Session.complete] at active

/-- A run that leaves a session active parks it at a step of its flow, provided that no AI agent owned it before. -/
theorem run_parks {f : Flow} {options : RunOptions} {now : Instant} {s : Session} {rolls rest : List Float}
    {start : Option String} {r : RunResult} (ran : run f options now s rolls start = (.ok r, rest))
    (free : ¬ OwnedByAi s) (active : r.session.isActive = true) :
    ∃ id step, StandsAt f id step r.session := by
  obtain ⟨ended, rfl, _, reached, passed, concludes⟩ := run_concludes ran
  have unowned := not_ownedByAi_of_passed passed free
  have still : reached.resumeAt = none := by
    obtain ⟨vars, owner, turns, rfl, _⟩ := passed
    rfl
  revert concludes
  cases (trail f options now options.maxSteps s.fresh rolls start).2 with
  | finished | exhausted | lost =>
    intro concludes
    simp [concludes.1, Session.isActive, Session.complete] at active
  | stopped =>
    intro ⟨step, earlier, final, _, found, _, does⟩
    have stands := stands_of_does does rfl found unowned still active
    exact ⟨step.id, step,
      ⟨stands.place, stands.found, stands.readable, stands.kind, stands.resumeAt, stands.resumeStep, stands.owner⟩⟩

/-- A session in place that waits is owned by no AI agent, and neither is one that an agent does not answer for. -/
theorem StandsAt.free {f : Flow} {id : String} {step : Step} {s : Session} (stands : StandsAt f id step s)
    (elsewhere : ∀ c, step.body ≠ .assign c) : ¬ OwnedByAi s :=
  fun owned => let ⟨c, body, _⟩ := stands.owner.mp owned; elsewhere c body

theorem isAiAssigned_of_ownedByAi {s : Session} (active : s.isActive = true) (owned : OwnedByAi s) :
    s.isAiAssigned = true := by
  obtain ⟨agent, owner⟩ := owned
  simp [Session.isAiAssigned, active, owner]

/-- A turn of an agent leaves a session in place, or ends it. -/
theorem InPlace.taken {c : Catalogue} {s updated : Session} {ended : Bool} (inPlace : InPlace c s)
    (taken : Taken s ended updated) (active : updated.isActive = true) : InPlace c updated := by
  cases taken with
  | goesOn vars => exact inPlace.congr rfl rfl rfl rfl rfl
  | ends vars => simp [Session.isActive, Delegate.endAssignment] at active

end Chatflow.Proofs.ParkedSessions
