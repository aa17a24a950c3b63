import Chatflow.Proofs.FlowPaths
import Chatflow.Proofs.SentActions
import Chatflow.Proofs.WellFormedFlows

/-! The AI agents that conversations are handed to. An AI assignment of a flow that was let in hands the conversation to the
agent of its settings; only where it is marked to be to oneself, the default agent takes the place of the agent that it
names, and if there is no default agent the conversation ends. -/

namespace Chatflow.Proofs.AgentAssignments
open Interpreter StepEffects RunEndings FlowPaths SentActions WellFormedFlows

variable {f : Flow} {options : RunOptions} {now : Instant} {s : Session} {rolls rest : List Float} {left : Nat}
  {start : Option String} {step : Step} {c : AssignConfig} {agentId : Option String}

def AssignsAI (step : Step) (c : AssignConfig) : Prop := step.body = .assign c ∧ c.agentKind = .ai

/-- The agent that an AI assignment hands the conversation to. -/
def Names (options : RunOptions) (step : Step) (agentId : Option String) : Prop :=
  ∃ c, AssignsAI step c ∧ Given agentId ∧
    agentId = if c.assignToSelf = true then options.defaultAgent else c.agentId

theorem assignedAgent_ai (ai : c.agentKind = .ai) (defaultAgent : Option String) :
    assignedAgent c defaultAgent = if c.assignToSelf = true then defaultAgent else c.agentId := by
  simp [assignedAgent, ai]

theorem names_of_assigned (assigns : AssignsAI step c) (given : Given (assignedAgent c options.defaultAgent)) :
    Names options step (assignedAgent c options.defaultAgent) :=
  ⟨c, assigns, given, assignedAgent_ai assigns.2 options.defaultAgent⟩

theorem messageContent?_assigns_none {c : MessageConfig} {vars : Fields} {content : ActionContent}
    (made : messageContent? c vars = .ok (some content)) (kind : AgentKind) (agentId : Option String) :
    content ≠ .assign kind agentId := by
  cases filled : Template.fill vars c.text with
  | error fault => simp [messageContent?, filled, bind, Except.bind] at made
  | ok text =>
    rintro rfl
    simp only [messageContent?, filled, bind, Except.bind, nonEmpty?] at made
    split at made
    · split at made <;> cases made
    · split at made <;> cases made

theorem prompt?_assigns_none {body : StepBody} {vars : Fields} {content : ActionContent}
    (prompt : prompt? body vars = some (.ok content)) (kind : AgentKind) (agentId : Option String) :
    content ≠ .assign kind agentId := by
  rintro rfl
  cases body <;> simp only [prompt?, reduceCtorEq, Option.some.injEq] at prompt
  case question c => cases filled : Template.fill vars c.text <;> rw [filled] at prompt <;> cases prompt
  case choice style c =>
    cases filled : Template.fill vars c.message with
    | error fault => simp [choiceContent, filled, bind, Except.bind] at prompt
    | ok body =>
      simp only [choiceContent, filled, bind, Except.bind] at prompt
      split at prompt <;> cases prompt

theorem names_of_sends {a : Action} (sends : Sends f options step s a) (told : a.content = .assign .ai agentId) :
    Names options step agentId := by
  cases sends with
  | speaks body made => exact absurd told (messageContent?_assigns_none made .ai agentId)
  | fills | writes => cases told
  | asks prompt => exact absurd told (prompt?_assigns_none prompt .ai agentId)
  | assigns body named =>
    obtain ⟨ai, rfl⟩ := ActionContent.assign.inj told
    exact names_of_assigned ⟨body, ai⟩ (isUnfilled_eq_false.mp (named ai))

/-- An AI assignment ends the walk that comes to it. The induction is on the steps left to take. -/
theorem trail_ends_with_ai (taken : step ∈ (trail f options now left s rolls start).1) (assigns : AssignsAI step c) :
    (trail f options now left s rolls start).2 = .stopped ∧
    (trail f options now left s rolls start).1.getLast? = some step := by
  induction left generalizing s rolls start with
  | zero => cases start <;> cases taken
  | succ left ih =>
    cases start with
    | none => cases taken
    | some id =>
      cases found : f.step? id with
      | none =>
        simp only [trail, found] at taken
        cases taken
      | some first =>
        simp only [trail, found] at taken ⊢
        split at taken
        next after actions next rolls done =>
          rcases List.mem_cons.mp taken with rfl | later
          · simp only [effectOf, assigns.1, assignEffect, assigns.2, true_and] at done
            split at done <;> cases done
          · obtain ⟨halt, last⟩ := ih later
            exact ⟨halt, by rw [List.getLast?_cons, last]; rfl⟩
        next =>
          rw [List.mem_singleton.mp taken]
          exact ⟨rfl, rfl⟩

/-- A walk ends for want of an agent at an AI assignment, if nobody is named by it. -/
theorem diagnostic?_missingAgent {halt : Halt} {last : Option Step} :
    (halt.diagnostic? options last).map Diagnostic.name = some Diagnostic.missingAgent.name ↔
      halt = .stopped ∧ ∃ step c, last = some step ∧ AssignsAI step c ∧ ¬ Given (assignedAgent c options.defaultAgent) := by
  cases halt with
  | finished | exhausted | lost => simp [Halt.diagnostic?, Diagnostic.name]
  | stopped =>
    cases last with
    | none => simp [Halt.diagnostic?]
    | some step =>
      obtain ⟨id, body⟩ := step
      cases body with
      | assign c =>
        simp only [Halt.diagnostic?, Option.map_some]
        by_cases lacking : c.agentKind = .ai ∧ isUnfilled (assignedAgent c options.defaultAgent) = true
        · rw [if_pos lacking]
          exact iff_of_true rfl ⟨trivial, _, c, rfl, ⟨rfl, lacking.1⟩, isUnfilled_iff.mp lacking.2⟩
        · rw [if_neg lacking]
          refine iff_of_false (fun impossible => by cases impossible) ?_
          rintro ⟨_, _, _, last, ⟨body, ai⟩, unnamed⟩
          cases last
          cases body
          exact lacking ⟨ai, isUnfilled_iff.mpr unnamed⟩
      | _ => simp [Halt.diagnostic?, AssignsAI, Diagnostic.name]

/-- The owner of a session after a run, if it is an AI agent, owned it before, or is the one that the last step names. -/
theorem run_owner {r : RunResult} (ran : run f options now s rolls start = (.ok r, rest))
    (owned : r.session.assignee = some ⟨.ai, agentId⟩) :
    s.assignee = some ⟨.ai, agentId⟩ ∨
      ∃ step, (trail f options now options.maxSteps s.fresh rolls start).1.getLast? = some step ∧
        Names options step agentId := by
  obtain ⟨ended, rfl, _, reached, ⟨vars, owner, turns, rfl, former⟩, concludes⟩ := run_concludes ran
  have kept : owner = some ⟨.ai, agentId⟩ → s.assignee = some ⟨.ai, agentId⟩ := by
    rintro rfl
    rcases former with same | ⟨agent, human⟩
    · exact same.symm
    · cases human
  revert concludes
  cases (trail f options now options.maxSteps s.fresh rolls start).2 with
  | finished | exhausted | lost =>
    intro concludes
    rw [concludes.1] at owned
    exact Or.inl (kept owned)
  | stopped =>
    rintro ⟨step, earlier, final, last, _, _, does⟩
    rcases ended with ⟨emitted, after, directive, executed⟩
    cases does with
    | asks | waits | chains | refuses | lacksAgent => exact Or.inl (kept owned)
    | hands body ai assigned named =>
      obtain rfl : some _ = agentId := congrArg Assignee.id (Option.some.inj owned)
      rw [← assigned]
      exact Or.inr ⟨step, last, names_of_assigned ⟨body, ai⟩ (by rw [assigned]; exact ⟨_, rfl, named⟩)⟩

/-- A run in a flow that was let in ends for want of an agent exactly if it comes to an AI assignment that is marked to be
to oneself and there is no default agent. Every AI assignment that it makes names the agent of the step's settings or, where
the step is marked so, the default agent. An AI agent that owns the session after the run owned it before, or is the one that
the last step names. -/
theorem accepted_flow_names_its_agents {given : Flow} {r : RunResult} (accepted : given.load = .ok f)
    (ran : run f options now s rolls start = (.ok r, rest)) :
    let steps := (trail f options now options.maxSteps s.fresh rolls start).1
    (r.session.diagnostic = some Diagnostic.missingAgent.name ↔
      (∃ step ∈ steps, ∃ c, AssignsAI step c ∧ c.assignToSelf = true) ∧ ¬ Given options.defaultAgent) ∧
    (∀ a ∈ r.actions, ∀ agentId, a.content = .assign .ai agentId →
      ∃ step ∈ steps, a.envelope.stepId = some step.id ∧ Names options step agentId) ∧
    (∀ agentId, r.session.assignee = some ⟨.ai, agentId⟩ →
      s.assignee = some ⟨.ai, agentId⟩ ∨ ∃ step, steps.getLast? = some step ∧ Names options step agentId) := by
  have settled : ∀ step ∈ (trail f options now options.maxSteps s.fresh rolls start).1, ∀ c, AssignsAI step c →
      (¬ Given (assignedAgent c options.defaultAgent) ↔ c.assignToSelf = true ∧ ¬ Given options.defaultAgent) := by
    intro step taken c assigns
    have member := List.mem_of_find?_eq_some (trail_found _ _ _ _ step taken)
    have ruled := (load_ok_iff.mp accepted).2.ruled step member
    simp only [MeetsRule, assigns.1] at ruled
    rw [assignedAgent_ai assigns.2]
    cases own : c.assignToSelf <;> simp [ruled assigns.2]
  refine ⟨?_, fun a member agentId told => ?_, fun agentId owned => run_owner ran owned⟩
  · rw [(run_fits ran).2, diagnostic?_missingAgent]
    constructor
    · rintro ⟨_, step, c, last, assigns, unnamed⟩
      have taken := List.mem_of_getLast? last
      obtain ⟨own, none⟩ := (settled step taken c assigns).mp unnamed
      exact ⟨⟨step, taken, c, assigns, own⟩, none⟩
    · rintro ⟨⟨step, taken, c, assigns, own⟩, none⟩
      obtain ⟨halt, last⟩ := trail_ends_with_ai taken assigns
      exact ⟨halt, step, c, last, assigns, (settled step taken c assigns).mpr ⟨own, none⟩⟩
  · obtain ⟨step, taken, before, _, sends⟩ := run_sends ran a member
    obtain ⟨_, sent⟩ := sends.envelope
    exact ⟨step, taken, by rw [sent]; rfl, names_of_sends sends told⟩

theorem handing_flow_names_its_agent : handingFlow.load = .ok handingFlow ∧
    ∃ r, run handingFlow { defaultAgent := some "agent-7" } ⟨5, 0⟩ (newcomer handingFlow) [] (some "begin") = (.ok r, []) ∧
      r.actions.map Action.content = [.assign .ai (some "ana")] ∧
      r.session.diagnostic ≠ some Diagnostic.missingAgent.name ∧
      ∀ a ∈ r.actions, ∀ agentId, a.content = .assign .ai agentId →
        ∃ step ∈ handingFlow.steps, a.envelope.stepId = some step.id ∧
          Names { defaultAgent := some "agent-7" } step agentId := by
  have accepted : handingFlow.load = .ok handingFlow := by cbv
  have told := @accepted_flow_names_its_agents handingFlow { defaultAgent := some "agent-7" } ⟨5, 0⟩ (newcomer handingFlow)
    [] [] (some "begin") _ _ accepted rfl
  exact ⟨accepted, _, rfl, rfl, fun lacking => (told.1.mp lacking).2 ⟨"agent-7", rfl, by decide⟩, told.2.1⟩

/-- A flow that hands conversations to an AI agent, with the mark that it is to be to oneself. -/
def marked : Flow :=
  { id := "marked",
    steps := [⟨"begin", .start none⟩, ⟨"bot", .assign { agentKind := .ai, agentId := some "ana", assignToSelf := true }⟩],
    connections := [⟨"c", "begin", "bot", none, none⟩] }

theorem marked_assignment_loses_its_agent : marked.load = .ok marked ∧
    (∃ r, run marked {} ⟨5, 0⟩ (newcomer marked) [] (some "begin") = (.ok r, []) ∧
      r.session.diagnostic = some Diagnostic.missingAgent.name) ∧
    ∃ r, run marked { defaultAgent := some "agent-7" } ⟨5, 0⟩ (newcomer marked) [] (some "begin") = (.ok r, []) ∧
      r.actions.map Action.content = [.assign .ai (some "agent-7")] ∧
      r.session.assignee = some ⟨.ai, some "agent-7"⟩ :=
  ⟨by cbv, ⟨_, rfl, rfl⟩, _, rfl, rfl, rfl⟩

end Chatflow.Proofs.AgentAssignments
