import Chatflow.Proofs.StepVisits

/-! What runs send. Every action of a run comes from a step that the run took, and is sent for the session that the
run started from. -/

namespace Chatflow.Proofs.SentActions
open Interpreter StepEffects RunEndings StepVisits

variable {f : Flow} {options : RunOptions} {now : Instant} {s : Session} {rolls rest : List Float}

/-- The actions that a step sends for the session that comes to it. -/
inductive Sends (f : Flow) (options : RunOptions) (step : Step) (s : Session) : Action → Prop where
  | speaks {c content} (body : step.body = .sendMessage c) (made : messageContent? c s.vars = .ok (some content)) :
      Sends f options step s ⟨envelope step.id s c.delaySeconds, content⟩
  | fills {c params} (body : step.body = .template c) (filled : c.vars.mapM (Template.fill s.vars) = .ok params) :
      Sends f options step s ⟨envelope step.id s, .template c.templateName c.language params⟩
  | asks {content} (prompt : prompt? step.body s.vars = some (.ok content)) :
      Sends f options step s ⟨envelope step.id s, content⟩
  | writes {c address} (body : step.body = .assign c) (notifies : c.sendEmail = true)
      (given : filled? c.adminEmail = some address) :
      Sends f options step s ⟨envelope step.id s,
        .email address Wording.assignmentSubject (Wording.assignmentBody s.address f.name)⟩
  | assigns {c} (body : step.body = .assign c)
      (named : c.agentKind = .ai → isUnfilled (assignedAgent c options.defaultAgent) = false) :
      Sends f options step s ⟨envelope step.id s, .assign c.agentKind (assignedAgent c options.defaultAgent)⟩

theorem Sends.envelope {step : Step} {a : Action} (sends : Sends f options step s a) :
    ∃ delay, a.envelope = Interpreter.envelope step.id s delay := by
  cases sends <;> exact ⟨_, rfl⟩

theorem envelope_congr {after : Session} (same : SameConversation s after) (id : String) (delay : Int) :
    envelope id after delay = envelope id s delay := by
  simp only [envelope, same.address, same.deviceId, same.id]

theorem assignEffect_sends {step : Step} {c : AssignConfig} (body : step.body = .assign c) :
    ∀ a ∈ (assignEffect f options step.id c s).actions, Sends f options step s a := by
  unfold assignEffect
  dsimp only
  split
  · exact fun a impossible => by cases impossible
  next named =>
    split
    all_goals
      intro a member
      rcases List.mem_append.mp member with letter | assigned
      · split at letter
        next notifies given =>
          rw [List.mem_singleton.mp letter]
          exact .writes body notifies given
        next => cases letter
      · rw [List.mem_singleton.mp assigned]
        exact .assigns body fun ai => Bool.not_eq_true _ ▸ fun lacking => named ⟨ai, lacking⟩

theorem effectOf_sends {step : Step} {effect : Effect}
    (done : effectOf f options now step s rolls = (.ok effect, rest)) : ∀ a ∈ effect.actions, Sends f options step s a := by
  have nothing : ∀ a ∈ ([] : List Action), Sends f options step s a := fun a impossible => by cases impossible
  cases body : step.body with
  | start trigger =>
    simp only [effectOf, body] at done
    cases done; exact nothing
  | sendMessage c =>
    simp only [effectOf, body, Prod.mk.injEq] at done
    rcases made : messageContent? c s.vars with _ | _ | content <;> rw [made] at done <;> cases done.1
    · exact nothing
    · exact List.forall_mem_singleton.mpr (.speaks body made)
  | template c =>
    simp only [effectOf, body, Prod.mk.injEq] at done
    cases filled : c.vars.mapM (Template.fill s.vars) <;> rw [filled] at done <;> cases done.1
    exact List.forall_mem_singleton.mpr (.fills body filled)
  | question c =>
    simp only [effectOf, body, Prod.mk.injEq] at done
    cases filled : Template.fill s.vars c.text <;> rw [filled] at done <;> cases done.1
    exact List.forall_mem_singleton.mpr (.asks (by rw [body, prompt?, filled]; rfl))
  | choice style c =>
    simp only [effectOf, body, Prod.mk.injEq] at done
    cases content : choiceContent c s.vars <;> rw [content] at done <;> cases done.1
    exact List.forall_mem_singleton.mpr (.asks (by rw [body, prompt?, content]))
  | wait c =>
    simp only [effectOf, body, waitEffect, Prod.mk.injEq] at done
    cases due : now.addSeconds c.seconds <;> rw [due] at done <;> cases done.1
    exact nothing
  | condition c =>
    simp only [effectOf, body] at done
    split at done
    · cases done
    · cases done; exact nothing
  | assign c =>
    simp only [effectOf, body] at done
    cases done; exact assignEffect_sends body
  | rotator c =>
    simp only [effectOf, body] at done
    rw [rotatorEffect_sends done]
    exact nothing
  | automation | invalid | unknown =>
    simp only [effectOf, body] at done
    cases done; exact nothing

/-- Every action of a walk is sent by a step of its trail, for a session of the same conversation. -/
theorem walk_sends {left : Nat} {start : Option String} {r : RunResult}
    (walked : walk f options now left s rolls start = (.ok r, rest)) :
    ∀ a ∈ r.actions, ∃ step ∈ (trail f options now left s rolls start).1, ∃ before,
      SameConversation s before ∧ Sends f options step before a := by
  obtain ⟨steps, sent⟩ := walk_visits walked
  obtain ⟨_, chain, _⟩ := visits_chain f options now left s rolls start
  intro a member
  rw [sent] at member
  obtain ⟨v, visited, here⟩ := List.mem_flatMap.mp member
  obtain ⟨_, _, done⟩ := (chain.taken v visited).done
  refine ⟨v.step, ?_, v.before, chain.sameConversation v visited, effectOf_sends done a here⟩
  rw [steps]
  exact List.mem_map_of_mem visited

theorem run_sends {start : Option String} {r : RunResult} (ran : run f options now s rolls start = (.ok r, rest)) :
    ∀ a ∈ r.actions, ∃ step ∈ (trail f options now options.maxSteps s.fresh rolls start).1, ∃ before,
      SameConversation s before ∧ Sends f options step before a := by
  rcases walked : walk f options now options.maxSteps s.fresh rolls start with ⟨_ | ended, remaining⟩ <;>
    simp only [run, walked, Except.map] at ran <;> cases ran
  intro a member
  obtain ⟨step, taken, before, same, sends⟩ := walk_sends walked a member
  exact ⟨step, taken, before, ⟨same.id, same.address, same.flowId, same.deviceId, same.createdAt, same.loose⟩, sends⟩

theorem run_sent {start : Option String} {r : RunResult} (ran : run f options now s rolls start = (.ok r, rest)) :
    ∀ a ∈ r.actions, ∃ step ∈ (trail f options now options.maxSteps s.fresh rolls start).1, ∃ delay,
      a.envelope = envelope step.id s delay := by
  intro a member
  obtain ⟨step, taken, before, same, sends⟩ := run_sends ran a member
  obtain ⟨delay, sent⟩ := sends.envelope
  exact ⟨step, taken, delay, by rw [sent, envelope_congr same]⟩

/-- All that a run sends goes to the contact whose session it is. -/
theorem run_recipients {start : Option String} {r : RunResult}
    (ran : run f options now s rolls start = (.ok r, rest)) : ∀ a ∈ r.actions, a.envelope.recipient = s.address := by
  intro a member
  obtain ⟨step, _, delay, sent⟩ := run_sent ran a member
  rw [sent]
  rfl

end Chatflow.Proofs.SentActions
