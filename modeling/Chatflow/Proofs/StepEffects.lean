import Chatflow.Interpreter

/-! What one step of a run can do. A step is passed, or it ends the run: it asks, waits, hands the conversation
to an agent, starts another flow, or gives up. Whatever is known of runs is derived from this list. -/

namespace Chatflow.Proofs.StepEffects
open Interpreter

/-- The prompt of a step that waits for a reply. -/
def prompt? (body : StepBody) (vars : Fields) : Option (Except Fault ActionContent) :=
  match body with
  | .question c => some ((Template.fill vars c.text).map .message)
  | .choice _ c => some (choiceContent c vars)
  | _ => none

/-- A session after steps that were passed: only variables, owner and turns may differ, and no step that is
passed makes an AI agent the owner. -/
def Passed (s after : Session) : Prop :=
  ∃ vars owner turns, after = { s with vars := vars, assignee := owner, aiTurns := turns } ∧
    (owner = s.assignee ∨ ∃ agent, owner = some ⟨.human, agent⟩)

theorem Passed.refl (s : Session) : Passed s s := ⟨s.vars, s.assignee, s.aiTurns, rfl, Or.inl rfl⟩

theorem Passed.trans {s middle after : Session} (first : Passed s middle) (last : Passed middle after) :
    Passed s after := by
  obtain ⟨_, _, _, rfl, owner⟩ := first
  obtain ⟨vars, final, turns, rfl, latest⟩ := last
  refine ⟨vars, final, turns, rfl, ?_⟩
  rcases latest with same | human
  · rcases owner with former | human
    · exact Or.inl (same.trans former)
    · exact Or.inr (by simpa only [same] using human)
  · exact Or.inr human

/-- All that a step can do to a session when the run comes to it. -/
inductive Does (f : Flow) (options : RunOptions) (now : Instant) (step : Step) (s : Session) : Effect → Prop where
  | passes {after actions next} (passed : Passed s after) :
      Does f options now step s ⟨after, actions, .goto next⟩
  | asks {content} (prompt : prompt? step.body s.vars = some (.ok content)) :
      Does f options now step s ⟨s.park step.id, [⟨envelope step.id (s.park step.id), content⟩], .stop none⟩
  | waits {c dueAt} (body : step.body = .wait c) (due : now.addSeconds c.seconds = .ok dueAt) :
      Does f options now step s
        ⟨{ s.park step.id with resumeAt := some dueAt, resumeStep := f.next? step.id }, [],
          .stop (some (.scheduleResume dueAt step.id (f.next? step.id)))⟩
  | hands {c agent actions} (body : step.body = .assign c) (ai : c.agentKind = .ai)
      (assigned : assignedAgent c options.defaultAgent = some agent) (named : agent ≠ "") :
      Does f options now step s
        ⟨{ s with assignee := some ⟨.ai, some agent⟩, aiTurns := 0 }.park step.id, actions, .stop none⟩
  | chains {flowId} (body : step.body = .automation flowId) :
      Does f options now step s ⟨s.complete, [], .stop (some (.startFlow flowId))⟩
  | refuses (unreadable : step.body.isValid = false) :
      Does f options now step s ⟨s.complete (some .invalidConfig), [], .stop none⟩
  | lacksAgent {c} (body : step.body = .assign c) (ai : c.agentKind = .ai)
      (unassigned : isUnfilled (assignedAgent c options.defaultAgent) = true) :
      Does f options now step s ⟨s.complete (some .missingAgent), [], .stop none⟩

theorem filled?_eq_some {given : Option String} (filled : isUnfilled given = false) :
    ∃ text, given = some text ∧ text ≠ "" := by
  cases given with
  | none => simp [isUnfilled, filled?] at filled
  | some text => exact ⟨text, rfl, fun empty => by simp [isUnfilled, filled?, empty] at filled⟩

private theorem exists_of_map {ε α β : Type} {e : Except ε α} {g : α → β} {b : β} (mapped : e.map g = .ok b) :
    ∃ a, e = .ok a ∧ g a = b := by
  cases e with
  | error fault => cases mapped
  | ok a => exact ⟨a, rfl, Except.ok.inj mapped⟩

theorem assignEffect_does (f : Flow) (options : RunOptions) (now : Instant) (step : Step) (c : AssignConfig)
    (s : Session) (body : step.body = .assign c) :
    Does f options now step s (assignEffect f options step.id c s) := by
  cases kind : c.agentKind with
  | human =>
    simp only [assignEffect, kind, reduceCtorEq, false_and, if_false]
    exact .passes ⟨s.vars, _, 0, rfl, Or.inr ⟨_, rfl⟩⟩
  | ai =>
    by_cases lacking : isUnfilled (assignedAgent c options.defaultAgent) = true
    · simp only [assignEffect, kind, lacking, true_and, if_true]
      exact .lacksAgent body kind lacking
    · obtain ⟨agent, same, named⟩ := filled?_eq_some (Bool.not_eq_true _ ▸ lacking)
      simp only [assignEffect, kind, lacking]
      rw [same]
      exact .hands body kind same named

theorem rotatorEffect_does {f : Flow} {options : RunOptions} {now : Instant} {step : Step} {c : RotatorConfig} {s : Session}
    {rolls rest : List Float} {effect : Effect}
    (done : rotatorEffect f step.id c s rolls = (.ok effect, rest)) :
    Does f options now step s effect := by
  simp only [rotatorEffect] at done
  split at done
  · cases done; exact .passes (.refl s)
  · split at done
    · split at done
      · cases done
      · cases done; exact .passes ⟨_, s.assignee, s.aiTurns, rfl, Or.inl rfl⟩
    · split at done
      · cases done
      · cases done; exact .passes (.refl s)

theorem waitEffect_does {f : Flow} {options : RunOptions} {now : Instant} {step : Step} {c : WaitConfig}
    {s : Session} {effect : Effect} (body : step.body = .wait c)
    (done : waitEffect f now step.id c s = .ok effect) : Does f options now step s effect := by
  unfold waitEffect at done
  split at done
  · cases done
  next due => cases done; exact .waits body due

theorem effectOf_does {f : Flow} {options : RunOptions} {now : Instant} {step : Step} {s : Session}
    {rolls rest : List Float} {effect : Effect}
    (done : effectOf f options now step s rolls = (.ok effect, rest)) : Does f options now step s effect := by
  cases body : step.body with
  | start trigger =>
    simp only [effectOf, body] at done
    cases done; exact .passes (.refl s)
  | sendMessage c =>
    simp only [effectOf, body, Prod.mk.injEq] at done
    obtain ⟨content, _, rfl⟩ := exists_of_map done.1
    exact .passes (.refl s)
  | template c =>
    simp only [effectOf, body, Prod.mk.injEq] at done
    obtain ⟨content, _, rfl⟩ := exists_of_map done.1
    exact .passes (.refl s)
  | question c =>
    simp only [effectOf, body, Prod.mk.injEq] at done
    obtain ⟨content, filled, rfl⟩ := exists_of_map done.1
    exact .asks (by simp only [body, prompt?, filled])
  | choice style c =>
    simp only [effectOf, body, Prod.mk.injEq] at done
    obtain ⟨content, filled, rfl⟩ := exists_of_map done.1
    exact .asks (by simpa only [body, prompt?] using congrArg some filled)
  | wait c =>
    simp only [effectOf, body, Prod.mk.injEq] at done
    exact waitEffect_does body done.1
  | condition c =>
    simp only [effectOf, body] at done
    split at done
    · cases done
    · cases done; exact .passes (.refl s)
  | assign c =>
    simp only [effectOf, body] at done
    cases done; exact assignEffect_does f options now step c s body
  | rotator c =>
    simp only [effectOf, body] at done
    exact rotatorEffect_does done
  | automation flowId =>
    simp only [effectOf, body] at done
    cases done; exact .chains body
  | invalid kind problems first =>
    simp only [effectOf, body] at done
    cases done; exact .refuses (by simp only [body, StepBody.isValid])
  | unknown kind =>
    simp only [effectOf, body] at done
    cases done; exact .refuses (by simp only [body, StepBody.isValid])

/-- No step but a rotator or an assignment touches the variables, the owner or the turns of a session. -/
theorem effectOf_keeps {f : Flow} {options : RunOptions} {now : Instant} {step : Step} {s : Session}
    {rolls rest : List Float} {effect : Effect}
    (done : effectOf f options now step s rolls = (.ok effect, rest))
    (unrotated : ∀ c, step.body ≠ .rotator c) (unassigned : ∀ c, step.body ≠ .assign c) :
    effect.session.vars = s.vars ∧ effect.session.assignee = s.assignee ∧ effect.session.aiTurns = s.aiTurns := by
  cases body : step.body with
  | rotator c => exact absurd body (unrotated c)
  | assign c => exact absurd body (unassigned c)
  | sendMessage | template | question | choice =>
    simp only [effectOf, body, Prod.mk.injEq] at done
    obtain ⟨_, _, rfl⟩ := exists_of_map done.1
    exact ⟨rfl, rfl, rfl⟩
  | wait c =>
    simp only [effectOf, body, waitEffect] at done
    split at done <;> cases done
    exact ⟨rfl, rfl, rfl⟩
  | condition c =>
    simp only [effectOf, body] at done
    split at done <;> cases done
    exact ⟨rfl, rfl, rfl⟩
  | start | automation | invalid | unknown =>
    simp only [effectOf, body] at done
    cases done
    exact ⟨rfl, rfl, rfl⟩

theorem assignEffect_vars (f : Flow) (options : RunOptions) (stepId : String) (c : AssignConfig) (s : Session) :
    (assignEffect f options stepId c s).session.vars = s.vars := by
  unfold assignEffect
  dsimp only
  split
  · rfl
  · split <;> rfl

/-- What a rotator keeps count with: branches, which it takes in turn. -/
def CountsTurns (body : StepBody) : Prop := ∃ c, body = .rotator c ∧ c.sequential = true ∧ c.options ≠ []

/-- A rotator changes nothing but its counter, and that only if it keeps one. -/
theorem rotatorEffect_changes {f : Flow} {stepId : String} {c : RotatorConfig} {s : Session} {rolls rest : List Float}
    {effect : Effect} (done : rotatorEffect f stepId c s rolls = (.ok effect, rest)) :
    ¬ CountsTurns (.rotator c) ∧ effect.session = s ∨
    CountsTurns (.rotator c) ∧ ∃ count, Rotator.counterValue (s.vars.get? (Rotator.counterKey stepId)) = .ok count ∧
      effect.session = { s with vars := s.vars.set (Rotator.counterKey stepId) (.int (count + 1)) } := by
  simp only [rotatorEffect] at done
  split at done
  next empty =>
    cases done
    refine Or.inl ⟨?_, rfl⟩
    rintro ⟨_, same, _, branches⟩
    cases same
    exact branches (List.isEmpty_iff.mp empty)
  next branches =>
    split at done
    next inTurn =>
      split at done <;> cases done
      next count counted =>
        exact Or.inr ⟨⟨c, rfl, inTurn, fun empty => branches (List.isEmpty_iff.mpr empty)⟩, count, counted, rfl⟩
    next byLot =>
      split at done <;> cases done
      refine Or.inl ⟨?_, rfl⟩
      rintro ⟨_, same, inTurn, _⟩
      cases same
      exact byLot inTurn

/-- A rotator sends nothing. -/
theorem rotatorEffect_sends {f : Flow} {stepId : String} {c : RotatorConfig} {s : Session} {rolls rest : List Float}
    {effect : Effect} (done : rotatorEffect f stepId c s rolls = (.ok effect, rest)) : effect.actions = [] := by
  simp only [rotatorEffect] at done
  split at done
  · cases done
    rfl
  · split at done <;> split at done <;> cases done <;> rfl

/-- A step changes no variable but the counter of a rotator that takes its branches in turn. -/
theorem effectOf_vars {f : Flow} {options : RunOptions} {now : Instant} {step : Step} {s : Session}
    {rolls rest : List Float} {effect : Effect}
    (done : effectOf f options now step s rolls = (.ok effect, rest)) :
    ¬ CountsTurns step.body ∧ effect.session.vars = s.vars ∨
    CountsTurns step.body ∧ ∃ count, Rotator.counterValue (s.vars.get? (Rotator.counterKey step.id)) = .ok count ∧
      effect.session.vars = s.vars.set (Rotator.counterKey step.id) (.int (count + 1)) := by
  by_cases rotates : ∃ c, step.body = .rotator c
  · obtain ⟨c, body⟩ := rotates
    simp only [effectOf, body] at done
    rw [body]
    rcases rotatorEffect_changes done with ⟨uncounted, same⟩ | ⟨counts, count, counted, same⟩
    · exact Or.inl ⟨uncounted, by rw [same]⟩
    · exact Or.inr ⟨counts, count, counted, by rw [same]⟩
  · refine Or.inl ⟨fun ⟨c, body, _⟩ => rotates ⟨c, body⟩, ?_⟩
    by_cases assigns : ∃ c, step.body = .assign c
    · obtain ⟨c, body⟩ := assigns
      simp only [effectOf, body] at done
      cases done
      exact assignEffect_vars f options step.id c s
    · exact (effectOf_keeps done (not_exists.mp rotates) (not_exists.mp assigns)).1

/-- Only an assignment changes who owns a session, and the turns that the owner has taken. -/
theorem effectOf_owner {f : Flow} {options : RunOptions} {now : Instant} {step : Step} {s : Session}
    {rolls rest : List Float} {effect : Effect}
    (done : effectOf f options now step s rolls = (.ok effect, rest)) (unassigned : ∀ c, step.body ≠ .assign c) :
    effect.session.assignee = s.assignee ∧ effect.session.aiTurns = s.aiTurns := by
  by_cases rotates : ∃ c, step.body = .rotator c
  · obtain ⟨c, body⟩ := rotates
    simp only [effectOf, body] at done
    rcases rotatorEffect_changes done with ⟨_, same⟩ | ⟨_, count, _, same⟩ <;> rw [same] <;> exact ⟨rfl, rfl⟩
  · exact (effectOf_keeps done (not_exists.mp rotates) unassigned).2

/-- Two states of one conversation: a run changes neither whom a session belongs to nor where it came from. -/
structure SameConversation (s after : Session) : Prop where
  id : after.id = s.id
  address : after.address = s.address
  flowId : after.flowId = s.flowId
  deviceId : after.deviceId = s.deviceId
  createdAt : after.createdAt = s.createdAt
  loose : after.loose = s.loose

theorem SameConversation.trans {s middle after : Session} (first : SameConversation s middle)
    (last : SameConversation middle after) : SameConversation s after :=
  ⟨last.id.trans first.id, last.address.trans first.address, last.flowId.trans first.flowId,
    last.deviceId.trans first.deviceId, last.createdAt.trans first.createdAt, last.loose.trans first.loose⟩

theorem Passed.sameConversation {s after : Session} (passed : Passed s after) : SameConversation s after := by
  obtain ⟨vars, owner, turns, rfl, _⟩ := passed
  exact ⟨rfl, rfl, rfl, rfl, rfl, rfl⟩

theorem Does.sameConversation {f : Flow} {options : RunOptions} {now : Instant} {step : Step} {s : Session}
    {effect : Effect} (does : Does f options now step s effect) : SameConversation s effect.session := by
  cases does with
  | passes passed => exact passed.sameConversation
  | asks | waits | hands | chains | refuses | lacksAgent => exact ⟨rfl, rfl, rfl, rfl, rfl, rfl⟩

end Chatflow.Proofs.StepEffects
