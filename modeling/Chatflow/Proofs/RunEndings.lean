import Chatflow.Proofs.StepEffects

/-! How runs end. A run passes steps until one of them stops it, or until there is none to go to; the session it
returns then has one of four forms, and its diagnostic tells why a run did not come to the end of its flow. -/

namespace Chatflow.Proofs.RunEndings
open Interpreter StepEffects

/-- What brings a walk to its end. -/
inductive Halt where
  /-- Nothing leads on. -/
  | finished
  /-- No more steps may be taken. -/
  | exhausted
  /-- The flow has no step of the id that is led to. -/
  | lost
  /-- The step taken last ends the run. -/
  | stopped
deriving Repr, DecidableEq

/-- The steps that a walk takes, in order, and what brings it to its end. -/
def trail (f : Flow) (options : RunOptions) (now : Instant) :
    Nat → Session → List Float → Option String → List Step × Halt
  | _, _, _, none => ([], .finished)
  | 0, _, _, some _ => ([], .exhausted)
  | left + 1, s, rolls, some stepId =>
    match f.step? stepId with
    | none => ([], .lost)
    | some step =>
      match effectOf f options now step s rolls with
      | (.ok ⟨after, _, .goto next⟩, rolls) =>
        let (steps, halt) := trail f options now left after rolls next
        (step :: steps, halt)
      | _ => ([step], .stopped)

/-- Why a run ends before its flow does: it may take no more steps, it is led nowhere, or the step it ends with
cannot be read or names no agent. -/
def Halt.diagnostic? (options : RunOptions) (halt : Halt) (last : Option Step) : Option Diagnostic :=
  match halt with
  | finished => none
  | exhausted => some .stepLimit
  | lost => some .missingStep
  | stopped =>
    match last.map Step.body with
    | some (.invalid ..) | some (.unknown _) => some .invalidConfig
    | some (.assign c) =>
      if c.agentKind = .ai ∧ isUnfilled (assignedAgent c options.defaultAgent) then some .missingAgent else none
    | _ => none

/-- How the session that a walk has brought to its last step becomes the result. -/
def Concludes (f : Flow) (options : RunOptions) (now : Instant) (steps : List Step) (halt : Halt)
    (reached : Session) (r : RunResult) : Prop :=
  match halt with
  | .stopped => ∃ step earlier final, steps.getLast? = some step ∧ f.step? step.id = some step ∧
      r.actions = earlier ++ final ∧ Does f options now step reached ⟨r.session, final, .stop r.directive⟩
  | halt => r.session = reached.complete (halt.diagnostic? options none) ∧ r.directive = none

theorem Concludes.after {f : Flow} {options : RunOptions} {now : Instant} {steps : List Step} {halt : Halt}
    {reached : Session} {r : RunResult} (concludes : Concludes f options now steps halt reached r)
    (step : Step) (kind : String) (actions : List Action) :
    Concludes f options now (step :: steps) halt reached (r.after kind actions) := by
  cases halt with
  | finished | exhausted | lost => exact concludes
  | stopped =>
    obtain ⟨last, earlier, final, taken, found, same, does⟩ := concludes
    refine ⟨last, actions ++ earlier, final, ?_, found, ?_, does⟩
    · rw [List.getLast?_cons, taken]; rfl
    · simp only [RunResult.after, same, List.append_assoc]

theorem step?_id {f : Flow} {id : String} {step : Step} (found : f.step? id = some step) : step.id = id := by
  simpa only [beq_iff_eq] using List.find?_some found

theorem step?_self {f : Flow} {id : String} {step : Step} (found : f.step? id = some step) :
    f.step? step.id = some step := by rw [step?_id found, found]

/-- A walk passes all steps of its trail but the one that stops it. The induction is on the steps left to take. -/
theorem walk_concludes {f : Flow} {options : RunOptions} {now : Instant} {left : Nat} {s : Session}
    {rolls rest : List Float} {start : Option String} {r : RunResult}
    (walked : walk f options now left s rolls start = (.ok r, rest)) :
    r.executed = (trail f options now left s rolls start).1.map (fun step => step.body.kindName) ∧
    ∃ reached, Passed s reached ∧
      Concludes f options now (trail f options now left s rolls start).1 (trail f options now left s rolls start).2
        reached r := by
  induction left generalizing s rolls start r with
  | zero =>
    cases start with
    | none => cases walked; exact ⟨rfl, s, .refl s, rfl, rfl⟩
    | some stepId => cases walked; exact ⟨rfl, s, .refl s, rfl, rfl⟩
  | succ left ih =>
    cases start with
    | none => cases walked; exact ⟨rfl, s, .refl s, rfl, rfl⟩
    | some stepId =>
      cases found : f.step? stepId with
      | none =>
        simp only [walk, found] at walked
        cases walked
        simp only [trail, found]
        exact ⟨rfl, s, .refl s, rfl, rfl⟩
      | some step =>
        rcases done : effectOf f options now step s rolls with ⟨_ | ⟨after, actions, onward⟩, remaining⟩
        · simp only [walk, found, done] at walked
          cases walked
        · have does := effectOf_does done
          cases onward with
          | stop directive =>
            simp only [walk, found, done] at walked
            cases walked
            simp only [trail, found, done]
            exact ⟨rfl, s, .refl s, step, [], actions, rfl, step?_self found, rfl, does⟩
          | goto next =>
            rcases onwards : walk f options now left after remaining next with ⟨_ | last, final⟩
            · simp only [walk, found, done, onwards, Except.map] at walked
              cases walked
            · simp only [walk, found, done, onwards, Except.map] at walked
              cases walked
              obtain ⟨executed, reached, passed, concludes⟩ := ih onwards
              simp only [trail, found, done]
              refine ⟨?_, reached, ?_, concludes.after step _ actions⟩
              · simp only [RunResult.after, executed, List.map_cons]
              · cases does with
                | passes former => exact former.trans passed

theorem run_concludes {f : Flow} {options : RunOptions} {now : Instant} {s : Session} {rolls rest : List Float}
    {start : Option String} {r : RunResult} (ran : run f options now s rolls start = (.ok r, rest)) :
    ∃ ending, r = { ending with session := { ending.session with updatedAt := now } } ∧
    ending.executed =
      (trail f options now options.maxSteps s.fresh rolls start).1.map (fun step => step.body.kindName) ∧
    ∃ reached, Passed s.fresh reached ∧
      Concludes f options now (trail f options now options.maxSteps s.fresh rolls start).1
        (trail f options now options.maxSteps s.fresh rolls start).2 reached ending := by
  rcases walked : walk f options now options.maxSteps s.fresh rolls start with ⟨_ | ending, remaining⟩
  · simp only [run, walked, Except.map] at ran
    cases ran
  · simp only [run, walked, Except.map] at ran
    cases ran
    exact ⟨ending, rfl, walk_concludes walked⟩

/-- A run belongs to the conversation that it was started for. -/
theorem run_sameConversation {f : Flow} {options : RunOptions} {now : Instant} {s : Session} {rolls rest : List Float}
    {start : Option String} {r : RunResult} (ran : run f options now s rolls start = (.ok r, rest)) :
    SameConversation s r.session := by
  obtain ⟨ended, rfl, _, reached, passed, concludes⟩ := run_concludes ran
  obtain ⟨vars, owner, turns, rfl, _⟩ := passed
  revert concludes
  cases (trail f options now options.maxSteps s.fresh rolls start).2 with
  | finished | exhausted | lost =>
    intro concludes
    simp only [concludes.1]
    exact ⟨rfl, rfl, rfl, rfl, rfl, rfl⟩
  | stopped =>
    intro ⟨step, earlier, final, _, _, _, does⟩
    obtain ⟨id, address, flowId, deviceId, createdAt, loose⟩ := does.sameConversation
    exact ⟨id, address, flowId, deviceId, createdAt, loose⟩

/-- The forms that a session can have after a run. -/
inductive Ending where
  | completed
  /-- It waits for a reply to a prompt. -/
  | asking
  /-- It waits for a point in time. -/
  | waiting
  /-- An AI agent owns it. -/
  | handed
deriving Repr, DecidableEq

/-- The last step that was taken is where the session is parked, and nothing went wrong. -/
structure ParkedAt (steps : List Step) (step : Step) (s : Session) : Prop where
  last : steps.getLast? = some step
  active : s.status = .active
  place : s.currentStep = some step.id
  sound : s.diagnostic = none

/-- Nothing is to happen of its own accord. -/
structure Unscheduled (s : Session) : Prop where
  resumeAt : s.resumeAt = none
  resumeStep : s.resumeStep = none

def Ending.Fits (f : Flow) (now : Instant) (steps : List Step) (r : RunResult) : Ending → Prop
  | completed => r.session.status = .completed ∧ r.session.currentStep = none ∧ Unscheduled r.session ∧
      (r.directive = none ∨
        ∃ step ∈ steps, ∃ flowId, step.body = .automation flowId ∧ r.directive = some (.startFlow flowId))
  | asking => ∃ step content, ParkedAt steps step r.session ∧ Unscheduled r.session ∧ r.directive = none ∧
      prompt? step.body r.session.vars = some (.ok content) ∧
      r.actions.getLast? = some ⟨envelope step.id r.session, content⟩
  | waiting => ∃ step c dueAt, ParkedAt steps step r.session ∧ step.body = .wait c ∧
      now.addSeconds c.seconds = .ok dueAt ∧ r.session.resumeAt = some dueAt ∧
      r.session.resumeStep = f.next? step.id ∧
      r.directive = some (.scheduleResume dueAt step.id (f.next? step.id))
  | handed => ∃ step c agent, ParkedAt steps step r.session ∧ Unscheduled r.session ∧ r.directive = none ∧
      step.body = .assign c ∧ c.agentKind = .ai ∧ r.session.assignee = some ⟨.ai, some agent⟩ ∧ agent ≠ "" ∧
      r.session.aiTurns = 0

def Ending.told (status : SessionStatus) (last : Option Step) : Ending :=
  match status, last.map Step.body with
  | .completed, _ => completed
  | .active, some (.wait _) => waiting
  | .active, some (.assign _) => handed
  | .active, _ => asking

theorem Ending.Fits.eq_told {f : Flow} {now : Instant} {steps : List Step} {r : RunResult} {ending : Ending}
    (fits : ending.Fits f now steps r) : ending = Ending.told r.session.status steps.getLast? := by
  cases ending with
  | completed => simp only [Ending.told, fits.1]
  | asking =>
    obtain ⟨step, content, parked, _, _, prompt, _⟩ := fits
    simp only [Ending.told, parked.active, parked.last, Option.map_some]
    cases body : step.body <;> simp only [body, prompt?, reduceCtorEq] at prompt
    all_goals rfl
  | waiting =>
    obtain ⟨step, c, dueAt, parked, body, _⟩ := fits
    simp only [Ending.told, parked.active, parked.last, Option.map_some, body]
  | handed =>
    obtain ⟨step, c, agent, parked, _, _, body, _⟩ := fits
    simp only [Ending.told, parked.active, parked.last, Option.map_some, body]

/-- A walk that begins with nothing scheduled and nothing wrong ends in one of the forms, and the diagnostic tells
what brought it to its end. -/
theorem Concludes.fits {f : Flow} {options : RunOptions} {now : Instant} {steps : List Step} {halt : Halt}
    {s reached : Session} {r : RunResult} (passed : Passed s.fresh reached)
    (concludes : Concludes f options now steps halt reached r) :
    (∃ ending : Ending, ending.Fits f now steps r) ∧
    r.session.diagnostic = (halt.diagnostic? options steps.getLast?).map Diagnostic.name := by
  obtain ⟨vars, owner, turns, rfl, _⟩ := passed
  cases halt with
  | finished | exhausted | lost =>
    obtain ⟨same, directive⟩ := concludes
    refine ⟨⟨.completed, ?_⟩, ?_⟩
    · rw [Ending.Fits, same]
      exact ⟨rfl, rfl, ⟨rfl, rfl⟩, Or.inl directive⟩
    · rw [same]; rfl
  | stopped =>
    obtain ⟨step, earlier, final, last, _, actions, does⟩ := concludes
    have member := List.mem_of_getLast? last
    rcases r with ⟨emitted, after, directive, executed⟩
    simp only at does actions
    cases does with
    | asks prompt =>
      refine ⟨⟨.asking, step, _, ⟨last, rfl, rfl, rfl⟩, ⟨rfl, rfl⟩, rfl, prompt, ?_⟩, ?_⟩
      · simp only [actions, List.getLast?_append, List.getLast?_singleton, Option.some_or]
      · simp only [Halt.diagnostic?, last, Option.map_some]
        cases body : step.body <;> simp only [body, prompt?, reduceCtorEq] at prompt
        all_goals rfl
    | waits body due =>
      refine ⟨⟨.waiting, step, _, _, ⟨last, rfl, rfl, rfl⟩, body, due, rfl, rfl, rfl⟩, ?_⟩
      simp only [Halt.diagnostic?, last, Option.map_some, body]
      rfl
    | hands body ai assigned named =>
      refine ⟨⟨.handed, step, _, _, ⟨last, rfl, rfl, rfl⟩, ⟨rfl, rfl⟩, rfl, body, ai, rfl, named, rfl⟩, ?_⟩
      simp only [Halt.diagnostic?, last, Option.map_some, body, assigned]
      rw [if_neg (by simp [isUnfilled, filled?, named])]
      rfl
    | chains body =>
      refine ⟨⟨.completed, rfl, rfl, ⟨rfl, rfl⟩, Or.inr ⟨step, member, _, body, rfl⟩⟩, ?_⟩
      simp only [Halt.diagnostic?, last, Option.map_some, body]
      rfl
    | refuses unreadable =>
      refine ⟨⟨.completed, rfl, rfl, ⟨rfl, rfl⟩, Or.inl rfl⟩, ?_⟩
      simp only [Halt.diagnostic?, last, Option.map_some]
      cases body : step.body <;> simp only [body, StepBody.isValid, reduceCtorEq] at unreadable
      all_goals rfl
    | lacksAgent body ai unassigned =>
      refine ⟨⟨.completed, rfl, rfl, ⟨rfl, rfl⟩, Or.inl rfl⟩, ?_⟩
      simp only [Halt.diagnostic?, last, Option.map_some, body, ai, unassigned]
      rfl

/-- Setting the time of the change alters none of the forms. -/
theorem Ending.Fits.stamped {f : Flow} {now : Instant} {steps : List Step} {r : RunResult} {ending : Ending}
    (fits : ending.Fits f now steps r) :
    ending.Fits f now steps { r with session := { r.session with updatedAt := now } } := by
  cases ending with
  | completed => exact ⟨fits.1, fits.2.1, ⟨fits.2.2.1.1, fits.2.2.1.2⟩, fits.2.2.2⟩
  | asking =>
    obtain ⟨step, content, parked, still, rest⟩ := fits
    exact ⟨step, content, ⟨parked.last, parked.active, parked.place, parked.sound⟩, ⟨still.1, still.2⟩, rest⟩
  | waiting =>
    obtain ⟨step, c, dueAt, parked, rest⟩ := fits
    exact ⟨step, c, dueAt, ⟨parked.last, parked.active, parked.place, parked.sound⟩, rest⟩
  | handed =>
    obtain ⟨step, c, agent, parked, still, rest⟩ := fits
    exact ⟨step, c, agent, ⟨parked.last, parked.active, parked.place, parked.sound⟩, ⟨still.1, still.2⟩, rest⟩

theorem run_fits {f : Flow} {options : RunOptions} {now : Instant} {s : Session} {rolls rest : List Float}
    {start : Option String} {r : RunResult} (ran : run f options now s rolls start = (.ok r, rest)) :
    (∃ ending : Ending, ending.Fits f now (trail f options now options.maxSteps s.fresh rolls start).1 r) ∧
    r.session.diagnostic = ((trail f options now options.maxSteps s.fresh rolls start).2.diagnostic? options
      (trail f options now options.maxSteps s.fresh rolls start).1.getLast?).map Diagnostic.name := by
  obtain ⟨ended, rfl, _, reached, passed, concludes⟩ := run_concludes ran
  obtain ⟨⟨ending, fits⟩, diagnostic⟩ := concludes.fits passed
  exact ⟨⟨ending, fits.stamped⟩, diagnostic⟩

/-- A run that comes to a result leaves the session in exactly one of four forms: completed, or parked at the step
taken last, which then asks, waits or hands over. The diagnostic says why a run ended before its flow did; it is
absent after any other end. -/
theorem run_ends_in_one_form {f : Flow} {options : RunOptions} {now : Instant} {s : Session}
    {rolls rest : List Float} {start : Option String} {r : RunResult}
    (ran : run f options now s rolls start = (.ok r, rest)) :
    let (steps, halt) := trail f options now options.maxSteps s.fresh rolls start
    r.executed = steps.map (fun step => step.body.kindName) ∧
    (∃ ending : Ending, ending.Fits f now steps r ∧ ∀ other : Ending, other.Fits f now steps r → other = ending) ∧
    r.session.diagnostic = (halt.diagnostic? options steps.getLast?).map Diagnostic.name := by
  obtain ⟨⟨ending, fits⟩, diagnostic⟩ := run_fits ran
  obtain ⟨ended, rfl, executed, _⟩ := run_concludes ran
  refine ⟨executed, ⟨ending, fits, ?_⟩, diagnostic⟩
  intro other fitsOther
  exact fitsOther.eq_told.trans fits.eq_told.symm

def handingFlow : Flow :=
  { id := "care",
    steps := [⟨"begin", .start none⟩, ⟨"bot", .assign { agentKind := .ai, agentId := some "ana" }⟩],
    connections := [⟨"c", "begin", "bot", none, none⟩] }

def newcomer (f : Flow) : Session :=
  { id := "s1", address := "+5215512345678", flowId := f.id, createdAt := ⟨0, 0⟩, updatedAt := ⟨0, 0⟩ }

theorem handing_run_ends_handed :
    ∃ r, run handingFlow {} ⟨5, 0⟩ (newcomer handingFlow) [] (some "begin") = (.ok r, []) ∧
      r.executed = ["start", "assign_conversation"] ∧
      (∃ ending : Ending, ending.Fits handingFlow ⟨5, 0⟩ handingFlow.steps r ∧
        ∀ other : Ending, other.Fits handingFlow ⟨5, 0⟩ handingFlow.steps r → other = ending) ∧
      r.session.diagnostic = none :=
  ⟨_, rfl, @run_ends_in_one_form handingFlow {} ⟨5, 0⟩ (newcomer handingFlow) [] [] (some "begin") _ rfl⟩

end Chatflow.Proofs.RunEndings
