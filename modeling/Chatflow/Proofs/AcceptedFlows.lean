import Chatflow.Proofs.FlowPaths
import Chatflow.Proofs.WellFormedFlows
import Mathlib

/-! Flows that are let in. What is looked at when a flow is loaded is enough for every conversation in it: whatever is
replied and however long it waits, it is never led to a step that the flow does not have or that cannot be read. -/

namespace Chatflow.Proofs.AcceptedFlows
open Chatflow.Flow Interpreter StepEffects RunEndings FlowPaths WellFormedFlows

variable {f : Flow}

/-- A flow in which nothing leads astray. -/
structure Navigable (f : Flow) : Prop where
  begins : ∃ step, f.startStep? = some step
  connected : ∀ c ∈ f.connections, (f.step? c.target).isSome = true
  readable : ∀ step ∈ f.steps, step.body.isValid = true

theorem load_accepts {given : Flow} (accepted : given.load = .ok f) : given = f ∧ f.validate.errors = [] := by
  obtain ⟨same, wellFormed⟩ := load_ok_iff.mp accepted
  exact ⟨same, validate_clean_iff.mpr wellFormed⟩

theorem navigable_of_validate (clean : f.validate.errors = []) : Navigable f := by
  have wellFormed := validate_clean_iff.mp clean
  refine ⟨?_, fun c member => step?_isSome.mpr (wellFormed.joined c member).2, wellFormed.readable⟩
  obtain ⟨first, listed⟩ := List.length_eq_one_iff.mp wellFormed.start
  have inside : first ∈ f.steps.filter fun step => step.body.kind? = some .start := by rw [listed]; exact List.mem_cons_self
  obtain ⟨member, starts⟩ := List.mem_filter.mp inside
  exact Option.isSome_iff_exists.mp (List.find?_isSome.mpr ⟨first, member, by simpa [isStart] using starts⟩)

/-- A run in such a flow that begins at none or at one of its steps comes to no step that is missing or unreadable. -/
theorem Navigable.diagnostic (navigable : Navigable f) {options : RunOptions} {now : Instant} {s : Session}
    {rolls rest : List Float} {start : Option String} {r : RunResult}
    (ran : run f options now s rolls start = (.ok r, rest)) (begins : HoldsAt (fun id => (f.step? id).isSome) start) :
    r.session.diagnostic = none ∨ r.session.diagnostic = some Diagnostic.stepLimit.name ∨
      r.session.diagnostic = some Diagnostic.missingAgent.name := by
  have handed : HandedOn f fun id => (f.step? id).isSome := fun c member _ => navigable.connected c member
  obtain ⟨taken, astray⟩ := trail_holds handed options now options.maxSteps s.fresh rolls begins
  rw [(run_fits ran).2]
  cases halt : (trail f options now options.maxSteps s.fresh rolls start).2 with
  | finished => exact Or.inl rfl
  | exhausted => exact Or.inr (Or.inl rfl)
  | lost =>
    obtain ⟨id, present, missing⟩ := astray halt
    rw [missing] at present
    cases present
  | stopped =>
    cases last : (trail f options now options.maxSteps s.fresh rolls start).1.getLast? with
    | none => exact Or.inl rfl
    | some step =>
      have found := (taken step (List.mem_of_getLast? last)).2
      have readable := navigable.readable step (List.mem_of_find?_eq_some found)
      simp only [Halt.diagnostic?, Option.map_some]
      cases body : step.body with
      | invalid | unknown => rw [body] at readable; cases readable
      | assign c =>
        dsimp only
        split
        · exact Or.inr (Or.inr rfl)
        · exact Or.inl rfl
      | _ => exact Or.inl rfl

/-- In a flow that was let in no conversation is ever led to a step that does not exist or cannot be read: however it
goes on, with replies and waits in any order, none of its runs is ended for such a reason. -/
theorem accepted_flow_leads_no_conversation_astray {given : Flow} (accepted : given.load = .ok f) {r : RunResult}
    (talked : Conversation f r) :
    r.session.diagnostic ≠ some Diagnostic.missingStep.name ∧
    r.session.diagnostic ≠ some Diagnostic.invalidConfig.name := by
  have navigable := navigable_of_validate (load_accepts accepted).2
  have handed : HandedOn f fun id => (f.step? id).isSome := fun c member _ => navigable.connected c member
  obtain ⟨first, starts⟩ := navigable.begins
  have begins : HoldsAt (fun id => (f.step? id).isSome) (f.startStep?.map Step.id) := by
    rw [starts]
    intro id same
    cases same
    exact List.find?_isSome.mpr ⟨first, List.mem_of_find?_eq_some starts, beq_self_eq_true first.id⟩
  obtain ⟨⟨options, now, s, rolls, rest, start, ran, led⟩, _⟩ := talked.reaches handed begins
  rcases navigable.diagnostic ran led with told | told | told <;> rw [told] <;> exact ⟨by decide, by decide⟩

def ask : Step := ⟨"ask", .question { text := "How old are you?", storeKey := some "age" }⟩

/-- A flow with one question. -/
def interview : Flow :=
  { id := "interview", steps := [⟨"begin", .start none⟩, ask], connections := [⟨"c", "begin", "ask", none, none⟩] }

theorem interview_asks :
    ∃ asked, run interview {} ⟨5, 0⟩ (newcomer interview) [] (some "begin") = (.ok asked, []) ∧
      asked.session.currentStep = some "ask" := by
  have prompt : Template.fill (newcomer interview).fresh.vars "How old are you?" = .ok "How old are you?" := by cbv
  have asks : effectOf interview {} ⟨5, 0⟩ ask (newcomer interview).fresh [] =
      (.ok ⟨(newcomer interview).fresh.park "ask",
        [⟨envelope "ask" ((newcomer interview).fresh.park "ask"), .message "How old are you?"⟩], .stop none⟩, []) := by
    simp only [effectOf, ask, prompt]
    rfl
  have first : interview.step? "begin" = some ⟨"begin", .start none⟩ := rfl
  have passes : effectOf interview {} ⟨5, 0⟩ ⟨"begin", .start none⟩ (newcomer interview).fresh [] =
      (.ok ⟨(newcomer interview).fresh, [], .goto (some "ask")⟩, []) := rfl
  have second : interview.step? "ask" = some ask := rfl
  simp only [run, walk, first, passes, second, asks]
  exact ⟨_, rfl, rfl⟩

theorem answered_interview_ends_soundly :
    interview.load = .ok interview ∧
    ∃ asked last, Conversation interview asked ∧ asked.session.currentStep = some "ask" ∧
      Conversation interview last ∧ last.session.vars.get? "age" = some (.str "30") ∧
      last.session.diagnostic ≠ some Diagnostic.missingStep.name ∧
      last.session.diagnostic ≠ some Diagnostic.invalidConfig.name := by
  have accepted : interview.load = .ok interview := by cbv
  obtain ⟨asked, ran, place⟩ := interview_asks
  have talked : Conversation interview asked := .begins ran
  have resolved : Reply.resolve interview asked.session.currentStep "30" = .ok .endOfFlow := by rw [place]; rfl
  have answered : ∃ last, continueFromReply interview {} ⟨6, 0⟩ asked.session [] asked.session.currentStep (.str "30")
      none none = (.ok last, []) ∧
      last.session.vars = (asked.session.vars.set "last_reply" (.str "30")).set "age" (.str "30") := by
    rw [place]
    exact ⟨_, rfl, rfl⟩
  obtain ⟨last, answered, vars⟩ := answered
  have replied : Conversation interview last := .replied talked resolved answered
  have kept : last.session.vars.get? "age" = some (.str "30") := by simp only [vars, Fields.get?_set, if_true]
  exact ⟨accepted, asked, last, talked, place, replied, kept, accepted_flow_leads_no_conversation_astray accepted replied⟩

end Chatflow.Proofs.AcceptedFlows
