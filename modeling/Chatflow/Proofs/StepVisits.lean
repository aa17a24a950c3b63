import Chatflow.Proofs.RunEndings

/-! Walks taken apart into their steps. A walk comes to each step with the session that the step before has left, and
sends what its steps send, in their order. A walk that fails has still taken the steps before the one that it fails at. -/

namespace Chatflow.Proofs.StepVisits
open Interpreter StepEffects RunEndings

/-- A step that is taken: the session that comes to it, and what the step does. -/
structure Visit where
  step : Step
  before : Session
  effect : Effect

def visits (f : Flow) (options : RunOptions) (now : Instant) : Nat → Session → List Float → Option String → List Visit
  | _, _, _, none => []
  | 0, _, _, some _ => []
  | left + 1, s, rolls, some stepId =>
    match f.step? stepId with
    | none => []
    | some step =>
      match effectOf f options now step s rolls with
      | (.error _, _) => []
      | (.ok effect, rolls) =>
        ⟨step, s, effect⟩ :: match effect.onward with
          | .stop _ => []
          | .goto next => visits f options now left effect.session rolls next

/-- The step is one of the flow, and has done what such a step does. -/
structure Visit.Taken (f : Flow) (options : RunOptions) (now : Instant) (v : Visit) : Prop where
  found : f.step? v.step.id = some v.step
  done : ∃ rolls rest, effectOf f options now v.step v.before rolls = (.ok v.effect, rest)

/-- Visits one after another, from the session that comes to the first to the one that the last leaves. -/
inductive Chain (f : Flow) (options : RunOptions) (now : Instant) : Session → List Visit → Session → Prop where
  | nil (s : Session) : Chain f options now s [] s
  | cons {v vs last} (taken : v.Taken f options now) (onward : Chain f options now v.effect.session vs last) :
      Chain f options now v.before (v :: vs) last

variable {f : Flow} {options : RunOptions} {now : Instant} {s last : Session} {rolls rest : List Float} {left : Nat}
  {start : Option String}

/-- The induction is on the steps left to take. -/
theorem visits_chain (f : Flow) (options : RunOptions) (now : Instant) (left : Nat) (s : Session) (rolls : List Float)
    (start : Option String) : ∃ last, Chain f options now s (visits f options now left s rolls start) last ∧
      ∀ r rest, walk f options now left s rolls start = (.ok r, rest) → r.session.vars = last.vars := by
  induction left generalizing s rolls start with
  | zero => cases start <;> exact ⟨s, .nil s, fun _ _ walked => by cases walked; rfl⟩
  | succ left ih =>
    cases start with
    | none => exact ⟨s, .nil s, fun _ _ walked => by cases walked; rfl⟩
    | some id =>
      cases found : f.step? id with
      | none =>
        simp only [visits, walk, found]
        exact ⟨s, .nil s, fun _ _ walked => by cases walked; rfl⟩
      | some step =>
        rcases done : effectOf f options now step s rolls with ⟨_ | effect, remaining⟩
        · simp only [visits, walk, found, done]
          exact ⟨s, .nil s, fun _ _ walked => by cases walked⟩
        · have taken : Visit.Taken f options now ⟨step, s, effect⟩ := ⟨step?_self found, rolls, remaining, done⟩
          simp only [visits, walk, found, done]
          cases effect.onward with
          | stop directive => exact ⟨effect.session, .cons taken (.nil _), fun _ _ walked => by cases walked; rfl⟩
          | goto next =>
            obtain ⟨last, chain, vars⟩ := ih effect.session remaining next
            refine ⟨last, .cons taken chain, fun _ _ walked => ?_⟩
            rcases onwards : walk f options now left effect.session remaining next with ⟨_ | r, final⟩ <;>
              simp only [onwards, Except.map] at walked <;> cases walked
            exact (vars r _ onwards : r.session.vars = last.vars)

theorem Chain.taken {vs : List Visit} (chain : Chain f options now s vs last) : ∀ v ∈ vs, v.Taken f options now := by
  induction chain with
  | nil => exact fun v member => by cases member
  | cons taken _ ih => exact List.forall_mem_cons.mpr ⟨taken, ih⟩

theorem visits_taken : ∀ v ∈ visits f options now left s rolls start, v.Taken f options now := by
  obtain ⟨_, chain, _⟩ := visits_chain f options now left s rolls start
  exact chain.taken

/-- The session that is passed on along the way stays in one conversation. -/
theorem Chain.sameConversation {vs : List Visit} (chain : Chain f options now s vs last) :
    ∀ v ∈ vs, SameConversation s v.before := by
  induction chain with
  | nil => exact fun v member => by cases member
  | cons taken _ ih =>
    obtain ⟨rolls, rest, done⟩ := taken.done
    exact List.forall_mem_cons.mpr
      ⟨⟨rfl, rfl, rfl, rfl, rfl, rfl⟩, fun v later => (effectOf_does done).sameConversation.trans (ih v later)⟩

/-- A walk that returns has taken the steps of its trail, and sends what they send. -/
theorem walk_visits {r : RunResult} (walked : walk f options now left s rolls start = (.ok r, rest)) :
    (trail f options now left s rolls start).1 = (visits f options now left s rolls start).map Visit.step ∧
    r.actions = (visits f options now left s rolls start).flatMap fun v => v.effect.actions := by
  induction left generalizing s rolls start r with
  | zero => cases start <;> cases walked <;> exact ⟨rfl, rfl⟩
  | succ left ih =>
    cases start with
    | none => cases walked; exact ⟨rfl, rfl⟩
    | some id =>
      cases found : f.step? id with
      | none =>
        simp only [walk, found] at walked
        cases walked
        simp [trail, visits, found, ended]
      | some step =>
        rcases done : effectOf f options now step s rolls with ⟨_ | ⟨after, actions, onward⟩, remaining⟩
        · simp only [walk, found, done] at walked
          cases walked
        · cases onward with
          | stop directive =>
            simp only [walk, found, done] at walked
            cases walked
            simp [trail, visits, found, done]
          | goto next =>
            rcases onwards : walk f options now left after remaining next with ⟨_ | last, final⟩ <;>
              simp only [walk, found, done, onwards, Except.map] at walked <;> cases walked
            obtain ⟨steps, sent⟩ := ih onwards
            simp only [trail, visits, found, done, steps, List.map_cons, List.flatMap_cons, RunResult.after, sent,
              and_self]

end Chatflow.Proofs.StepVisits
