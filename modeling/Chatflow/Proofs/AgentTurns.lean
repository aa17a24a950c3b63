import Chatflow.Conversation.Continue
import Chatflow.Proofs.WorkLogic

/-! What a turn of an AI agent does to the session: nothing if it fails; otherwise it counts and is remembered, and
the last one ends the session. -/

namespace Chatflow.Proofs.AgentTurns
open Conversation Delegate WorkLogic

/-- What a turn that did not fail makes of a session. -/
inductive Taken (s : Session) : Bool → Session → Prop where
  | goesOn (vars : Fields) : Taken s false { s with vars := vars, aiTurns := s.aiTurns + 1 }
  | ends (vars : Fields) : Taken s true (endAssignment { s with vars := vars, aiTurns := s.aiTurns + 1 })

theorem Taken.id {s updated : Session} {ended : Bool} (taken : Taken s ended updated) : updated.id = s.id := by
  cases taken with
  | goesOn | ends => rfl

theorem Taken.saved {s updated : Session} {ended : Bool} (taken : Taken s ended updated) (now : Instant) :
    (turnChange updated).apply now s =
      { updated with updatedAt := now, loose := ((turnChange updated).apply now s).loose } := by
  cases taken with
  | goesOn | ends => rfl

section
variable {setup : Setup} {s updated : Session} {agent : Option Agent} {a : Agent} {message : Value} {history : List Value}
  {result : Except Fault String} {turn : Delegate.Outcome} {o answered rest : Outside}

/-- An agent that is active is asked for what it says to a message, with what it remembers. -/
structure Asks (setup : Setup) (s : Session) (agent : Option Agent) (message : Value) (o : Outside) (a : Agent)
    (history : List Value) (result : Except Fault String) (answered : Outside) : Prop where
  available : agent = some a
  active : a.isActive = true
  stored : storedHistory s.vars = .ok history
  completes : Completion.complete setup a s.id message (.list (lastTurns setup.historyWindow history))
    (decide (a.maxTurns ≤ s.aiTurns + 1)) o = (result, answered)

theorem Asks.present (asks : Asks setup s agent message o a history result answered) :
    agent.filter Agent.isActive = some a := by
  rw [asks.available, Option.filter_some, if_pos asks.active]

/-- All that can come of a turn, with the session and the outside after it. -/
inductive TurnBrings (setup : Setup) (s : Session) (agent : Option Agent) (message : Value) (o : Outside) :
    Delegate.Outcome → Session → Outside → Prop where
  | unavailable (absent : agent.filter Agent.isActive = none) : TurnBrings setup s agent message o failure s o
  | unanswered {a history fault answered} (asks : Asks setup s agent message o a history (.error fault) answered) :
      TurnBrings setup s agent message o failure s answered
  | goesOn {a history text answered} (asks : Asks setup s agent message o a history (.ok text) answered)
      (silent : (Handoff.split text).2.isSome = false) (left : ¬ a.maxTurns ≤ s.aiTurns + 1) :
      TurnBrings setup s agent message o { reply := (Handoff.split text).1 }
        (noteTurn setup.historyWindow (lastTurns setup.historyWindow history) message (Handoff.split text).1 s) answered
  | ends {a history text answered payload plain ended rest}
      (asks : Asks setup s agent message o a history (.ok text) answered)
      (last : (Handoff.split text).2.isSome = true ∨ a.maxTurns ≤ s.aiTurns + 1)
      (read : readHandoff (Handoff.split text).1 (Handoff.split text).2 = .ok (payload, plain))
      (noted : ended = endAssignment
        (noteTurn setup.historyWindow (lastTurns setup.historyWindow history) message (Handoff.split text).1 s))
      (told : rest = (Notification.notifyHandoff setup ended agent payload plain answered).2) :
      TurnBrings setup s agent message o
        { reply := (Handoff.split text).1, ended := true, payload := payload, plain := plain } ended rest

/-- What comes of a turn when an agent says something: the conversation goes on, or it ends and a human is told, unless
what is to be told cannot be read. -/
def answerTurn (setup : Setup) (s : Session) (agent : Option Agent) (closing : Bool) (message : Value)
    (history : List Value) (text : String) (answered : Outside) : Except Fault (Delegate.Outcome × Session) × Outside :=
  let noted := noteTurn setup.historyWindow (lastTurns setup.historyWindow history) message (Handoff.split text).1 s
  if (Handoff.split text).2.isNone && !closing then (.ok ({ reply := (Handoff.split text).1 }, noted), answered)
  else match readHandoff (Handoff.split text).1 (Handoff.split text).2 with
    | .error fault => (.error fault, answered)
    | .ok (payload, plain) =>
      (.ok ({ reply := (Handoff.split text).1, ended := true, payload := payload, plain := plain }, endAssignment noted),
        (Notification.notifyHandoff setup (endAssignment noted) agent payload plain answered).2)

/-- A turn of an agent that is active: what it remembers is read, providers are asked, and their answer is followed. -/
theorem handleTurn_active (present : agent.filter Agent.isActive = some a) :
    handleTurn setup s agent message o = match storedHistory s.vars with
      | .error fault => (.error fault, o)
      | .ok history =>
        match Completion.complete setup a s.id message (.list (lastTurns setup.historyWindow history))
          (decide (a.maxTurns ≤ s.aiTurns + 1)) o with
        | (.error _, answered) => (.ok (failure, s), answered)
        | (.ok text, answered) =>
          answerTurn setup s agent (decide (a.maxTurns ≤ s.aiTurns + 1)) message history text answered := by
  have checked {α : Type} (e : Except Fault α) (o : Outside) : handleTurn.liftExcept e o = (e, o) := rfl
  have lifted {α : Type} (work : StateM Outside α) (o : Outside) :
      (ExceptT.lift work : ExceptT Fault (StateM Outside) α) o = (.ok (work o).1, (work o).2) := rfl
  unfold handleTurn answerTurn
  simp only [present, bind_apply, checked, lifted]
  cases storedHistory s.vars with
  | error fault => rfl
  | ok history =>
    dsimp only
    rcases Completion.complete setup a s.id message (.list (lastTurns setup.historyWindow history))
      (decide (a.maxTurns ≤ s.aiTurns + 1)) o with ⟨fault | text, answered⟩
    · rfl
    · dsimp only
      split
      · rfl
      · simp only [bind_apply, checked, lifted]
        cases readHandoff (Handoff.split text).1 (Handoff.split text).2 <;> rfl

/-- An agent that is missing or not active takes no turn. -/
theorem handleTurn_unavailable (unavailable : agent.filter Agent.isActive = none) :
    handleTurn setup s agent message o = (.ok (failure, s), o) := by
  unfold handleTurn
  rw [unavailable]
  rfl

/-- If no provider gives a reply, nothing comes of the turn. -/
theorem handleTurn_unanswered {fault : Fault} (asks : Asks setup s agent message o a history (.error fault) answered) :
    handleTurn setup s agent message o = (.ok (failure, s), answered) := by
  rw [handleTurn_active asks.present, asks.stored]
  dsimp only
  rw [asks.completes]

theorem handleTurn_answered {text : String} (asks : Asks setup s agent message o a history (.ok text) answered) :
    handleTurn setup s agent message o =
      answerTurn setup s agent (decide (a.maxTurns ≤ s.aiTurns + 1)) message history text answered := by
  rw [handleTurn_active asks.present, asks.stored]
  dsimp only
  rw [asks.completes]

theorem handleTurn_brings (took : handleTurn setup s agent message o = (.ok (turn, updated), rest)) :
    TurnBrings setup s agent message o turn updated rest := by
  cases present : agent.filter Agent.isActive with
  | none =>
    rw [handleTurn_unavailable present] at took
    cases took
    exact .unavailable present
  | some a =>
    obtain ⟨available, active⟩ := Option.filter_eq_some_iff.mp present
    cases stored : storedHistory s.vars with
    | error fault =>
      rw [handleTurn_active present, stored] at took
      cases took
    | ok history =>
      rcases completes : Completion.complete setup a s.id message (.list (lastTurns setup.historyWindow history))
        (decide (a.maxTurns ≤ s.aiTurns + 1)) o with ⟨fault | text, answered⟩
      · have asks : Asks setup s agent message o a history _ answered := ⟨available, active, stored, completes⟩
        rw [handleTurn_unanswered asks] at took
        cases took
        exact .unanswered asks
      · have asks : Asks setup s agent message o a history _ answered := ⟨available, active, stored, completes⟩
        rw [handleTurn_answered asks] at took
        unfold answerTurn at took
        split at took
        next goesOn =>
          cases took
          simp only [Bool.and_eq_true, Option.isNone_iff_eq_none, Bool.not_eq_true', decide_eq_false_iff_not] at goesOn
          exact .goesOn asks (by rw [goesOn.1]; rfl) goesOn.2
        next ends =>
          split at took
          next => cases took
          next payload plain read =>
            cases took
            have last : (Handoff.split text).2.isSome = true ∨ a.maxTurns ≤ s.aiTurns + 1 := by
              cases carried : (Handoff.split text).2 with
              | some payload => exact Or.inl rfl
              | none => simpa [carried] using ends
            exact .ends asks last read rfl rfl

/-- Of a turn that fails nothing comes but the reply that stands in for an agent's. -/
theorem handleTurn_failed (took : handleTurn setup s agent message o = (.ok (turn, updated), rest))
    (failed : turn.failed = true) : turn = failure := by
  cases handleTurn_brings took with
  | unavailable | unanswered => rfl
  | goesOn | ends => cases failed

/-- A turn leaves the session as it was, or takes it on. -/
theorem handleTurn_session (took : handleTurn setup s agent message o = (.ok (turn, updated), rest)) :
    (turn.failed = true ∧ updated = s) ∨ (turn.failed = false ∧ Taken s turn.ended updated) := by
  cases handleTurn_brings took with
  | unavailable | unanswered => exact Or.inl ⟨rfl, rfl⟩
  | goesOn => exact Or.inr ⟨rfl, .goesOn _⟩
  | ends _ _ _ noted _ =>
    rw [noted]
    exact Or.inr ⟨rfl, .ends _⟩

end

end Chatflow.Proofs.AgentTurns
