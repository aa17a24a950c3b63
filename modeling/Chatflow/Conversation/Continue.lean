import Chatflow.Conversation.Lock
import Chatflow.Conversation.Start
import Chatflow.Delegate
import Chatflow.Reply

/-! Replies to a session: they go to the AI agent that owns the conversation, or on through the flow from the
step at which the session is parked. If the session has changed meanwhile, the reply is looked at anew. -/

namespace Chatflow.Conversation

/-- What every action for a session says about it. -/
def envelopeOf (s : Session) : Envelope := ⟨s.address, s.deviceId, some s.id, s.currentStep, 0⟩

def textFor (s : Session) (text : String) : Action := ⟨envelopeOf s, .message text⟩

def missingFlowChange (s : Session) : Change :=
  { step := none, vars := s.vars, status := .completed,
    diagnostic := some (some Diagnostic.missingFlow.name) }

def turnChange (s : Session) : Change :=
  { step := s.currentStep, vars := s.vars, status := s.status, assignee := some s.assignee,
    aiTurns := some s.aiTurns }

/-- The agent that owns a conversation. -/
def ownerOf (setup : Setup) (s : Session) : Work (Option Agent) :=
  match s.assignee.bind fun a => filled? a.id with
  | some id => Offer.agent? setup id
  | none => return none

def turnStatus (turn : Delegate.Outcome) : OutcomeStatus :=
  if turn.failed then .aiFailed else if turn.ended then .aiHandoff else .aiReply

def continueWithAgent (setup : Setup) (s : Session) (e : Event) : Work Outcome := do
  let agent ← ownerOf setup s
  let (turn, updated) ← handle (Delegate.handleTurn setup s agent (.str e.answer))
  if !turn.failed then
    let _ ← Store.swap setup updated.id s.currentStep (turnChange updated)
  return ⟨turnStatus turn, [s.id], if turn.reply = "" then [] else [textFor s turn.reply]⟩
where
  /-- Work on the outside that may fail. -/
  handle {α : Type} (work : ExceptT Fault (StateM Outside) α) : Work α := Work.tryOutside work.run

/-- The run that a reply leads to from the session as it was read, or `none` if the reply leads nowhere. -/
def runReply (setup : Setup) (f : Flow) (s : Session) (e : Event) : Work (Option Interpreter.RunResult) := do
  let resolution ← Work.check (Reply.resolve f s.currentStep e.reply)
  if resolution.matchedBy = .noMatch then return none
  let options ← Work.check (runOptions setup)
  let now ← Work.check setup.utcNow
  let r ← running fun rolls =>
    Interpreter.continueFromReply f options now s rolls s.currentStep (.str e.answer) resolution.next
      resolution.optionId
  return some r

/-- What becomes of a reply at the session as it was read: an outcome, or `none` if the session has changed
before it could be saved. -/
def tryReply (setup : Setup) (f : Flow) (s : Session) (e : Event) : Work (Option Outcome) := do
  match ← runReply setup f s e with
  | none => return some ⟨.noMatch, [s.id], [textFor s Wording.invalidOption]⟩
  | some r =>
    if ← commit setup s r then
      return some (← follow setup s.address r ⟨.continued, [s.id], r.actions⟩)
    return none

/-- Looks at a reply anew while the session changes meanwhile, so many times. -/
def continueSession (setup : Setup) (e : Event) : Nat → Session → Work Outcome
  | 0, s => Work.fail (.continueConflict s.id setup.settings.swapAttempts)
  | left + 1, s => do
    match ← Offer.flow? setup s.flowId with
    | none =>
      let _ ← Store.swap setup s.id s.currentStep (missingFlowChange s)
      return ⟨.flowMissing, [s.id], []⟩
    | some f =>
      if s.isAiAssigned then continueWithAgent setup s e
      else if s.isWaiting then return ⟨.waiting, [s.id], []⟩
      else
        match ← tryReply setup f s e with
        | some outcome => return outcome
        | none =>
          match (← Store.get setup s.id).filter Session.isActive with
          | some current => continueSession setup e left current
          | none => return ⟨.stale, [s.id], []⟩

def continueFrom (setup : Setup) (s : Session) (e : Event) : Work Outcome :=
  continueSession setup e setup.settings.swapAttempts.toNat s

end Chatflow.Conversation
