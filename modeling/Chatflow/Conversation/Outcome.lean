import Chatflow.Action
import Chatflow.Request

/-! What comes of an event or a request. -/

namespace Chatflow

inductive OutcomeStatus where
  | ignored
  | duplicate
  | conflict
  | noMatch
  | started
  | flowMissing
  | waiting
  | continued
  | stale
  | aiFailed
  | aiHandoff
  | aiReply
  | notFound
  | notDue
  | resumed
  | reset
deriving Repr, DecidableEq

def OutcomeStatus.name : OutcomeStatus → String
  | ignored => "ignored"
  | duplicate => "duplicate"
  | conflict => "conflict"
  | noMatch => "no_match"
  | started => "started"
  | flowMissing => "flow_missing"
  | waiting => "waiting"
  | continued => "continued"
  | stale => "stale"
  | aiFailed => "ai_failed"
  | aiHandoff => "ai_handoff"
  | aiReply => "ai_reply"
  | notFound => "not_found"
  | notDue => "not_due"
  | resumed => "resumed"
  | reset => "reset"

/-- What came of an event or a request: the sessions concerned, and the actions that go out for them. -/
structure Outcome where
  status : OutcomeStatus
  sessionIds : List String := []
  actions : List Action := []
deriving Repr, DecidableEq

namespace Outcome

/-- An outcome with sessions and actions of another one added. -/
def extend (o other : Outcome) : Outcome :=
  { o with sessionIds := o.sessionIds ++ other.sessionIds, actions := o.actions ++ other.actions }

def report (o : Outcome) : RunReport :=
  ⟨o.status.name, o.sessionIds, o.actions.filterMap fun a => a.toValue.fields?⟩

end Outcome

end Chatflow
