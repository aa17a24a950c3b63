import Chatflow.Value.Basic

/-! What is counted while the service runs. A family has one series for each combination of its labels. -/

namespace Chatflow

inductive MetricKind where
  | counter
  | gauge
  | histogram
deriving Repr, DecidableEq

def MetricKind.name : MetricKind → String
  | counter => "counter"
  | gauge => "gauge"
  | histogram => "histogram"

structure MetricFamily where
  name : String
  kind : MetricKind := .counter
deriving Repr, DecidableEq

namespace MetricFamily

def toValue (f : MetricFamily) : Value := .list [.str f.name, .str f.kind.name]

def all : List MetricFamily :=
  [⟨"ai_agent_turns_total", .counter⟩, ⟨"ai_requests_total", .counter⟩, ⟨"cache_operations_total", .counter⟩,
    ⟨"circuit_breaker_state", .gauge⟩, ⟨"database_operations_total", .counter⟩,
    ⟨"flow_actions_dispatched_total", .counter⟩, ⟨"flow_reply_resolutions_total", .counter⟩,
    ⟨"flow_session_conflicts_total", .counter⟩, ⟨"flow_sessions_completed_total", .counter⟩,
    ⟨"flow_steps_executed_total", .counter⟩, ⟨"flow_wait_resumes_total", .counter⟩,
    ⟨"flows_triggered_total", .counter⟩, ⟨"response_time_seconds", .histogram⟩,
    ⟨"webhook_signature_verifications_total", .counter⟩, ⟨"whatsapp_messages_total", .counter⟩]

end MetricFamily

end Chatflow
