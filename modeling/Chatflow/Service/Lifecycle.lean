import Chatflow.Documents.Guard

/-! Start and stop of the service. Where sessions are kept in the process, the process itself looks for waits
that are over; where they are in the database, a scheduler on its own does. -/

namespace Chatflow.Service

/-- What is asked of a scheduler of jobs. -/
inductive SchedulerCall where
  | create (zone : String)
  /-- Looks for waits that are over, again and again after so many seconds. -/
  | resumeWaits (seconds : Int)
  | start
  | shutdown (waits : Bool)
  | sleep (seconds : Int)
deriving Repr, DecidableEq

def SchedulerCall.toValue : SchedulerCall → Value
  | create zone => .list [.str "scheduler", .str zone]
  | resumeWaits seconds =>
    .list [.str "add_job", .str "resume_due_waits", .str "interval",
      .obj [("seconds", .int seconds), ("id", .str "wait_resume_job"), ("max_instances", .int 1),
        ("coalesce", .bool true), ("replace_existing", .bool true)]]
  | start => .list [.str "start"]
  | shutdown waits => .list [.str "shutdown", .bool waits]
  | sleep seconds => .list [.str "sleep", .int seconds]

/-- What it takes to have waits looked for. -/
def scheduling (s : Settings) : List SchedulerCall := [.create s.zone, .resumeWaits s.waitPollSeconds, .start]

def usesDatabase (s : Settings) : Bool := s.sessionBackend == "mongo"

/-- Whether the process looks for waits itself. -/
def schedulesItself (s : Settings) : Bool := s.sessionBackend == "memory"

def start (s : Settings) : StateM Outside (List SchedulerCall) := do
  if usesDatabase s then Documents.createIndexes
  return if schedulesItself s then scheduling s else []

def stop (s : Settings) : StateM Outside (List SchedulerCall) := do
  if usesDatabase s then
    let _ ← Documents.command .close
  return if schedulesItself s then [.shutdown false] else []

/-- Whether the connections of the channel, of notifications and of alerts are closed, as far as there are
such connections. -/
structure Connections where
  channel : Bool
  notifications : Option Bool
  alerting : Option Bool
deriving Repr, DecidableEq

def connections (setup : Setup) (closed : Bool) : Connections :=
  ⟨closed, setup.mail.map fun _ => closed, if setup.hasAlerting then some closed else none⟩

def Connections.toValue (c : Connections) : Value :=
  let value (closed : Option Bool) : Value := (closed.map Value.bool).getD .null
  .obj [("whatsapp", .bool c.channel), ("notifications", value c.notifications), ("alerting", value c.alerting)]

/-- How long the scheduler on its own sleeps at a time. -/
def sleepSeconds : Int := 3600

/-- What the scheduler on its own does until it is interrupted in one of its sleeps: nothing, if sessions are
not kept where it could find them. -/
def standalone (s : Settings) (sleeps : Nat) : Option (List SchedulerCall) :=
  if usesDatabase s then
    some (scheduling s ++ List.replicate (max 1 sleeps) (.sleep sleepSeconds) ++ [.shutdown true])
  else none

def keyFor? (s : Settings) : Provider → Option String
  | .gemini => filled? s.geminiKey
  | .openai => filled? s.openaiKey

end Chatflow.Service
