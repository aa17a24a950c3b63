import Chatflow.Conversation.Outcome
import Chatflow.Event
import Chatflow.Interpreter
import Chatflow.Store.Backend

/-! Runs that are saved, and flows that are started. A run starts from a stored session, and what comes of it
is saved only if the session still stands where it stood. A flow can start another one, and that one the next;
such chains have bounded length. -/

namespace Chatflow.Conversation

/-- How many flows may be started one by another. -/
def maxChained : Nat := 5

def runOptions (setup : Setup) : Except Fault RunOptions := do
  let zone ← (Zone.find setup.settings.zone).mapError .noZone
  return ⟨setup.settings.maxSteps.toNat, setup.settings.defaultAgent, zone⟩

/-- A run, which may draw lots. -/
def running {α : Type} (run : List Float → Except Fault α × List Float) : Work α := fun w =>
  let (result, rolls) := run w.rolls
  (result, { w with rolls := rolls })

def savedChange (s : Session) : Change :=
  { step := s.currentStep, vars := s.vars, status := s.status, assignee := some s.assignee,
    aiTurns := some s.aiTurns, resumeAt := some s.resumeAt, resumeStep := some s.resumeStep,
    diagnostic := some s.diagnostic }

/-- Saves a run that started from a session, and tells whether that was still possible. -/
def commit (setup : Setup) (before : Session) (r : Interpreter.RunResult) : Work Bool :=
  Store.swap setup r.session.id before.currentStep (savedChange r.session)

/-- The variables of a new session: what is known of the contact and the event, and what is given. -/
def initialVariables (address : String) (event : Option Event) (given : Fields) : Fields :=
  let known : Fields := [("phone", .str address)]
  let told : Fields := match event with
    | some e =>
      let tag : Fields := match filled? e.tagId with
        | some tagId => [("tag_id", .str tagId)]
        | none => []
      (known ++ [("message", .str e.text), ("name", .str (e.contactName.getD "")),
        ("contactId", .ofText? e.contactId)] ++ tag : Fields).merge e.payload
    | none => known
  told.merge given

/-- The flow that a run asks to be started, if it is on offer. -/
def chainedFlow? (setup : Setup) (r : Interpreter.RunResult) : Work (Option Flow) := do
  match r.directive with
  | some (.startFlow flowId) => return (← Offer.flow? setup flowId).filter Flow.isActive
  | _ => return none

/-- Makes a session for a contact in a flow, and saves its first run, which begins at a given step or else at the
start step of the flow. -/
def firstRun (setup : Setup) (address : String) (f : Flow) (vars : Fields) (deviceId firstStep : Option String) :
    Work (Session × Interpreter.RunResult) := do
  let s ← Store.create setup ⟨address, f.id⟩ vars deviceId
  let options ← Work.check (runOptions setup)
  let from? := (filled? firstStep).orElse fun _ => f.startStep?.map Step.id
  let now ← Work.check setup.utcNow
  let r ← running fun rolls => Interpreter.run f options now s rolls from?
  if ← commit setup s r then return (s, r)
  Work.fail (.startConflict s.id)

/-- Starts a flow for a contact, and then what it asks to be started, up to so many flows more. -/
def start (setup : Setup) (address : String) :
    Nat → Flow → Fields → Option String → Option String → Work Outcome
  | 0, f, vars, deviceId, firstStep => do
    let (s, r) ← firstRun setup address f vars deviceId firstStep
    return ⟨.started, [s.id], r.actions⟩
  | left + 1, f, vars, deviceId, firstStep => do
    let (s, r) ← firstRun setup address f vars deviceId firstStep
    let started : Outcome := ⟨.started, [s.id], r.actions⟩
    match ← chainedFlow? setup r with
    | some next =>
      return started.extend (← start setup address left next
        (initialVariables address none r.session.vars) none none)
    | none => return started

/-- Starts the flow that a run of a session asks for, and adds it to the outcome. -/
def follow (setup : Setup) (address : String) (r : Interpreter.RunResult) (o : Outcome) : Work Outcome := do
  match ← chainedFlow? setup r with
  | some next =>
    return o.extend (← start setup address (maxChained - 1) next
      (initialVariables address none r.session.vars) none none)
  | none => return o

end Chatflow.Conversation
