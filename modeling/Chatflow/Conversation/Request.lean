import Chatflow.Conversation.Inbound
import Chatflow.Store.Lookup

/-! What other programs can ask for directly: to start a flow, to continue a session, to resume one whose wait
is over, and to reset a contact. -/

namespace Chatflow.Conversation

/-- Starts a flow that was found, with variables that are made once the contact's lock is held. -/
def startFound (setup : Setup) (f : Flow) (address : String) (vars : Work Fields) : Work Outcome := do
  let address := Phone.normalize address
  let outcome ← withLock setup address do
    start setup address maxChained f (initialVariables address none (← vars)) none none
  deliver setup outcome

/-- Starts a flow for a contact, whatever its trigger. -/
def startFlow (setup : Setup) (flowId address : String) (vars : Fields) : Work Outcome := do
  match ← Offer.flow? setup flowId with
  | none => Work.fail (.flowNotFound flowId)
  | some f => startFound setup f address (pure vars)

/-- The same, where everything may be any value. -/
def startGiven (setup : Setup) (flowId address vars : Value) : Work Outcome := do
  match ← Offer.flowGiven? setup flowId with
  | none => Work.fail (.flowNotFound flowId.display)
  | some f =>
    let address := (address.str?).getD ""
    startFound setup f address do
      let vars ← if vars.truthy then Work.check (Argument.Entries.ofValue vars) else pure []
      return (← Store.newFrom setup (.str address) (.str f.id) .null vars).2.1

/-- Feeds a reply to the session of a contact in a flow. The event is looked at once the session is found. -/
def continueFound (setup : Setup) (address : String) (flowId : Value) (event : Except Fault Event) : Work Outcome := do
  let outcome ← withLock setup address do
    match (← Store.findForFlowGiven setup (.str address) flowId).filter Session.isActive with
    | none => Work.fail (.sessionNotFound address flowId.display)
    | some s => continueFrom setup s (← Work.check event)
  deliver setup outcome

/-- Feeds a reply to the session of a contact in a flow. -/
def continueFlow (setup : Setup) (address flowId text : String) (replyId : Option String) : Work Outcome :=
  let address := Phone.normalize address
  continueFound setup address (.str flowId) (.ok { address := address, text := text, replyId := replyId })

/-- The same, where everything may be any value. -/
def continueGiven (setup : Setup) (address flowId text replyId : Value) : Work Outcome :=
  let address := Phone.normalize ((address.str?).getD "")
  continueFound setup address flowId
    (Event.ofValue (.obj [("channel_address", .str address), ("text", text), ("reply_id", replyId)])).toExcept

/-- The flow of a session, if the session is parked at a wait step of it. -/
def waitingIn? (setup : Setup) (s : Session) : Work (Option Flow) := do
  match ← Offer.flow? setup s.flowId with
  | none => return none
  | some f =>
    let step := if s.isWaiting then s.currentStep.bind f.step? else none
    return if (step.bind fun step => step.body.kind?) = some .wait then some f else none

/-- Resumes a session while the contact's lock is held, unless it has moved on or its time has not come. -/
def resumeLocked (setup : Setup) (now : Instant) (id : String) : Work Outcome := do
  match ← Store.get setup id with
  | none => return ⟨.stale, [id], []⟩
  | some s =>
    match ← waitingIn? setup s, s.resumeAt with
    | some f, some dueAt =>
      if now.micros < dueAt.micros then return ⟨.notDue, [id], []⟩
      let options ← Work.check (runOptions setup)
      let r ← running fun rolls => Interpreter.run f options now s rolls s.resumeStep
      if ← commit setup s r then follow setup s.address r ⟨.resumed, [id], r.actions⟩
      else return ⟨.stale, [id], []⟩
    | _, _ => return ⟨.stale, [id], []⟩

/-- Resumes a session that was found under an id, if its wait is over. -/
def resumeFound (setup : Setup) (now : Instant) (id : String) (s : Session) : Work Outcome := do
  deliver setup (← withLock setup s.address (resumeLocked setup now id))

/-- Resumes a session whose wait is over at some instant. -/
def resumeAsOf (setup : Setup) (now : Instant) (id : String) : Work Outcome := do
  match ← Store.get setup id with
  | none => return ⟨.notFound, [], []⟩
  | some s => resumeFound setup now id s

def resume (setup : Setup) (id : String) : Work Outcome := do
  resumeAsOf setup (← Work.check setup.utcNow) id

/-- Resumes a session of an id that may be any value. -/
def resumeGiven (setup : Setup) (id : Value) : Work Outcome := do
  let now ← Work.check setup.utcNow
  match ← Store.getGiven setup id with
  | none => return ⟨.notFound, [], []⟩
  | some s => resumeFound setup now ((id.str?).getD s.id) s

/-- Counts one more under a name. -/
def tally (name : String) : List (String × Nat) → List (String × Nat)
  | [] => [(name, 1)]
  | (other, n) :: rest => if other = name then (other, n + 1) :: rest else (other, n) :: tally name rest

/-- What a session that was given its turn is counted under. -/
def turnName : Except Fault Outcome → String
  | .ok outcome => outcome.status.name
  | .error _ => "error"

/-- Gives sessions their turn to be resumed, one after another and whether or not others failed. -/
def resumeEach (setup : Setup) (now : Instant) : List Session → List (String × Nat) → Work (List (String × Nat))
  | [], counts => return counts
  | s :: rest, counts => do
    let result ← Work.attempt (resumeAsOf setup now s.id)
    resumeEach setup now rest (tally (turnName result) counts)

/-- Resumes the sessions whose wait is over at some instant, as many as are taken at a time. -/
def resumeDueAsOf (setup : Setup) (now : Instant) : Work (List (String × Nat)) := do
  resumeEach setup now (← Store.due setup now) []

def resumeDue (setup : Setup) : Work (List (String × Nat)) := do
  resumeDueAsOf setup (← Work.check setup.utcNow)

def reset (setup : Setup) (address : String) : Work Outcome :=
  let address := Phone.normalize address
  withLock setup address do
    let _ ← Store.reset setup address
    return ⟨.reset, [], []⟩

end Chatflow.Conversation
