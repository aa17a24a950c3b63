import Chatflow.Action
import Chatflow.Condition
import Chatflow.Flow.Basic
import Chatflow.Rotator
import Chatflow.Session
import Chatflow.Template
import Chatflow.Time.ZoneTable
import Chatflow.Wording

/-! Runs of a flow. A run walks from a step along the connections until the session is parked or ends. It
only collects actions and changes the session; nothing is sent and nothing is stored. -/

namespace Chatflow

/-- Why a session was ended before its flow was. -/
inductive Diagnostic where
  | stepLimit
  | missingStep
  | invalidConfig
  | missingAgent
  | missingFlow
deriving Repr, DecidableEq

def Diagnostic.name : Diagnostic → String
  | stepLimit => "step_limit_exceeded"
  | missingStep => "missing_step"
  | invalidConfig => "invalid_step_config"
  | missingAgent => "missing_ai_agent"
  | missingFlow => "missing_flow"

structure RunOptions where
  maxSteps : Nat := 50
  /-- The human agent who gets conversations that name nobody. -/
  defaultAgent : Option String := none
  /-- The zone in which days and times are looked at. -/
  zone : Zone := Zone.mexicoCity
deriving Repr

namespace Session

def complete (s : Session) (diagnostic : Option Diagnostic := none) : Session :=
  { s with
    status := .completed
    currentStep := none
    resumeAt := none
    resumeStep := none
    diagnostic := diagnostic.map Diagnostic.name }

def park (s : Session) (stepId : String) : Session := { s with status := .active, currentStep := some stepId }

/-- A session at the beginning of a run: what an earlier run left for later is dropped. -/
def fresh (s : Session) : Session := { s with resumeAt := none, resumeStep := none, diagnostic := none }

end Session

namespace Interpreter

inductive Onward where
  | goto (stepId : Option String)
  | stop (directive : Option Directive)
deriving Repr, DecidableEq

/-- What one step does: the session after it, the actions it asks for, and where the run goes. -/
structure Effect where
  session : Session
  actions : List Action := []
  onward : Onward
deriving Repr

def envelope (stepId : String) (s : Session) (delaySeconds : Int := 0) : Envelope :=
  ⟨s.address, s.deviceId, some s.id, some stepId, delaySeconds⟩

def nonEmpty? (s : String) : Option String := if s = "" then none else some s

/-- The message of a message step: a medium with its caption, or a text; nothing if the text is empty. The text is
filled in also where only a medium is sent. -/
def messageContent? (c : MessageConfig) (vars : Fields) : Except Fault (Option ActionContent) := do
  let text ← Template.fill vars c.text
  match c.mediaKind, c.hasUsableMedia with
  | some kind, true =>
    let caption ← Template.fill vars ((filled? c.caption).getD c.text)
    let url := if (filled? c.mediaId).isSome then none else c.mediaUrl
    return some (.media kind url c.mediaId (nonEmpty? caption) c.fileName)
  | _, _ => return (nonEmpty? text).map .message

/-- Options as numbered lines, for channels without buttons. -/
def numberedList (body : String) (options : List ChoiceOption) : String :=
  let lines := (if body = "" then [] else [body, ""]) ++
    (options.zipIdx 1).map (fun (o, n) => toString n ++ ". " ++ o.label) ++ ["", Wording.choiceFooter]
  "\n".intercalate lines

def buttonTitleMax : Nat := 20

/-- The prompt of a choice question. -/
def choiceContent (c : ChoiceConfig) (vars : Fields) : Except Fault ActionContent := do
  let body ← Template.fill vars c.message
  let options ← c.options.mapM fun o => return { o with label := ← Template.fill vars o.label }
  return .interactive body (options.map fun o => ⟨o.id, Text.clip buttonTitleMax o.label⟩)
    (numberedList body options)

/-- The agent that an assignment step names, or the default one. -/
def assignedAgent (c : AssignConfig) (defaultAgent : Option String) : Option String :=
  if c.assignToSelf || (isUnfilled c.agentId && c.agentKind == .human) then defaultAgent else c.agentId

def assignEffect (f : Flow) (options : RunOptions) (stepId : String) (c : AssignConfig) (s : Session) : Effect :=
  let agentId := assignedAgent c options.defaultAgent
  if c.agentKind = .ai ∧ isUnfilled agentId then
    ⟨s.complete (some .missingAgent), [], .stop none⟩
  else
    let env := envelope stepId s
    let email : List Action := match c.sendEmail, filled? c.adminEmail with
      | true, some address =>
        [⟨env, .email address Wording.assignmentSubject (Wording.assignmentBody s.address f.name)⟩]
      | _, _ => []
    let owned := { s with assignee := some ⟨c.agentKind, agentId⟩, aiTurns := 0 }
    let actions := email ++ [⟨env, .assign c.agentKind agentId⟩]
    match c.agentKind with
    | .ai => ⟨owned.park stepId, actions, .stop none⟩
    | .human => ⟨owned, actions, .goto (f.next? stepId)⟩

/-- Where a condition step leads: along the branch for its outcome, or the first connection. -/
def conditionTarget (f : Flow) (stepId : String) (met : Bool) : Option String :=
  let names := if met then ["cumple", "true"] else ["no_cumple", "false"]
  match (f.outgoing stepId).find? fun c => names.contains (c.handle.getD "") || names.contains (c.label.getD "")
  with
  | some c => some c.target
  | none => f.next? stepId

/-- Where a chosen branch leads: along its connection, or the first one. -/
def branchTarget (f : Flow) (stepId : String) (chosen : Option RotatorOption) : Option String :=
  match chosen.bind fun o => f.connectionFor? stepId o.id with
  | some c => some c.target
  | none => f.next? stepId

def rotatorEffect (f : Flow) (stepId : String) (c : RotatorConfig) (s : Session) (rolls : List Float) :
    Except Fault Effect × List Float :=
  if c.options.isEmpty then (.ok ⟨s, [], .goto (f.next? stepId)⟩, rolls)
  else if c.sequential then
    let key := Rotator.counterKey stepId
    match Rotator.counterValue (s.vars.get? key) with
    | .error e => (.error e, rolls)
    | .ok count =>
      let counted := { s with vars := s.vars.set key (.int (count + 1)) }
      (.ok ⟨counted, [], .goto (branchTarget f stepId (Rotator.turn c.options count))⟩, rolls)
  else
    match Rotator.draw c.options rolls with
    | (.error e, rolls) => (.error e, rolls)
    | (.ok chosen, rolls) => (.ok ⟨s, [], .goto (branchTarget f stepId chosen)⟩, rolls)

def waitEffect (f : Flow) (now : Instant) (stepId : String) (c : WaitConfig) (s : Session) : Except Fault Effect :=
  match now.addSeconds c.seconds with
  | .error e => .error (.span e)
  | .ok dueAt =>
    let resumeStep := f.next? stepId
    .ok ⟨{ s.park stepId with resumeAt := some dueAt, resumeStep := resumeStep }, [],
      .stop (some (.scheduleResume dueAt stepId resumeStep))⟩

/-- What a step does to a session. Rolls are only taken by rotators that draw lots. -/
def effectOf (f : Flow) (options : RunOptions) (now : Instant) (step : Step) (s : Session)
    (rolls : List Float) : Except Fault Effect × List Float :=
  let send (content : Except Fault ActionContent) (onward : Onward) (s : Session) : Except Fault Effect :=
    content.map fun content => ⟨s, [⟨envelope step.id s, content⟩], onward⟩
  let onward : Onward := .goto (f.next? step.id)
  match step.body with
  | .start _ => (.ok ⟨s, [], onward⟩, rolls)
  | .sendMessage c =>
    let effect (content : Option ActionContent) : Effect :=
      ⟨s, content.toList.map fun content => ⟨envelope step.id s c.delaySeconds, content⟩, onward⟩
    ((messageContent? c s.vars).map effect, rolls)
  | .template c =>
    (send ((c.vars.mapM (Template.fill s.vars)).map (.template c.templateName c.language)) onward s, rolls)
  | .question c => (send ((Template.fill s.vars c.text).map .message) (.stop none) (s.park step.id), rolls)
  | .choice _ c => (send (choiceContent c s.vars) (.stop none) (s.park step.id), rolls)
  | .wait c => (waitEffect f now step.id c s, rolls)
  | .condition c =>
    match Condition.holdsAt c s.vars now options.zone with
    | .error e => (.error e, rolls)
    | .ok met => (.ok ⟨s, [], .goto (conditionTarget f step.id met)⟩, rolls)
  | .assign c => (.ok (assignEffect f options step.id c s), rolls)
  | .rotator c => rotatorEffect f step.id c s rolls
  | .automation flowId => (.ok ⟨s.complete, [], .stop (some (.startFlow flowId))⟩, rolls)
  | .invalid .. | .unknown _ => (.ok ⟨s.complete (some .invalidConfig), [], .stop none⟩, rolls)

structure RunResult where
  actions : List Action := []
  session : Session
  directive : Option Directive := none
  /-- The kinds of the steps taken, in order. -/
  executed : List String := []
deriving Repr

/-- A run that ends where it stands. -/
def ended (s : Session) (diagnostic : Option Diagnostic) : RunResult := ⟨[], s.complete diagnostic, none, []⟩

/-- A run that did one step and then went on as another run did. -/
def RunResult.after (kind : String) (actions : List Action) (rest : RunResult) : RunResult :=
  { rest with actions := actions ++ rest.actions, executed := kind :: rest.executed }

/-- Walks on from a step with so many steps left to take. -/
def walk (f : Flow) (options : RunOptions) (now : Instant) :
    Nat → Session → List Float → Option String → Except Fault RunResult × List Float
  | _, s, rolls, none => (.ok (ended s none), rolls)
  | 0, s, rolls, some _ => (.ok (ended s (some .stepLimit)), rolls)
  | left + 1, s, rolls, some stepId =>
    match f.step? stepId with
    | none => (.ok (ended s (some .missingStep)), rolls)
    | some step =>
      match effectOf f options now step s rolls with
      | (.error e, rolls) => (.error e, rolls)
      | (.ok effect, rolls) =>
        match effect.onward with
        | .stop directive =>
          (.ok ⟨effect.actions, effect.session, directive, [step.body.kindName]⟩, rolls)
        | .goto next =>
          let (rest, rolls) := walk f options now left effect.session rolls next
          (rest.map fun r => r.after step.body.kindName effect.actions, rolls)

/-- Runs a flow for a session from a step. The answer carries the rolls that were not taken. -/
def run (f : Flow) (options : RunOptions) (now : Instant) (s : Session) (rolls : List Float)
    (fromStep : Option String) : Except Fault RunResult × List Float :=
  let (result, rolls) := walk f options now options.maxSteps s.fresh rolls fromStep
  (result.map fun r => { r with session := { r.session with updatedAt := now } }, rolls)

/-- The answer to a question: what was replied, or the label of the option that was chosen. -/
def answerAt (f : Flow) (stepId : Option String) (reply : Value) (optionId : Option String) : Value :=
  match (stepId.bind f.step?).map Step.body, filled? optionId with
  | some (.choice _ c), some optionId =>
    match c.options.find? fun o => o.id == optionId with
    | some o => if o.label = "" then reply else .str o.label
    | none => reply
  | _, _ => reply

/-- The variable that the answer at a step is kept in. -/
def storeKey? (f : Flow) (stepId : Option String) : Option String :=
  (match (stepId.bind f.step?).map Step.body with
    | some (.question c) => c.storeKey
    | some (.choice _ c) => c.storeKey
    | _ => none).filter (· != "")

def recordAnswer (f : Flow) (stepId : Option String) (answer : Value) (vars : Fields) : Fields :=
  let vars := vars.set "last_reply" answer
  match storeKey? f stepId with
  | some key => vars.set key answer
  | none => vars

/-- Records the answer given at a step and runs on from where it leads. -/
def continueFromReply (f : Flow) (options : RunOptions) (now : Instant) (s : Session) (rolls : List Float)
    (stepId : Option String) (reply : Value) (next : Option String) (optionId : Option String) :
    Except Fault RunResult × List Float :=
  let answer := answerAt f stepId reply optionId
  run f options now { s with vars := recordAnswer f stepId answer s.vars } rolls next

end Interpreter

end Chatflow
