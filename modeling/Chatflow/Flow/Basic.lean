import Chatflow.Flow.Config

/-! Flows: named steps and the connections between them. A step whose settings cannot be read is kept
together with the reason, so that a conversation that comes to it ends in an orderly way. -/

namespace Chatflow

open Chatflow.Schema

inductive StepKind where
  | start
  | sendMessage
  | questionSimple
  | questionMultiple
  | multipleChoice
  | wait
  | condition
  | assignConversation
  | startAutomation
  | rotator
  | template
deriving Repr, DecidableEq

namespace StepKind

def name : StepKind → String
  | start => "start"
  | sendMessage => "send_message"
  | questionSimple => "question_simple"
  | questionMultiple => "question_multiple"
  | multipleChoice => "multipleChoice"
  | wait => "wait"
  | condition => "condition"
  | assignConversation => "assign_conversation"
  | startAutomation => "start_automation"
  | rotator => "rotator"
  | template => "template"

def all : List StepKind :=
  [start, sendMessage, questionSimple, questionMultiple, multipleChoice, wait, condition,
    assignConversation, startAutomation, rotator, template]

def ofName? (s : String) : Option StepKind := all.find? fun kind => kind.name == s

/-- The kinds that ask for a choice of options. -/
def isChoice : StepKind → Bool
  | questionMultiple | multipleChoice => true
  | _ => false

end StepKind

/-- The two names a choice question goes by. -/
inductive ChoiceStyle where
  | questionMultiple
  | multipleChoice
deriving Repr, DecidableEq

namespace ChoiceStyle

def kind : ChoiceStyle → StepKind
  | questionMultiple => .questionMultiple
  | multipleChoice => .multipleChoice

end ChoiceStyle

inductive StepBody where
  | start (trigger : Option Trigger)
  | sendMessage (config : MessageConfig)
  | question (config : QuestionConfig)
  | choice (style : ChoiceStyle) (config : ChoiceConfig)
  | wait (config : WaitConfig)
  | condition (config : ConditionConfig)
  | assign (config : AssignConfig)
  | automation (flowId : String)
  | rotator (config : RotatorConfig)
  | template (config : TemplateConfig)
  /-- Settings that do not fit the kind of the step: how many problems, and the first of them. -/
  | invalid (kind : StepKind) (problems : Nat) (first : String)
  /-- A kind that does not exist. -/
  | unknown (kind : String)
deriving Repr

namespace StepBody

def kind? : StepBody → Option StepKind
  | start _ => some .start
  | sendMessage _ => some .sendMessage
  | question _ => some .questionSimple
  | choice style _ => some style.kind
  | wait _ => some .wait
  | condition _ => some .condition
  | assign _ => some .assignConversation
  | automation _ => some .startAutomation
  | rotator _ => some .rotator
  | template _ => some .template
  | invalid kind .. => some kind
  | unknown _ => none

def kindName : StepBody → String
  | unknown kind => kind
  | body => (body.kind?.map StepKind.name).getD ""

def isValid : StepBody → Bool
  | invalid .. | unknown _ => false
  | _ => true

def error? : StepBody → Option String
  | invalid kind problems first => some s!"invalid {kind.name} config: {problems} error(s): {first}"
  | unknown kind => some s!"unknown step type '{kind}'"
  | _ => none

def readKind (kind : StepKind) (fields : Fields) : Check StepBody :=
  match kind with
  | .start => .start <$> readStart fields
  | .sendMessage => .sendMessage <$> MessageConfig.read fields
  | .questionSimple => .question <$> QuestionConfig.read fields
  | .questionMultiple => .choice .questionMultiple <$> ChoiceConfig.read fields
  | .multipleChoice => .choice .multipleChoice <$> ChoiceConfig.read fields
  | .wait => .wait <$> WaitConfig.read fields
  | .condition => .condition <$> ConditionConfig.read fields
  | .assignConversation => .assign <$> AssignConfig.read fields
  | .startAutomation => .automation <$> readAutomation fields
  | .rotator => .rotator <$> RotatorConfig.read fields
  | .template => .template <$> TemplateConfig.read fields

/-- Reads the settings of a step. Problems with them are no problem of the document that holds the step. -/
def read (kindName : String) (fields : Fields) : Check StepBody :=
  match StepKind.ofName? kindName with
  | none => .ok (.unknown kindName)
  | some kind =>
    match readKind kind fields with
    | .ok body => .ok body
    | .failed issues =>
      .ok (.invalid kind issues.length ((issues.head?.map fun issue => issue.problem.message).getD ""))
    | .broken halt => .broken halt

def toValue : StepBody → Value
  | start trigger => .obj [("trigger", (trigger.map Trigger.toValue).getD .null)]
  | sendMessage c => c.toValue
  | question c => c.toValue
  | choice _ c => c.toValue
  | wait c => c.toValue
  | condition c => c.toValue
  | assign c => c.toValue
  | automation flowId => .obj [("flow_id", .str flowId)]
  | rotator c => c.toValue
  | template c => c.toValue
  | invalid .. | unknown _ => .null

end StepBody

structure Step where
  id : String
  body : StepBody
deriving Repr

namespace Step

/-- The names of the settings that a document may carry in read form, and their readers. -/
def storedForms : List (String × (Fields → Check Unit)) :=
  let drop {α : Type} (reader : Fields → Check α) (fields : Fields) : Check Unit :=
    (fun _ => ()) <$> reader fields
  [("StartConfig", drop readStart), ("SendMessageConfig", drop MessageConfig.read),
    ("QuestionSimpleConfig", drop QuestionConfig.read), ("ChoiceConfig", drop ChoiceConfig.read),
    ("WaitConfig", drop WaitConfig.read), ("ConditionConfig", drop ConditionConfig.read),
    ("AssignConfig", drop AssignConfig.read), ("RotatorConfig", drop RotatorConfig.read),
    ("StartAutomationConfig", drop readAutomation), ("TemplateConfig", drop TemplateConfig.read)]

/-- Checks settings in read form against each form in turn; the first that fits will do. -/
def checkStored (v : Value) : List (String × (Fields → Check Unit)) → List Issue → Check Unit
  | [], issues => .failed issues
  | (name, reader) :: rest, issues =>
    match (record name reader v).at' (.field name) with
    | .ok () => .ok ()
    | .failed more => checkStored v rest (issues ++ more)
    | .broken halt => .broken halt

/-- Reads a step. Settings in read form and an earlier refusal may stand in the document; they are
checked and then left alone. -/
def ofValue : Reader Step :=
  record "Step" fun fields =>
    let parts : Check (String × String × Fields) :=
      (fun id kind config _ _ => (id, kind, config)) <$> required fields ["id"] text
        <*> required fields ["type"] text
        <*> withDefault fields ["config"] [] table
        <*> withDefault fields ["parsed"] none (optional fun v => checkStored v storedForms [])
        <*> withDefault fields ["config_error"] none (optional text)
    parts.andThen fun (id, kind, config) => Step.mk id <$> StepBody.read kind config

/-- The document of a step with what follows from its settings. -/
def toValue (s : Step) : Value :=
  let derived : Fields := match s.body with
    | .sendMessage c => [("media_kind", .ofText? (c.mediaKind.map MediaKind.name)),
        ("has_usable_media", .bool c.hasUsableMedia)]
    | .wait c => [("seconds", c.secondsValue)]
    | _ => []
  .obj ([("id", .str s.id), ("type", .str s.body.kindName), ("config_error", .ofText? s.body.error?),
    ("parsed", s.body.toValue)] ++ derived)

end Step

structure Connection where
  id : String
  source : String
  target : String
  /-- The branch of the source that the connection belongs to. -/
  handle : Option String := none
  label : Option String := none
deriving Repr, DecidableEq

namespace Connection

def ofValue : Reader Connection :=
  record "Connection" fun fields =>
    Connection.mk <$> required fields ["id"] text
      <*> required fields ["source", "fromStepId", "from_step_id"] text
      <*> required fields ["target", "toStepId", "to_step_id"] text
      <*> withDefault fields ["source_handle", "sourceHandle"] none (optional text)
      <*> withDefault fields ["condition_label", "conditionLabel"] none (optional text)

def toValue (c : Connection) : Value :=
  .obj [("id", .str c.id), ("source", .str c.source), ("target", .str c.target),
    ("source_handle", .ofText? c.handle), ("condition_label", .ofText? c.label)]

end Connection

structure Flow where
  id : String
  name : String := ""
  isActive : Bool := true
  steps : List Step := []
  connections : List Connection := []
deriving Repr

namespace Flow

def ofValue : Reader Flow :=
  record "Flow" fun fields =>
    Flow.mk <$> required fields ["id"] text
      <*> withDefault fields ["name"] "" text
      <*> withDefault fields ["is_active", "isActive"] true flag
      <*> withDefault fields ["steps"] [] (list Step.ofValue)
      <*> withDefault fields ["connections"] [] (list Connection.ofValue)

def toValue (f : Flow) : Value :=
  .obj [("id", .str f.id), ("name", .str f.name), ("is_active", .bool f.isActive),
    ("steps", .list (f.steps.map Step.toValue)),
    ("connections", .list (f.connections.map Connection.toValue))]

/-- The first step of an id. -/
def step? (f : Flow) (id : String) : Option Step := f.steps.find? fun s => s.id == id

def isStart (s : Step) : Bool := s.body.kind? == some .start

/-- The step at which the flow starts: the first of that kind. -/
def startStep? (f : Flow) : Option Step := f.steps.find? isStart

/-- The trigger of the flow, unless nothing triggers it. -/
def trigger? (f : Flow) : Option Trigger :=
  match f.startStep?.map Step.body with
  | some (.start (some trigger)) => if trigger.isNone then none else some trigger
  | _ => none

/-- The connections that leave a step, in the order of the flow. -/
def outgoing (f : Flow) (id : String) : List Connection := f.connections.filter fun c => c.source == id

/-- The connection of a branch of a step. -/
def connectionFor? (f : Flow) (id handle : String) : Option Connection :=
  (f.outgoing id).find? fun c => c.handle == some handle

/-- Where a step leads when it has no branches: along its first connection. -/
def next? (f : Flow) (id : String) : Option String := (f.outgoing id).head?.map Connection.target

end Flow

end Chatflow
