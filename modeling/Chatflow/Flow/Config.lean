import Chatflow.Flow.Trigger

/-! What the steps of a flow are set to do. Editors have named the fields in several ways over time, and
all of these names are read. -/

namespace Chatflow

open Chatflow.Schema

def isUnfilled (s : Option String) : Bool := (filled? s).isNone

inductive MediaKind where
  | image
  | video
  | audio
  | document
deriving Repr, DecidableEq

namespace MediaKind

def name : MediaKind → String
  | image => "image"
  | video => "video"
  | audio => "audio"
  | document => "document"

def named : List (String × MediaKind) :=
  [("image", image), ("video", video), ("audio", audio), ("document", document)]

end MediaKind

/-- What a message step sends: a text, a medium named in a field of its own, or a given medium. -/
inductive MessageKind where
  | text
  | media
  | given (kind : MediaKind)
deriving Repr, DecidableEq

namespace MessageKind

def name : MessageKind → String
  | text => "text"
  | media => "media"
  | given kind => kind.name

def named : List (String × MessageKind) :=
  [("text", text), ("media", media), ("image", given .image), ("video", given .video),
    ("audio", given .audio), ("document", given .document)]

end MessageKind

structure MessageConfig where
  kind : MessageKind := .text
  text : String := ""
  caption : Option String := none
  mediaUrl : Option String := none
  mediaId : Option String := none
  mediaType : Option MediaKind := none
  fileName : Option String := none
  delaySeconds : Int := 0
deriving Repr, DecidableEq

namespace MessageConfig

/-- The medium to send, or none for a plain text. -/
def mediaKind (c : MessageConfig) : Option MediaKind :=
  match c.kind with
  | .text => none
  | .media => some (c.mediaType.getD .image)
  | .given kind => some kind

/-- Whether there is a file to send. Addresses that start with `blob:` only exist in the editor's own
window. -/
def hasUsableMedia (c : MessageConfig) : Bool :=
  (filled? c.mediaId).isSome ||
    match filled? c.mediaUrl with
    | some url => !"blob:".toList.isPrefixOf url.toList
    | none => false

def read (fields : Fields) : Check MessageConfig :=
  MessageConfig.mk <$> withDefault fields ["type"] .text (choice MessageKind.named)
    <*> withDefault fields ["text", "message", "body"] "" Schema.text
    <*> withDefault fields ["caption"] none (optional Schema.text)
    <*> withDefault fields ["media_url", "mediaUrl", "fileUrl"] none (optional Schema.text)
    <*> withDefault fields ["media_id", "mediaId"] none (optional Schema.text)
    <*> withDefault fields ["media_type", "mediaType", "mediaFormat"] none (optional (choice MediaKind.named))
    <*> withDefault fields ["file_name", "fileName"] none (optional Schema.text)
    <*> withDefault fields ["delay_seconds", "delaySeconds", "delay"] 0 (wholeWithin (some 0) none)

def toValue (c : MessageConfig) : Value :=
  .obj [("type", .str c.kind.name), ("text", .str c.text), ("caption", .ofText? c.caption),
    ("media_url", .ofText? c.mediaUrl), ("media_id", .ofText? c.mediaId),
    ("media_type", .ofText? (c.mediaType.map MediaKind.name)), ("file_name", .ofText? c.fileName),
    ("delay_seconds", .int c.delaySeconds)]

end MessageConfig

/-- The names under which the key for an answer is kept. -/
def storeKeyNames : List String := ["store_key", "storeKey", "saveAs"]

structure QuestionConfig where
  text : String := ""
  /-- The variable that receives the answer. -/
  storeKey : Option String := none
deriving Repr, DecidableEq

namespace QuestionConfig

def read (fields : Fields) : Check QuestionConfig :=
  QuestionConfig.mk <$> withDefault fields ["question_text", "questionText", "question", "text"] "" Schema.text
    <*> withDefault fields storeKeyNames none (optional Schema.text)

def toValue (c : QuestionConfig) : Value :=
  .obj [("question_text", .str c.text), ("store_key", .ofText? c.storeKey)]

end QuestionConfig

structure ChoiceOption where
  id : String
  label : String := ""
deriving Repr, DecidableEq

namespace ChoiceOption

def ofValue : Reader ChoiceOption :=
  record "ChoiceOption" fun fields =>
    ChoiceOption.mk <$> required fields ["id"] text
      <*> withDefault fields ["label", "title", "text"] "" text

def toValue (o : ChoiceOption) : Value := .obj [("id", .str o.id), ("label", .str o.label)]

end ChoiceOption

structure ChoiceConfig where
  message : String := ""
  options : List ChoiceOption := []
  storeKey : Option String := none
deriving Repr, DecidableEq

namespace ChoiceConfig

def read (fields : Fields) : Check ChoiceConfig :=
  ChoiceConfig.mk <$> withDefault fields ["message", "questionText", "question", "text"] "" text
    <*> withDefault fields ["options"] [] (list ChoiceOption.ofValue)
    <*> withDefault fields storeKeyNames none (optional text)

def toValue (c : ChoiceConfig) : Value :=
  .obj [("message", .str c.message), ("options", .list (c.options.map ChoiceOption.toValue)),
    ("store_key", .ofText? c.storeKey)]

end ChoiceConfig

inductive WaitUnit where
  | seconds
  | minutes
  | hours
  | days
deriving Repr, DecidableEq

namespace WaitUnit

def name : WaitUnit → String
  | seconds => "seconds"
  | minutes => "minutes"
  | hours => "hours"
  | days => "days"

def named : List (String × WaitUnit) :=
  [("seconds", seconds), ("minutes", minutes), ("hours", hours), ("days", days)]

def length : WaitUnit → Nat
  | seconds => 1
  | minutes => 60
  | hours => 3600
  | days => 86400

end WaitUnit

/-- How long to wait: so many units, and five when no number is given. -/
structure WaitConfig where
  given : Option Float := none
  unit : WaitUnit := .minutes
deriving Repr

namespace WaitConfig

def usual : Nat := 5

def value (c : WaitConfig) : Float := c.given.getD (Decimal.ofInt usual)

def seconds (c : WaitConfig) : Float := c.value * Decimal.ofInt c.unit.length

/-- The waiting time as a value; it is a whole number when no number is given. -/
def secondsValue (c : WaitConfig) : Value :=
  match c.given with
  | some _ => .float c.seconds
  | none => .int (usual * c.unit.length : Nat)

def read (fields : Fields) : Check WaitConfig :=
  WaitConfig.mk <$> withDefault fields ["value", "waitValue", "duration"] none (fun v => some <$> positive v)
    <*> withDefault fields ["unit", "waitUnit"] .minutes (choice WaitUnit.named)

def toValue (c : WaitConfig) : Value := .obj [("value", .float c.value), ("unit", .str c.unit.name)]

end WaitConfig

inductive RuleKind where
  | tag
  | weekday
  | time
deriving Repr, DecidableEq

namespace RuleKind

def name : RuleKind → String
  | tag => "tag"
  | weekday => "weekday"
  | time => "time"

def named : List (String × RuleKind) := [("tag", tag), ("weekday", weekday), ("time", time)]

end RuleKind

structure ConditionRule where
  kind : RuleKind
  /-- Whether the rule asks for the opposite. -/
  negated : Bool := false
  value : String
deriving Repr, DecidableEq

namespace ConditionRule

def ofValue : Reader ConditionRule :=
  record "ConditionRule" fun fields =>
    ConditionRule.mk <$> required fields ["type"] (choice RuleKind.named)
      <*> withDefault fields ["operator"] false (choice [("is", false), ("is_not", true)])
      <*> required fields ["value"] text

def toValue (r : ConditionRule) : Value :=
  .obj [("type", .str r.kind.name), ("operator", .str (if r.negated then "is_not" else "is")),
    ("value", .str r.value)]

end ConditionRule

/-- A condition: all of its rules must hold, or any of them. -/
structure ConditionConfig where
  rules : List ConditionRule := []
  matchAny : Bool := false
deriving Repr, DecidableEq

namespace ConditionConfig

def read (fields : Fields) : Check ConditionConfig :=
  ConditionConfig.mk <$> withDefault fields ["conditions"] [] (list ConditionRule.ofValue)
    <*> withDefault fields ["match"] false (choice [("all", false), ("any", true)])

def ofValue : Reader ConditionConfig := record "ConditionConfig" read

def toValue (c : ConditionConfig) : Value :=
  .obj [("conditions", .list (c.rules.map ConditionRule.toValue)),
    ("match", .str (if c.matchAny then "any" else "all"))]

end ConditionConfig

inductive AgentKind where
  | human
  | ai
deriving Repr, DecidableEq

namespace AgentKind

def name : AgentKind → String
  | human => "human"
  | ai => "ai"

def named : List (String × AgentKind) := [("human", human), ("ai", ai)]

end AgentKind

/-- Whom to hand a conversation to. -/
structure AssignConfig where
  agentKind : AgentKind := .human
  agentId : Option String := none
  /-- Whether the default agent takes over, whatever agent is named. -/
  assignToSelf : Bool := false
  sendEmail : Bool := false
  adminEmail : Option String := none
deriving Repr, DecidableEq

namespace AssignConfig

def read (fields : Fields) : Check AssignConfig :=
  AssignConfig.mk <$> withDefault fields ["agent_type", "agentType"] .human (choice AgentKind.named)
    <*> withDefault fields ["agent_id", "agentId"] none (optional text)
    <*> withDefault fields ["assign_to_self", "assignToSelf"] false flag
    <*> withDefault fields ["send_email", "sendEmail"] false flag
    <*> withDefault fields ["admin_email", "adminEmail"] none (optional text)

def toValue (c : AssignConfig) : Value :=
  .obj [("agent_type", .str c.agentKind.name), ("agent_id", .ofText? c.agentId),
    ("assign_to_self", .bool c.assignToSelf), ("send_email", .bool c.sendEmail),
    ("admin_email", .ofText? c.adminEmail)]

end AssignConfig

structure RotatorOption where
  id : String
  label : String := ""
  weight : Float := 0.0
deriving Repr

namespace RotatorOption

def ofValue : Reader RotatorOption :=
  record "RotatorOption" fun fields =>
    RotatorOption.mk <$> required fields ["id"] text
      <*> withDefault fields ["label"] "" text
      <*> withDefault fields ["weight"] 0.0 number

def toValue (o : RotatorOption) : Value :=
  .obj [("id", .str o.id), ("label", .str o.label), ("weight", .float o.weight)]

end RotatorOption

/-- Branches taken in turn or by lot. -/
structure RotatorConfig where
  sequential : Bool := false
  options : List RotatorOption := []
deriving Repr

namespace RotatorConfig

def read (fields : Fields) : Check RotatorConfig :=
  RotatorConfig.mk <$> withDefault fields ["mode"] false (choice [("random", false), ("sequential", true)])
    <*> withDefault fields ["options"] [] (list RotatorOption.ofValue)

def toValue (c : RotatorConfig) : Value :=
  .obj [("mode", .str (if c.sequential then "sequential" else "random")),
    ("options", .list (c.options.map RotatorOption.toValue))]

end RotatorConfig

structure TemplateConfig where
  templateName : String
  language : Option String := none
  vars : List String := []
deriving Repr, DecidableEq

namespace TemplateConfig

def read (fields : Fields) : Check TemplateConfig :=
  TemplateConfig.mk <$> required fields ["template_name", "templateName"] text
    <*> withDefault fields ["language"] none (optional text)
    <*> withDefault fields ["variables"] [] (list text)

def toValue (c : TemplateConfig) : Value :=
  .obj [("template_name", .str c.templateName), ("language", .ofText? c.language),
    ("variables", .list (c.vars.map .str))]

end TemplateConfig

/-- The flow that another one goes on with. -/
def readAutomation (fields : Fields) : Check String :=
  required fields ["flow_id", "flowId", "automationId"] text

/-- The trigger of a start step. -/
def readStart (fields : Fields) : Check (Option Trigger) :=
  withDefault fields ["trigger"] none (optional Trigger.ofValue)

end Chatflow
