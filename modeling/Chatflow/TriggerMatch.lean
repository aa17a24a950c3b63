import Chatflow.Event
import Chatflow.Flow.Basic
import Chatflow.Text.Lower

/-! Which flows an event starts. -/

namespace Chatflow.TriggerMatch

open Chatflow.Text

/-- Whether a message trigger takes a text. Without keywords only the mode for all messages does. -/
def takesText (mode : MatchMode) (keywords : List String) (text : String) : Bool :=
  match mode with
  | .all => true
  | .exact => ((keywords.map normalize).filter (· != "")).any fun k => normalize text == k
  | .contains => ((keywords.map normalize).filter (· != "")).any fun k => occurs k (normalize text)

/-- Whether a text names a keyword of an active flow. Triggers for all messages have no keywords: taking
them for such would start a conversation anew with every reply. -/
def isKeyword (text : String) (flows : List Flow) : Bool :=
  normalize text != "" && flows.any fun f =>
    f.isActive && match f.trigger? with
      | some (.message _ mode keywords) => mode != .all && takesText mode keywords text
      | _ => false

/-- Whether a trigger that is bound to a device takes events of that device. -/
def deviceAllows (trigger : Trigger) (event : Event) (enforce : Bool) : Bool :=
  match filled? trigger.scope.deviceId with
  | none => true
  | some device =>
    match filled? event.deviceId with
    | some origin => origin == device
    | none => !enforce

/-- Whether a trigger is for an event of this kind and takes what the event brings. -/
def takesEvent (trigger : Trigger) (event : Event) : Bool :=
  match event.kind, trigger with
  | .message, .message _ mode keywords => takesText mode keywords event.text
  | .tagAdded, .tagAdded _ tagId => tagId.isNone || tagId == event.tagId
  | .thirdParty, .thirdParty .. => true
  | _, _ => false

def starts (event : Event) (enforce : Bool) (only : Option String) (hasPrior : String → Bool) (f : Flow) :
    Bool :=
  f.isActive && (only.isNone || only == some f.id) && match f.trigger? with
    | none => false
    | some trigger =>
      deviceAllows trigger event enforce && !(trigger.scope.oncePerContact && hasPrior f.id) &&
        takesEvent trigger event

/-- The flows that an event starts, each with its start step. -/
def matching (event : Event) (flows : List Flow) (hasPrior : String → Bool) (enforce : Bool)
    (only : Option String) : List (Flow × String) :=
  (flows.filter (starts event enforce only hasPrior)).filterMap fun f =>
    f.startStep?.map fun s => (f, s.id)

end Chatflow.TriggerMatch
