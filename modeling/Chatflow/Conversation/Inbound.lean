import Chatflow.Conversation.Continue
import Chatflow.Phone
import Chatflow.TriggerMatch

/-! Inbound events. A delivery that was seen before is ignored. A message can reset the conversation, begin
another one, or continue the one there is; any event can start the flows that are triggered by it. -/

namespace Chatflow.Conversation

def isReset (text : String) : Bool := Wording.resetPhrases.contains (Text.normalize text)

/-- Resets the conversation of a contact, and confirms it. -/
def resetFor (setup : Setup) (e : Event) : Work Outcome := do
  let _ ← Store.reset setup e.address
  return ⟨.reset, [], [⟨⟨e.address, e.deviceId, none, none, 0⟩, .message Wording.resetConfirmation⟩]⟩

/-- The flows with a trigger for once per contact that the contact has been in. -/
def priorFlows (setup : Setup) (address : String) (flows : List Flow) : Work (List String) := do
  let once := flows.filter fun f => (f.trigger?.map fun t => t.scope.oncePerContact).getD false
  let prior ← once.filterM fun f => Store.has setup ⟨address, f.id⟩
  return prior.map Flow.id

/-- Starts flows one after another, each at its start step. -/
def startAll (setup : Setup) (e : Event) : List (Flow × String) → Outcome → Work Outcome
  | [], o => return o
  | (f, step) :: rest, o => do
    let started ← start setup e.address maxChained f (initialVariables e.address (some e) []) e.deviceId
      (some step)
    startAll setup e rest (o.extend started)

/-- Starts the flows that an event triggers. -/
def trigger (setup : Setup) (e : Event) (flows : List Flow) : Work Outcome := do
  let prior ← priorFlows setup e.address flows
  let only := if e.kind = .thirdParty then e.triggerId else none
  match TriggerMatch.matching e flows prior.contains setup.settings.enforceDeviceScope only with
  | [] => return ⟨.noMatch, [], []⟩
  | triggered => startAll setup e triggered ⟨.started, [], []⟩

def handleLocked (setup : Setup) (e : Event) : Work Outcome := do
  if e.kind = .message && isReset e.text then resetFor setup e
  else
    let flows ← Offer.active setup
    if e.kind = .message then
      match (← Store.find setup e.address).filter Session.isActive with
      | some s =>
        if TriggerMatch.isKeyword e.text flows then
          let _ ← Store.abandonAll setup e.address
          trigger setup e flows
        else continueFrom setup s e
      | none => trigger setup e flows
    else trigger setup e flows

/-- Whether a delivery was seen before; one without an id never was. -/
def wasSeen (setup : Setup) (e : Event) : Work Bool :=
  match filled? e.messageId with
  | some id =>
    Work.onOutside (Cache.isDuplicate setup.link dedupeBreaker setup.reading (e.address ++ ":" ++ id)
      (.whole setup.settings.dedupeSeconds))
  | none => return false

def isConflict : Fault → Bool
  | .startConflict _ | .continueConflict .. => true
  | _ => false

def handleFor (setup : Setup) (e : Event) : Work Outcome := do
  if ← wasSeen setup e then return ⟨.duplicate, [], []⟩
  match ← Work.attempt (withLock setup e.address (handleLocked setup e)) with
  | .ok outcome => deliver setup outcome
  | .error fault =>
    if isConflict fault then
      Work.onOutside (Outside.raiseAlert setup "critical" "Session compare-and-swap retries exhausted"
        [("address", .str e.address)])
      return ⟨.conflict, [], []⟩
    else Work.fail fault

def handleEvent (setup : Setup) (e : Event) : Work Outcome :=
  let address := Phone.normalize e.address
  if address = "" then return ⟨.ignored, [], []⟩ else handleFor setup { e with address := address }

end Chatflow.Conversation
