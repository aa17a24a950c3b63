import Chatflow.Notification

/-! Delivery of actions. Every action is tried once, in order; one that fails does not keep the others from
being tried. -/

namespace Chatflow.Dispatch

open Chatflow.Cache (Link)

def isSent (id : Value) : Bool := !(id == .null)

def works (setup : Setup) (form : MessageForm) : Bool :=
  setup.works (.form form) && setup.works .sending && (form == .template || setup.works .heading)

def deliverText (setup : Setup) (env : Envelope) (text : String) (link : Option (Link Outside) := setup.link) :
    StateM Outside Bool := do
  if works setup .text then return isSent (← Channel.sendText setup env.recipient text env.deviceId link)
  else return false

/-- Does what an action asks for, and tells whether it was delivered. A question without a usable number of
buttons, or whose buttons could not be sent, goes out as a numbered list. Where a medium could not be sent,
its caption is, and the action counts as failed. -/
def perform (setup : Setup) (a : Action) (link : Option (Link Outside) := setup.link) : StateM Outside Bool := do
  let env := a.envelope
  match a.content with
  | .message text => deliverText setup env text link
  | .interactive body buttons fallback =>
    if !buttons.isEmpty && buttons.length ≤ Channel.buttonsMax then
      if works setup .buttons then
        if isSent (← Channel.sendButtons setup env.recipient body buttons env.deviceId link) then return true
        else deliverText setup env fallback link
      else return false
    else deliverText setup env fallback link
  | .media kind url mediaId caption fileName =>
    if works setup .media then
      let id ← Channel.sendMedia setup env.recipient kind.name url mediaId caption fileName env.deviceId link
      if isSent id then return true
      else
        let _ ← deliverText setup env ((filled? caption).getD Wording.mediaFallback) link
        return false
    else return false
  | .template name language params =>
    if works setup .template then
      return isSent (← Channel.sendTemplate setup env.recipient name params language env.deviceId link)
    else return false
  | .assign .. => return true
  | .email address subject body => Notification.sendEmail setup address subject body

def delay (setup : Setup) (seconds : Int) : StateM Outside Unit := do
  if setup.honorsDelays && seconds ≠ 0 then Outside.rest (.delay seconds)

def dispatch (setup : Setup) (a : Action) (link : Option (Link Outside) := setup.link) : StateM Outside Bool := do
  delay setup a.envelope.delaySeconds
  perform setup a link

def dispatchAll (setup : Setup) (actions : List Action) (link : Option (Link Outside) := setup.link) :
    StateM Outside (List Bool) :=
  actions.mapM fun a => dispatch setup a link

end Chatflow.Dispatch
