import Chatflow.Agent
import Chatflow.Argument
import Chatflow.Channel
import Chatflow.Session
import Chatflow.Value.Printer
import Chatflow.Wording

/-! What humans are told: that an AI agent hands a conversation over, and e-mails that flows send. -/

namespace Chatflow.Notification

/-- A value of a payload in one line: a text as it is, anything else as JSON. -/
def payloadText : Value → String
  | .str s => s
  | v => v.toJson Value.spaced

/-- The lines of the notice about a hand-off: who it is about, and the payload or else plain text. -/
def handoffLines (s : Session) (agent : Option Agent) (payload : Option Fields) (plain : Option String) :
    List String :=
  let name := (s.vars.get? "name").getD .null
  [if payload.isSome then Wording.handoffTitle else Wording.rawHandoffTitle, "📱 Contacto: " ++ s.address] ++
    (if name.truthy then ["👤 Nombre: " ++ name.display] else []) ++
    (match agent with
      | some a => ["🤖 Agente: " ++ a.name]
      | none => []) ++ [""] ++
    match payload with
    | some fields => fields.map fun (key, v) => "• " ++ key ++ ": " ++ payloadText v
    | none => [plain.getD ""]

/-- A payload and plain text, of which both may be any values. Only one of them is told, and the other one not
looked at. -/
def contentOf (payload plain : Value) : Except Fault (Option Fields × Option String) := do
  match payload with
  | .null => return (none, some (← Argument.text .wrongType plain))
  | _ => return (some (← Argument.fields payload), none)

/-- Tells a human about a hand-off, and whether that was delivered. Without a phone to send it to, the
operators are told. -/
def notifyHandoff (setup : Setup) (s : Session) (agent : Option Agent) (payload : Option Fields)
    (plain : Option String) : StateM Outside Bool := do
  let message := "\n".intercalate (handoffLines s agent payload plain)
  match filled? setup.adminPhone with
  | none =>
    Outside.raiseAlert setup "warning" "AI hand-off without admin phone"
      [("session_id", .str s.id), ("message", .str message)]
    return false
  | some phone =>
    let id ← Channel.sendText setup phone message
    return !(id == .null)

def isAccepted : Option PostAnswer → Bool
  | none => true
  | some (.response status _) | some (.illegible status _) => status < 400
  | some _ => false

/-- Sends an e-mail, and tells whether it was accepted. Without an e-mail service none is sent, nor where the
present time cannot be told. -/
def sendEmail (setup : Setup) (recipient subject body : String) : StateM Outside Bool := do
  match setup.mail, setup.utcNow with
  | some (url, key), .ok now =>
    let answer := (← get).mailAnswers.head?.join
    modify fun o =>
      { o with
        letters := o.letters ++ [⟨url, key, setup.settings.emailFrom, recipient, subject, body, now⟩]
        mailAnswers := o.mailAnswers.tail }
    return isAccepted answer
  | _, _ => return false

end Chatflow.Notification
