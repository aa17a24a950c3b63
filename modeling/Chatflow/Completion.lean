import Chatflow.Argument
import Chatflow.Outside
import Chatflow.Prompt

/-! Replies of AI agents. The providers that are set up are asked one after another, each behind a circuit
breaker, until one of them gives a reply that is not empty. Messages and histories may be any values; a history
that cannot be read counts as a failure of the provider that was to be asked with it. -/

namespace Chatflow.Completion

open Chatflow.Text

def turns (history : Value) : Except Fault (List Value) :=
  if history.truthy then Argument.members history else .ok []

def transcriptLine (turn : Value) : Except Fault String := do
  let fields ← Argument.fields turn
  let speaker := if ((fields.get? "role").getD .null).same (.str "user") then "Customer" else "Agent"
  return speaker ++ ": " ++ ((fields.get? "content").getD (.str "")).display

/-- A history and a message as one text. A message that nothing precedes stands for itself. -/
def transcript (history message : Value) : Except Fault Value := do
  let lines ← (← turns history).mapM transcriptLine
  let earlier := "\n".intercalate lines
  return if earlier = "" then message else .str (earlier ++ "\nCustomer: " ++ message.display)

def messageFields (role content : Value) : Fields := [("role", role), ("content", content)]

def messageList (system : String) (history message : Value) : Except Fault (List Fields) := do
  let earlier ← (← turns history).mapM fun turn => do
    let fields ← Argument.fields turn
    return messageFields ((fields.get? "role").getD (.str "user")) ((fields.get? "content").getD (.str ""))
  return messageFields (.str "system") (.str system) :: earlier ++ [messageFields (.str "user") message]

def inquiry (setup : Setup) (p : Provider) (system : String) (history message : Value) : Except Fault Inquiry :=
  match p with
  | .gemini => (transcript history message).map fun contents =>
    .transcript setup.geminiModel contents system
  | .openai => (messageList system history message).map fun messages =>
    .messages setup.settings.openaiModel messages

def answers : Provider → Part Outside (List ProviderAnswer)
  | .gemini => ⟨Outside.geminiAnswers, fun a o => { o with geminiAnswers := a }⟩
  | .openai => ⟨Outside.openaiAnswers, fun a o => { o with openaiAnswers := a }⟩

/-- The breaker of a provider. -/
def breaker : Provider → Part Outside (Breaker Reading)
  | .gemini => ⟨Outside.geminiBreaker, fun b o => { o with geminiBreaker := b }⟩
  | .openai => ⟨Outside.openaiBreaker, fun b o => { o with openaiBreaker := b }⟩

/-- The reply in an answer, without blanks around it. -/
def replyOf : Option ProviderAnswer → Except Fault String
  | some (.text text) => .ok (trim text)
  | some (.failure message) => .error (.outside "Exception" message)
  | none => .error (.outside "RuntimeError" "no scripted reply")

def ask (setup : Setup) (p : Provider) (system : String) (history message : Value) :
    StateM Outside (Except Fault String) := do
  match inquiry setup p system history message with
  | .error f => return .error f
  | .ok asked =>
    let answer := ((answers p).read (← get)).head?
    modify fun o => (answers p).update List.tail { o with inquiries := o.inquiries ++ [asked] }
    return replyOf answer

def providers (setup : Setup) : List Provider :=
  (if setup.hasGemini then [.gemini] else []) ++ if setup.hasOpenai then [.openai] else []

/-- Asks providers one after another until one gives a reply. -/
def askInTurn (setup : Setup) (system : String) (history message : Value) :
    List Provider → StateM Outside (Option String)
  | [] => return none
  | p :: rest => do
    match ← Breaker.call (breaker p) p.name setup.reading (ask setup p system history message) with
    | .ok reply => if reply = "" then askInTurn setup system history message rest else return some reply
    | .error _ => askInTurn setup system history message rest

def complete (setup : Setup) (a : Agent) (sessionId : String) (message history : Value) (closing : Bool) :
    StateM Outside (Except Fault String) := do
  match ← askInTurn setup (Prompt.system a closing) history message (providers setup) with
  | some reply => return .ok reply
  | none => return .error (.noCompletion sessionId)

end Chatflow.Completion
