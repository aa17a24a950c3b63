import Chatflow.Completion
import Chatflow.Notification

/-! A turn of a conversation that an AI agent owns. The agent remembers the last turns of it. The
conversation goes to a human when the agent hands it over, and at the latest with the last turn it may take. A
turn on which no provider replies changes nothing. -/

namespace Chatflow.Delegate

/-- The variable that keeps what an agent remembers. -/
def historyKey : String := "__ai_history__"

structure Outcome where
  /-- What the contact gets to read. -/
  reply : String
  ended : Bool := false
  payload : Option Fields := none
  /-- What a human is told instead of a payload that cannot be read. -/
  plain : Option String := none
  failed : Bool := false
deriving Repr

def Outcome.toValue (o : Outcome) : Value :=
  .obj [("reply", .str o.reply), ("ended", .bool o.ended),
    ("handoff_payload", (o.payload.map fun p => .obj p.told).getD .null), ("handoff_raw", .ofText? o.plain),
    ("failed", .bool o.failed)]

def Outcome.tell (o : Outcome) : Except Fault Value :=
  ((o.payload.getD []).checkTold).map fun _ => o.toValue

/-- The last entries of a list, two for each turn. -/
def lastTurns {α : Type} (window : Int) (entries : List α) : List α :=
  let start := -window * 2
  if start < 0 then entries.drop (entries.length - start.natAbs) else entries.drop start.natAbs

/-- What an agent remembers, as it is stored. The characters of a text count as entries. -/
def storedHistory (vars : Fields) : Except Fault (List Value) :=
  let v := (vars.get? historyKey).getD .null
  if v.truthy then
    match v with
    | .list entries => .ok entries
    | .str s => .ok ((Text.letters s).map .str)
    | _ => .error .wrongType
  else .ok []

def entry (role : String) (content : Value) : Value := .obj [("role", .str role), ("content", content)]

def remember (window : Int) (history : List Value) (message : Value) (reply : String) : List Value :=
  lastTurns window (history ++ [entry "user" message, entry "assistant" (.str reply)])

/-- A session whose agent's part is over. -/
def endAssignment (s : Session) : Session :=
  { s with status := .completed, currentStep := none, assignee := none }

def failure : Outcome := { reply := Wording.aiFallbackReply, failed := true }

/-- The payload of a hand-off, if it can be read, and what a human is told otherwise: the payload as it
stands, or the reply if there is none. -/
def readHandoff (visible : String) (payload : Option String) : Except Fault (Option Fields × Option String) := do
  let read ← match payload with
    | some text => Handoff.readPayload text
    | none => pure none
  return (read, if read.isSome then none else some (payload.getD visible))

/-- What a reply does to the session: it counts as a turn and is remembered. -/
def noteTurn (window : Int) (history : List Value) (message : Value) (visible : String) (s : Session) : Session :=
  { s with
    aiTurns := s.aiTurns + 1
    vars := s.vars.set historyKey (.list (remember window history message visible)) }

def handleTurn (setup : Setup) (s : Session) (agent : Option Agent) (message : Value) :
    ExceptT Fault (StateM Outside) (Outcome × Session) := do
  match agent.filter Agent.isActive with
  | none => return (failure, s)
  | some a =>
    let closing := decide (a.maxTurns ≤ s.aiTurns + 1)
    let history := lastTurns setup.historyWindow (← liftExcept (storedHistory s.vars))
    match ← ExceptT.lift (Completion.complete setup a s.id message (.list history) closing) with
    | .error _ => return (failure, s)
    | .ok completion =>
      let (visible, payload) := Handoff.split completion
      let noted := noteTurn setup.historyWindow history message visible s
      if payload.isNone && !closing then return ({ reply := visible }, noted)
      let (read, plain) ← liftExcept (readHandoff visible payload)
      let ended := endAssignment noted
      let _ ← ExceptT.lift (Notification.notifyHandoff setup ended agent read plain)
      return ({ reply := visible, ended := true, payload := read, plain := plain }, ended)
where
  /-- A check that changes nothing. -/
  liftExcept {α : Type} (e : Except Fault α) : ExceptT Fault (StateM Outside) α := ExceptT.mk (pure e)

end Chatflow.Delegate
