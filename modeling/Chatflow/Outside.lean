import Chatflow.Breaker.Local
import Chatflow.Breaker.Lobby
import Chatflow.Breaker.Shared
import Chatflow.Cache.Server
import Chatflow.Documents.Server
import Chatflow.Settings

/-! The outside: the services that the runtime talks to, what they are going to answer, and what has been
sent to them. Nothing in here knows about sessions or flows. -/

namespace Chatflow

/-- What comes of posting something. -/
inductive PostAnswer where
  | response (status : Int) (body : Value)
  /-- An answer whose body is no JSON. -/
  | illegible (status : Int) (message : String)
  /-- The connection failed or took too long; trying again may help. -/
  | lost (message : String)
  /-- Any other failure. -/
  | broken (message : String)
deriving Repr

structure Post where
  url : String
  body : Value
deriving Repr

structure Letter where
  url : String
  key : Option String
  sender : String
  recipient : String
  subject : String
  body : String
  sentAt : Instant
deriving Repr

structure Alert where
  severity : String
  error : String
  context : Fields
deriving Repr

inductive Provider where
  | gemini
  | openai
deriving Repr, DecidableEq

def Provider.name : Provider → String
  | gemini => "gemini"
  | openai => "openai"

/-- What a provider was asked: one text with the conversation so far, or a list of messages. -/
inductive Inquiry where
  | transcript (model : String) (contents : Value) (system : String)
  | messages (model : String) (messages : List Fields)
deriving Repr

/-- What comes of asking a provider. -/
inductive ProviderAnswer where
  | text (text : String)
  | failure (message : String)
deriving Repr, DecidableEq

/-- A pause: an action's delay, or the wait before a post is tried again for the given time. -/
inductive Pause where
  | delay (seconds : Int)
  | backoff (attempt : Nat)
deriving Repr, DecidableEq

/-- How many seconds a post is waited with before it is tried again: twice as long every time, from two
seconds on, and never more than ten. -/
def backoffSeconds (attempt : Nat) : Nat := min 10 (2 * Nat.pow 2 (attempt - 1))

structure Outside where
  cache : Cache.Server Reading := {}
  /-- Guards the marks of deliveries that were seen. -/
  dedupeBreaker : Breaker Reading := {}
  lobby : Lobby Nat := {}
  database : Documents.Server := {}
  channelAnswers : List (Option PostAnswer) := []
  /-- How many posts the channel has accepted of its own accord. -/
  accepted : Nat := 0
  mailAnswers : List (Option PostAnswer) := []
  geminiAnswers : List ProviderAnswer := []
  openaiAnswers : List ProviderAnswer := []
  geminiBreaker : Breaker Reading := {}
  openaiBreaker : Breaker Reading := {}
  posts : List Post := []
  letters : List Letter := []
  alerts : List Alert := []
  inquiries : List Inquiry := []
  pauses : List Pause := []
deriving Repr

inductive MessageForm where
  | text
  | buttons
  | media
  | template
deriving Repr, DecidableEq

/-- A part of the way that messages take to the channel. -/
inductive ChannelPart where
  | form (form : MessageForm)
  /-- What every message but a template begins with. -/
  | heading
  /-- The sending of messages of any form. -/
  | sending
  /-- The posts that messages are sent by. -/
  | posting
deriving Repr, DecidableEq

/-- How a service is set up: its settings, the present time, and what it is connected to. -/
structure Setup where
  settings : Settings := {}
  now : Instant
  hasCache : Bool := false
  /-- Whether sessions, flows and agents are kept in the document database. -/
  hasDatabase : Bool := false
  channelPhone : String := "000000000000"
  channelUrl : String := "https://graph.facebook.com/v18.0"
  adminPhone : Option String := none
  /-- Where e-mails are handed in, and the key to it. -/
  mail : Option (String × Option String) := none
  hasAlerting : Bool := false
  hasGemini : Bool := false
  geminiModel : String := "models/gemini-1.5-flash"
  hasOpenai : Bool := false
  historyWindow : Int := 10
  honorsDelays : Bool := true
  brokenParts : List ChannelPart := []
deriving Repr

namespace Setup

/-- The present time, told by a clock at universal time. -/
def utcNow (setup : Setup) : Except Fault Instant := setup.now.toUtc.mapError .span

def works (setup : Setup) (part : ChannelPart) : Bool := !setup.brokenParts.contains part

def reading (setup : Setup) : Reading := setup.now.reading

def link (setup : Setup) : Option (Cache.Link Outside) :=
  if setup.hasCache then
    some fun command outside =>
      let (reply, cache) := Cache.Server.perform setup.reading command outside.cache
      (reply, { outside with cache := cache })
  else none

end Setup

namespace Outside

def forget (o : Outside) : Outside :=
  { o with
    cache := { o.cache with record := [] }
    database := { o.database with record := [] }
    posts := []
    letters := []
    alerts := []
    inquiries := []
    pauses := [] }

/-- Tells the operators about something, if there is a way to. An alert carries the present time, and is not
sent where that cannot be told. Whether it arrives is of no account. -/
def raiseAlert (setup : Setup) (severity error : String) (context : Fields) : StateM Outside Unit :=
  modify fun o =>
    if setup.hasAlerting && setup.utcNow.isOk then { o with alerts := o.alerts ++ [⟨severity, error, context⟩] }
    else o

def setCache (down : Bool) (o : Outside) : Outside := { o with cache := { o.cache with isDown := down } }

def setDatabase (down : Bool) (o : Outside) : Outside := { o with database := { o.database with isDown := down } }

def rest (pause : Pause) : StateM Outside Unit := modify fun o => { o with pauses := o.pauses ++ [pause] }

end Outside

end Chatflow
