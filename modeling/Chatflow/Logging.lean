import Chatflow.Fault
import Chatflow.Settings
import Chatflow.Text.Capitals

/-! The log of the service. Loggers have dotted names, and what is said about one holds for all below it. A
record is written if it is grave enough for its logger; a few loggers of other parts that report every single
request are kept quieter than the rest. -/

namespace Chatflow.Logging

inductive Gravity where
  | debug
  | info
  | warning
  | error
  | critical
deriving Repr, DecidableEq

namespace Gravity

def name : Gravity → String
  | debug => "debug"
  | info => "info"
  | warning => "warning"
  | error => "error"
  | critical => "critical"

/-- The level that a record is measured by. -/
def level : Gravity → Nat
  | debug => 10
  | info => 20
  | warning => 30
  | error => 40
  | critical => 50

def all : List Gravity := [debug, info, warning, error, critical]

def ofName? : String → Option Gravity
  | "debug" => some debug
  | "info" => some info
  | "warning" | "warn" => some warning
  | "error" => some error
  | "critical" | "fatal" => some critical
  | _ => none

end Gravity

/-- The level that a setting names; any other name stands for that of information. -/
def levelOf (name : String) : Nat :=
  if name = "notset" then 0 else ((Gravity.ofName? name).getD .info).level

/-- The names of the levels that loggers are set to. -/
def levelNames : List (String × Int) :=
  [("CRITICAL", 50), ("FATAL", 50), ("ERROR", 40), ("WARNING", 30), ("WARN", 30), ("INFO", 20), ("DEBUG", 10),
    ("NOTSET", 0)]

/-- The form in which records are written where nothing else is said. -/
def plainForm : String := "%(levelname)s:%(name)s:%(message)s"

/-- The level that a setting names, in small or capital letters. Two names stand for other things than levels:
one for a form of records, and one for the table of all such forms. -/
def generalLevel (name : String) : Except Fault Nat :=
  match Text.capitals name with
  | "BASIC_FORMAT" => .error (.unknownLevel plainForm)
  | "_STYLES" => .error .wrongType
  | capitals => .ok (levelOf capitals.toLower)

/-- The loggers that are kept quiet, and the level from which on they write. -/
def quietLoggers : List (String × Nat) :=
  [("uvicorn.access", 30), ("apscheduler.executors.default", 30), ("httpx", 30)]

/-- How records are written: as documents, or in a form for people. -/
inductive Style where
  | documents
  | console
deriving Repr, DecidableEq

def Style.ofSettings (s : Settings) : Style := if s.environment = "development" then .console else .documents

structure Record where
  logger : String
  gravity : Gravity
  /-- What is told; null if nothing is. -/
  event : Value
  fields : Fields := []
deriving Repr

/-- How a message is reported: as a mere text, or with fields. -/
inductive Form where
  | plain
  | structured
deriving Repr, DecidableEq

/-- The gravity of a name under which messages are reported. That of an exception is an error. -/
def gravityOf? (name : String) : Option Gravity :=
  if name = "exception" then some .error else Gravity.ofName? name

/-- A record of what is told with fields. None of them can stand for the record that is yet to be made. -/
def recordOf (logger : String) (gravity : Gravity) (event : Value) (fields : Fields) : Except Fault Record :=
  if (fields.get? "_record").any (· != .null) then .error .noFields else .ok ⟨logger, gravity, event, fields⟩

/-- Names that fields cannot have, as they are those of what comes with every message. -/
def takenNames : List String := ["self", "event", "method_name"]

/-- A message reported at a level that is given by its number. What is told is a field, then. -/
def reportAt (logger : String) (level : Value) (fields : Fields) : Except Fault Record := do
  if fields.has "self" ∨ fields.has "level" then throw .wrongType
  let some gravity := level.number?.bind fun n => Gravity.all.find? fun g => n.same (.whole g.level)
    | throw (if level.isPlain then .noEntry level else .wrongType)
  if fields.has "method_name" then throw .wrongType
  recordOf logger gravity ((fields.get? "event").getD .null) (fields.erase "event")

/-- What comes of calling a logger. -/
inductive Effect where
  | record (r : Record)
  /-- The logger writes from another level on. -/
  | level (logger : String) (n : Int)
  | nothing
deriving Repr

def readLevel : Value → Except Fault Int
  | .int n => .ok n
  | .bool b => .ok (if b then 1 else 0)
  | .str s =>
    match levelNames.find? fun level => level.1 == s with
    | some level => .ok level.2
    | none => .error (.unknownLevel s)
  | _ => .error .wrongType

/-- Things that loggers have, which cannot be called. -/
def properties : Form → List String
  | .structured => ["name", "level", "parent", "propagate", "handlers", "disabled"]
  | .plain => ["name", "level", "parent", "propagate", "handlers", "disabled", "filters", "manager", "root"]

/-- Calls that do not take a message. -/
def otherCalls : Form → List String
  | .structured => ["bind", "new", "hasHandlers", "getEffectiveLevel", "makeRecord"]
  | .plain => ["log", "hasHandlers", "getEffectiveLevel", "makeRecord"]

/-- Calls after which nothing is different, whatever the message. -/
def idleCalls : Form → List String
  | .structured => ["findCaller", "removeHandler", "try_unbind"]
  | .plain => ["findCaller", "removeHandler", "removeFilter", "filter"]

/-- What comes of calling a logger by a name that is not that of a gravity. -/
def callOther (form : Form) (logger name : String) (event : Value) (fields : Fields) : Except Fault Effect :=
  if (properties form ++ otherCalls form).contains name then .error .wrongType
  else if form = .structured ∧ name = "log" then Effect.record <$> reportAt logger event fields
  else if (["setLevel", "isEnabledFor", "getChild", "unbind"] ++ idleCalls form).contains name ∧ !fields.isEmpty then
    .error .wrongType
  else if idleCalls form |>.contains name then .ok .nothing
  else match name, form with
    | "setLevel", _ => Effect.level logger <$> readLevel event
    | "isEnabledFor", _ => if event.number?.isSome then .ok .nothing else .error .wrongType
    | "getChild", _ => if event.str?.isSome then .ok .nothing else .error .wrongType
    | "unbind", .structured => .error (if event.isPlain then .noEntry event else .wrongType)
    | _, _ => .error .noFields

/-- What comes of calling a logger by a name: a record, if it is that of a gravity. -/
def report (form : Form) (logger name : String) (event : Value) (fields : Fields) : Except Fault Effect :=
  match gravityOf? name, form with
  | some gravity, .plain => .ok (.record ⟨logger, gravity, .str event.display, []⟩)
  | some gravity, .structured =>
    if takenNames.any fields.has then .error .wrongType
    else Effect.record <$> recordOf logger gravity event fields
  | none, _ => callOther form logger name event fields

/-- Whether a logger is one of a name or is below it. All are below the one at the top, which has no name. -/
def isWithin (logger name : String) : Bool := name == "" || logger == name || (name ++ ".").isPrefixOf logger

/-- The levels that loggers are set to; a level of zero says nothing. -/
abbrev Levels := List (String × Int)

/-- The levels where all loggers but the quiet ones write from a given level on. -/
def Levels.ofGeneral (general : Nat) : Levels :=
  ("", general) :: quietLoggers.map fun (name, level) => (name, level)

def Levels.set (levels : Levels) (logger : String) (n : Int) : Levels :=
  (logger, n) :: levels.filter (·.1 != logger)

/-- The level from which on a logger writes: that of the nearest logger above it, or its own. -/
def Levels.threshold (levels : Levels) (logger : String) : Int :=
  let told := levels.filter fun (name, n) => n != 0 && isWithin logger name
  let nearest := (told.map (·.1.length)).foldl max 0
  ((told.find? (·.1.length == nearest)).map (·.2)).getD 0

def topName : String := "root"

def loggerOf : Value → Except Fault String
  | .str s => .ok (if s = topName then "" else s)
  | v => if v.truthy then .error .wrongType else .ok ""

/-- Fields that tell about the record itself and are not written. -/
def ownFields : List String := ["_record", "_from_structlog", "exc_info", "stack_info", "timestamp"]

/-- The document of a record. Level and logger of the record come before fields of these names. When it was
made is told apart. -/
def Record.toValue (r : Record) : Value :=
  let own : Fields := [("level", .str r.gravity.name),
    ("logger", .str (if r.logger = "" then topName else r.logger))]
  let told : Fields := if r.event == .null then [] else [("event", r.event)]
  .obj ((ownFields.foldl Fields.erase r.fields).merge (told ++ own))

def lineEnds : List Char :=
  ['\n', '\r', '\x0b', '\x0c', '\x1c', '\x1d', '\x1e', '\u0085', '\u2028', '\u2029']

/-- How many lines end in a text. A carriage return and a line feed after it end one line. -/
def lineEndCount : List Char → Nat
  | '\r' :: '\n' :: rest => lineEndCount rest + 1
  | c :: rest => lineEndCount rest + if lineEnds.contains c then 1 else 0
  | [] => 0

/-- Whether a text is put in quotes where it is the value of a field. -/
def isQuoted (s : String) : Bool :=
  s.toList.any " \t=\r\n\"'".toList.contains

/-- What the form for people shows of a field as it is. Texts of several words and values of other types are
written so that they break no line. -/
def shown : String × Value → List String
  | ("logger_name", .str s) => [s]
  | (name, .str s) => if isQuoted s then [name] else [name, s]
  | (name, _) => [name]

/-- A report of where something happened, on lines of its own; `none` if it is no text. -/
def trace? (r : Record) (name : String) : Option String :=
  match (r.fields.get? name).getD .null with
  | .null => some ""
  | .str s => some ("\n" ++ s)
  | _ => none

/-- What stands between two such reports. -/
def traceBorder : String := "\n\n" ++ String.ofList (List.replicate 79 '=') ++ "\n"

/-- What the form for people shows below the line of a record; `none` if the record cannot be shown. -/
def traces? (r : Record) : Option String := do
  let stack ← trace? r "stack"
  let exception ← trace? r "exception"
  return stack ++ (if stack = "" ∨ exception = "" then "" else traceBorder) ++ exception

/-- How many lines the form of a record for people takes: none if it cannot be shown. -/
def Record.lineCount (r : Record) : Nat :=
  let fields := (ownFields ++ ["level", "logger", "stack", "exception"]).foldl Fields.erase r.fields
  match traces? r with
  | none => 0
  | some traces => ((r.event.display :: r.logger :: fields.flatMap shown) ++ [traces ++ "\n"]).foldl
      (fun n s => n + lineEndCount s.toList) 0

/-- The records that are written. -/
def written (levels : Levels) : List Effect → List Record
  | [] => []
  | .record r :: rest =>
    if levels.threshold r.logger ≤ r.gravity.level then r :: written levels rest else written levels rest
  | .level logger n :: rest => written (levels.set logger n) rest
  | .nothing :: rest => written levels rest

end Chatflow.Logging
