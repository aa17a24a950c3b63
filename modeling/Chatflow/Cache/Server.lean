import Chatflow.Fault
import Chatflow.Time.Clock

/-! The shared cache: texts, counters and tables under keys, which vanish when their time is up, and locks
by name. Every command is recorded, also when the cache cannot be reached. -/

namespace Chatflow.Cache

/-- A field of a table in the cache: a text, or a number that is counted up. -/
inductive Cell where
  | text (s : String)
  | count (n : Int)
deriving Repr, DecidableEq

def Cell.show : Cell → String
  | .text s => s
  | .count n => toString n

inductive Content where
  | text (s : String)
  | count (n : Int)
  | table (cells : List (String × Cell))
deriving Repr, DecidableEq

structure Slot (τ : Type) where
  key : String
  content : Content
  expires : Option τ := none
deriving Repr

inductive Command where
  | set (key value : String) (seconds : Amount) (onlyNew : Bool)
  | increment (key : String)
  | expire (key : String) (seconds : Amount)
  | readTable (key : String)
  | writeTable (key : String) (cells : List (String × Cell))
  | dropCell (key name : String)
  | incrementCell (key name : String) (step : Int)
  | delete (key : String)
  | ping
  /-- Prepares a lock, to be held for so long and waited for so long. -/
  | lock (name : String) (seconds patience : Amount)
  | acquire (name : String)
  | release (name : String)
deriving Repr, BEq

inductive Reply where
  | done
  | flag (b : Bool)
  | count (n : Int)
  | table (cells : List (String × Cell))
deriving Repr, DecidableEq

/-- A way to have commands carried out, which may change some state and may fail. -/
abbrev Link (σ : Type) := Command → StateM σ (Except Fault Reply)

/-- The cache server, by the readings of a clock. -/
structure Server (τ : Type) where
  isDown : Bool := false
  /-- Whether locks are granted in time. -/
  grantsLocks : Bool := true
  slots : List (Slot τ) := []
  /-- The commands since the record was last cleared. -/
  record : List Command := []
deriving Repr

namespace Server

variable {τ : Type} [Clock τ]

/-- Removes the slots whose time is up. -/
def prune (slots : List (Slot τ)) (now : τ) : List (Slot τ) :=
  slots.filter fun s => match s.expires with
    | some time => !Clock.reached time now
    | none => true

/-- The slot of a key. -/
def slot? (slots : List (Slot τ)) (key : String) : Option (Slot τ) := slots.find? fun s => s.key == key

def drop (slots : List (Slot τ)) (key : String) : List (Slot τ) := slots.filter fun s => s.key != key

def store (slots : List (Slot τ)) (s : Slot τ) : List (Slot τ) := drop slots s.key ++ [s]

/-- The cells of a table; a key that is missing has none. -/
def cells? (slots : List (Slot τ)) (key : String) : Except Fault (List (String × Cell)) :=
  match slot? slots key with
  | none => .ok []
  | some ⟨_, .table cells, _⟩ => .ok cells
  | some _ => .error .wrongType

def setCell (cells : List (String × Cell)) (name : String) (c : Cell) : List (String × Cell) :=
  cells.filter (fun cell => cell.1 != name) ++ [(name, c)]

/-- Replaces the cells of a key, which keeps its time. -/
def storeCells (slots : List (Slot τ)) (key : String) (cells : List (String × Cell)) : List (Slot τ) :=
  store slots ⟨key, .table cells, (slot? slots key).bind Slot.expires⟩

/-- The number in a cell; one that is missing counts as zero. -/
def countIn (cells : List (String × Cell)) (name : String) : Except Fault Int :=
  match cells.find? fun cell => cell.1 == name with
  | none => .ok 0
  | some (_, .count n) => .ok n
  | some (_, .text _) => .error .wrongType

/-- What a command answers and leaves behind, when the cache can be reached. -/
def execute (now : τ) (grantsLocks : Bool) (slots : List (Slot τ)) :
    Command → Except Fault (Reply × List (Slot τ))
  | .set key value seconds onlyNew =>
    if onlyNew && (slot? slots key).isSome then .ok (.flag false, slots)
    else .ok (.flag true, store slots ⟨key, .text value, some (Clock.after now seconds)⟩)
  | .increment key =>
    match slot? slots key with
    | none => .ok (.count 1, store slots ⟨key, .count 1, none⟩)
    | some ⟨_, .count n, expires⟩ => .ok (.count (n + 1), store slots ⟨key, .count (n + 1), expires⟩)
    | some _ => .error .wrongType
  | .expire key seconds =>
    .ok (.done, slots.map fun s =>
      if s.key == key then { s with expires := some (Clock.after now seconds) } else s)
  | .readTable key => (cells? slots key).map fun cells => (.table cells, slots)
  | .writeTable key written =>
    (cells? slots key).map fun cells =>
      (.done, storeCells slots key (written.foldl (fun cells cell => setCell cells cell.1 cell.2) cells))
  | .dropCell key name =>
    (cells? slots key).map fun cells =>
      (.done, if (slot? slots key).isSome then storeCells slots key (cells.filter fun cell => cell.1 != name)
        else slots)
  | .incrementCell key name step => do
    let cells ← cells? slots key
    let n ← countIn cells name
    return (.count (n + step), storeCells slots key (setCell cells name (.count (n + step))))
  | .delete key => .ok (.done, drop slots key)
  | .ping | .lock .. | .release _ => .ok (.done, slots)
  | .acquire _ => .ok (.flag grantsLocks, slots)

def perform (now : τ) (c : Command) (s : Server τ) : Except Fault Reply × Server τ :=
  let s := { s with slots := prune s.slots now, record := s.record ++ [c] }
  if s.isDown then (.error .cacheDown, s)
  else match execute now s.grantsLocks s.slots c with
    | .ok (reply, slots) => (.ok reply, { s with slots := slots })
    | .error e => (.error e, s)

end Server

def Reply.flag? : Reply → Except Fault Bool
  | .flag b => .ok b
  | _ => .error .wrongType

def Reply.count? : Reply → Except Fault Int
  | .count n => .ok n
  | _ => .error .wrongType

def Reply.table? : Reply → Except Fault (List (String × Cell))
  | .table cells => .ok cells
  | _ => .error .wrongType

end Chatflow.Cache
