import Chatflow.Fault

/-! The document database: named collections of documents in the order in which they were stored, and the
commands on them. Every command is recorded, also when the database cannot be reached. -/

namespace Chatflow.Documents

inductive Test where
  | equals (v : Value)
  | differs (v : Value)
  /-- A moment that has come; null never has. -/
  | reached (now : Instant)
deriving Repr

/-- What the fields of a document have to satisfy. -/
abbrev Filter := List (String × Test)

structure Order where
  field : String
  descending : Bool := false
deriving Repr, DecidableEq

inductive Command where
  | findOne (collection : String) (filter : Filter) (order : Option Order)
  /-- Looks for documents, in an order and up to a limit if these are given. -/
  | find (collection : String) (filter : Filter) (order : Option Order) (limit : Option Int)
  /-- Counts documents up to a limit; zero is no limit. -/
  | count (collection : String) (filter : Filter) (limit : Int)
  | insert (collection : String) (document : Fields)
  | delete (collection : String) (filter : Filter) (many : Bool)
  | update (collection : String) (filter : Filter) (changes : Fields) (many : Bool)
  | index (collection : String) (keys : List (String × Int)) (unique : Bool)
  | ping
  | close
deriving Repr

inductive Reply where
  | documents (documents : List Fields)
  | count (n : Nat)
deriving Repr

abbrev Collections := List (String × List Fields)

structure Server where
  isDown : Bool := false
  collections : Collections := []
  /-- The commands since the record was last cleared. -/
  record : List Command := []
deriving Repr

def fieldOf (document : Fields) (name : String) : Value := (document.get? name).getD .null

/-- Whether a value passes a test. A moment can only be compared with moments. -/
def Test.passes (v : Value) : Test → Except Fault Bool
  | .equals w => .ok (v.same w)
  | .differs w => .ok (!v.same w)
  | .reached now =>
    match v with
    | .null => .ok false
    | .time t => .ok (t.micros ≤ now.micros)
    | _ => .error .wrongType

/-- Whether a document passes all tests of a filter. Tests after one that fails are not made. -/
def Filter.passes (document : Fields) : Filter → Except Fault Bool
  | [] => .ok true
  | (name, test) :: rest => do
    if ← test.passes (fieldOf document name) then Filter.passes document rest else return false

def select (filter : Filter) : List Fields → Except Fault (List Fields)
  | [] => .ok []
  | document :: rest => do
    let passes ← Filter.passes document filter
    let selected ← select filter rest
    return if passes then document :: selected else selected

/-- The kinds of values that can be put in order among themselves; null comes before everything. -/
inductive SortKey where
  | nothing
  | moment (micros : Int)
  | text (s : String)
  | number (x : Float)
deriving Repr

/-- What a value is sorted by. -/
def SortKey.ofValue? : Value → Option SortKey
  | .null => some .nothing
  | .time t => some (.moment t.micros)
  | .str s => some (.text s)
  | .int n => some (.number (Float.ofInt n))
  | .float x => some (.number x)
  | .bool b => some (.number (if b then 1.0 else 0.0))
  | _ => none

/-- Whether a key does not come after another. -/
def SortKey.atMost : SortKey → SortKey → Bool
  | .nothing, _ => true
  | .moment a, .moment b => a ≤ b
  | .text a, .text b => Text.atMost a b
  | .number a, .number b => a ≤ b
  | _, _ => false

/-- Whether two keys can be compared. -/
def SortKey.comparable : SortKey → SortKey → Bool
  | .nothing, _ | _, .nothing => true
  | .moment _, .moment _ | .text _, .text _ | .number _, .number _ => true
  | _, _ => false

/-- Puts documents in order; documents of equal keys keep theirs. -/
def sort (order : Order) (documents : List Fields) : Except Fault (List Fields) := do
  if documents.length < 2 then return documents
  let keyed ← documents.mapM fun document =>
    match SortKey.ofValue? (fieldOf document order.field) with
    | some key => Except.ok (key, document)
    | none => .error .wrongType
  let keys := keyed.map (·.1)
  if keys.all fun a => keys.all a.comparable then
    let sorted := keyed.mergeSort fun a b =>
      if order.descending then b.1.atMost a.1 else a.1.atMost b.1
    return sorted.map (·.2)
  else throw .wrongType

/-- Puts documents in an order if one is given. -/
def sortBy (order : Option Order) (documents : List Fields) : Except Fault (List Fields) :=
  match order with
  | some order => sort order documents
  | none => .ok documents

def documentsOf (collections : Collections) (name : String) : List Fields :=
  ((collections.find? fun c => c.1 == name).map (·.2)).getD []

def setDocuments (name : String) (documents : List Fields) : Collections → Collections
  | [] => [(name, documents)]
  | c :: rest => if c.1 = name then (name, documents) :: rest else c :: setDocuments name documents rest

/-- Revises the first document that passes a filter, or all that do: each into a document, or into nothing.
Tells how many passed. -/
def revise (filter : Filter) (many : Bool) (f : Fields → Option Fields) :
    List Fields → Except Fault (Nat × List Fields)
  | [] => .ok (0, [])
  | document :: rest => do
    if ← Filter.passes document filter then
      let (n, rest) ← if many then revise filter many f rest else pure (0, rest)
      return (n + 1, (f document).toList ++ rest)
    else
      let (n, rest) ← revise filter many f rest
      return (n, document :: rest)

namespace Server

/-- What a command answers and leaves behind, when the database can be reached. -/
def execute (collections : Collections) : Command → Except Fault (Reply × Collections)
  | .findOne name filter order => do
    let found ← sortBy order (← select filter (documentsOf collections name))
    return (.documents found.head?.toList, collections)
  | .find name filter order limit => do
    let found ← sortBy order (← select filter (documentsOf collections name))
    return (.documents (match limit with
      | some limit => found.take limit.toNat
      | none => found), collections)
  | .count name filter limit => do
    let found ← select filter (documentsOf collections name)
    return (.count (if limit = 0 then found else found.take limit.toNat).length, collections)
  | .insert name document =>
    .ok (.count 1, setDocuments name (documentsOf collections name ++ [document]) collections)
  | .delete name filter many => do
    let (n, kept) ← revise filter many (fun _ => none) (documentsOf collections name)
    return (.count n, setDocuments name kept collections)
  | .update name filter changes many => do
    let (n, changed) ← revise filter many (fun document => some (document.merge changes))
      (documentsOf collections name)
    return (.count n, setDocuments name changed collections)
  | .index .. | .ping | .close => .ok (.count 0, collections)

/-- Whether a command has to reach the database. -/
def isRemote : Command → Bool
  | .close => false
  | _ => true

def perform (c : Command) (s : Server) : Except Fault Reply × Server :=
  let s := { s with record := s.record ++ [c] }
  if s.isDown && isRemote c then (.error .databaseDown, s)
  else match execute s.collections c with
    | .ok (reply, collections) => (.ok reply, { s with collections := collections })
    | .error e => (.error e, s)

end Server

end Chatflow.Documents
