import Chatflow.Fault

/-! Values that come in place of what an operation asks for. Something empty counts as absent, and what a value
cannot be used for is a fault of the operation that uses it so. -/

namespace Chatflow.Argument

open Chatflow.Schema

/-- The fields of a value that must be a table. -/
def fields : Value → Except Fault Fields
  | .obj fields => .ok fields
  | _ => .error .noFields

/-- The members of a value that can be walked through: the items of a list, the names of a table, the
characters of a text. -/
def members : Value → Except Fault (List Value)
  | .list items => .ok items
  | .obj fields => .ok (fields.map fun field => .str field.1)
  | .str s => .ok ((Text.letters s).map .str)
  | _ => .error .wrongType

def membersOf (fields : Fields) (name : String) : Except Fault (List Value) :=
  members ((fields.get? name).getD (.list []))

/-- Whether a value can be a key. -/
def isKey : Value → Bool
  | .list _ | .obj _ => false
  | _ => true

/-- A value that is looked up as a key. -/
def key (v : Value) : Except Fault Value := if isKey v then .ok v else .error .wrongType

/-- The text in a value, or what is at fault if there is something else. -/
def text (fault : Fault) : Value → Except Fault String
  | .str s => .ok s
  | v => if v.truthy then .error fault else .ok ""

/-- Arguments by name may only have names that are known. -/
def checkKnown (names : List String) (args : Fields) : Except Fault Unit :=
  if args.all fun arg => names.contains arg.1 then .ok () else .error .wrongType

def front (count : Nat) : Value → Except Fault Value
  | .str s => .ok (.str (Text.clip count s))
  | .list items => .ok (.list (items.take count))
  | _ => .error .wrongType

def pair (v : Value) : Except Fault (Value × Value) := do
  match ← members v with
  | [a, b] => return (a, b)
  | items => throw (.notPair items.length)

/-- The entries of a table whose keys need not be texts, in the order in which they were made. -/
abbrev Entries := List (Value × Value)

namespace Entries

/-- Sets an entry: in its place if there is one under an equal key, at the end if not. -/
def set (key value : Value) : Entries → Entries
  | [] => [(key, value)]
  | entry :: rest => if entry.1.same key then (entry.1, value) :: rest else entry :: set key value rest

/-- The key and the value that the member at some place of a list makes an entry of. -/
def entryAt (place : Nat) (v : Value) : Except Fault (Value × Value) := do
  match ← members v with
  | [k, value] => return (← key k, value)
  | items => throw (.notEntry place items.length)

/-- Makes entries one after another of the members of a list. -/
def ofPairs : Nat → List Value → Entries → Except Fault Entries
  | _, [], entries => .ok entries
  | place, v :: rest, entries => do
    let (key, value) ← entryAt place v
    ofPairs (place + 1) rest (entries.set key value)

/-- The entries of a table, or those that pairs make. -/
def ofValue : Value → Except Fault Entries
  | .obj fields => .ok (fields.map fun field => (.str field.1, field.2))
  | v => do ofPairs 0 (← members v) []

def stepTo : Value → PathStep
  | .str name => .field (Text.replaceHalves name)
  | .bool b => .index (if b then 1 else 0)
  | .int n => if isInner n then .index n else .field (toString n)
  | v => .field v.notationText

/-- The entries as fields, which have names; the name of an issue is that of the entry and the word for its
key. -/
def named : Entries → Check Fields
  | [] => .ok []
  | (key, value) :: rest =>
    let name : Check String := ((Schema.text key).at' (.field "[key]")).at' (stepTo key)
    (fun name rest => (name, value) :: rest) <$> name <*> named rest

/-- The name under which an entry is told. -/
def nameOf : Value → String
  | .bool b => if b then "true" else "false"
  | v => v.display

/-- The entries as they are told, by names. Of several under one name the last one counts. -/
def told (entries : Entries) : Fields := Fields.merge [] (entries.map fun (key, value) => (nameOf key, value))

end Entries

end Chatflow.Argument
