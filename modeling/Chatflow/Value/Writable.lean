import Chatflow.Text.Codes
import Chatflow.Value.Basic

/-! What can be sent to other programs: numbers have to be finite, and texts may not hold halves of
characters. -/

namespace Chatflow.Value

open Chatflow.Text

mutual

/-- A value with null for every number that is not finite. -/
def finite : Value → Value
  | .float x => if x.isFinite then .float x else .null
  | .list items => .list (finiteItems items)
  | .obj fields => .obj (finiteFields fields)
  | v => v

def finiteItems : List Value → List Value
  | [] => []
  | item :: items => finite item :: finiteItems items

def finiteFields : List (String × Value) → List (String × Value)
  | [] => []
  | (key, value) :: fields => (key, finite value) :: finiteFields fields

end

mutual

/-- The first name of a field, from the outside to the inside, in which halves stand. -/
def halfName? : Value → Option String
  | .list items => halfNameAmong? items
  | .obj fields => halfNameIn? fields
  | _ => none

def halfNameAmong? : List Value → Option String
  | [] => none
  | item :: items => (halfName? item).orElse fun _ => halfNameAmong? items

def halfNameIn? : List (String × Value) → Option String
  | [] => none
  | (key, value) :: fields =>
    if holdsHalf key then some key
    else (halfName? value).orElse fun _ => halfNameIn? fields

end

mutual

def isWritable : Value → Bool
  | .float x => x.isFinite
  | .str s => !holdsHalf s
  | .list items => areWritable items
  | .obj fields => haveWritable fields
  | _ => true

def areWritable : List Value → Bool
  | [] => true
  | item :: items => isWritable item && areWritable items

def haveWritable : List (String × Value) → Bool
  | [] => true
  | (key, value) :: fields => !holdsHalf key && isWritable value && haveWritable fields

end

end Chatflow.Value

/-- Fields as they are told in documents: halves in their names are replaced, and numbers that are not finite
are null. -/
def Chatflow.Fields.told (fields : Fields) : Fields :=
  Fields.merge [] (fields.map fun (name, v) => (Text.replaceHalves name, v.finite))
