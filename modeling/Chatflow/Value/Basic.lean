import Chatflow.Decimal.Amount
import Chatflow.Time.Instant

/-! Structured values: what flow documents, session variables and messages are made of. Objects keep
their fields in the order in which they were written, and no field name occurs twice. Moments occur in
stored documents only; as JSON they are texts. -/

namespace Chatflow

/-- An optional text that is present and not empty. -/
def filled? (s : Option String) : Option String := s.filter (· != "")

inductive Value where
  | null
  | bool (b : Bool)
  | int (n : Int)
  | float (x : Float)
  | str (s : String)
  | time (t : Instant)
  | list (items : List Value)
  | obj (fields : List (String × Value))
deriving Repr, Inhabited

namespace Value

mutual

/-- Whether two values agree part by part; numbers of two kinds never do. -/
def beq : Value → Value → Bool
  | .null, .null => true
  | .bool a, .bool b => a == b
  | .int a, .int b => a == b
  | .float a, .float b => a == b
  | .str a, .str b => a == b
  | .time a, .time b => a == b
  | .list items, .list others => beqItems items others
  | .obj fields, .obj others => beqFields fields others
  | _, _ => false

def beqItems : List Value → List Value → Bool
  | [], [] => true
  | item :: items, other :: others => beq item other && beqItems items others
  | _, _ => false

def beqFields : List (String × Value) → List (String × Value) → Bool
  | [], [] => true
  | (name, v) :: fields, (other, w) :: others => name == other && beq v w && beqFields fields others
  | _, _ => false

end

instance : BEq Value := ⟨beq⟩

end Value

abbrev Fields := List (String × Value)

namespace Fields

def get? (fields : Fields) (key : String) : Option Value :=
  (fields.find? fun field => field.1 == key).map (·.2)

/-- Sets a field: in its place if it is there, at the end if it is new. -/
def set : Fields → String → Value → Fields
  | [], key, value => [(key, value)]
  | (k, v) :: rest, key, value => if k = key then (k, value) :: rest else (k, v) :: set rest key value

def merge (fields others : Fields) : Fields := others.foldl (fun acc field => acc.set field.1 field.2) fields

def erase (fields : Fields) (key : String) : Fields := fields.filter fun field => field.1 != key

def has (fields : Fields) (key : String) : Bool := fields.any fun field => field.1 == key

theorem get?_cons (k key : String) (v : Value) (fields : Fields) :
    get? ((k, v) :: fields) key = if k = key then some v else fields.get? key := by
  by_cases h : k = key <;> simp [get?, h]

theorem get?_set (fields : Fields) (key other : String) (value : Value) :
    (fields.set key value).get? other = if key = other then some value else fields.get? other := by
  induction fields with
  | nil => by_cases h : key = other <;> simp [set, get?, h]
  | cons field rest ih =>
    obtain ⟨k, v⟩ := field
    by_cases h : k = key
    · subst h; by_cases h' : k = other <;> simp [set, get?_cons, h']
    · by_cases h' : k = other
      · subst h'; simp [set, h, get?_cons, Ne.symm h]
      · simp [set, h, get?_cons, h', ih]

end Fields

namespace Value

/-- Whether a value counts as present: not null, false, zero, empty text or an empty collection. -/
def truthy : Value → Bool
  | .null => false
  | .bool b => b
  | .int n => n != 0
  | .float x => !(x == 0.0)
  | .str s => s != ""
  | .time _ => true
  | .list items => !items.isEmpty
  | .obj fields => !fields.isEmpty

def kindName : Value → String
  | .null => "NoneType"
  | .bool _ => "bool"
  | .int _ => "int"
  | .float _ => "float"
  | .str _ => "str"
  | .time _ => "datetime.datetime"
  | .list _ => "list"
  | .obj _ => "dict"

def isPlain : Value → Bool
  | .list _ | .obj _ => false
  | _ => true

def str? : Value → Option String
  | .str s => some s
  | _ => none

def fields? : Value → Option Fields
  | .obj fields => some fields
  | _ => none

def ofText? : Option String → Value
  | some s => .str s
  | none => .null

def ofAmount : Amount → Value
  | .whole n => .int n
  | .real x => .float x

/-- The number a value stands for, flags being zero and one. -/
def number? : Value → Option Amount
  | .int n => some (.whole n)
  | .bool b => some (.whole (if b then 1 else 0))
  | .float x => some (.real x)
  | _ => none

/-- Whether two values are equal as keys and in filters: numbers by what they stand for, everything else
by its parts. -/
def same (a b : Value) : Bool :=
  match a.number?, b.number? with
  | some a, some b => a.same b
  | none, none => a == b
  | _, _ => false

end Value

end Chatflow
