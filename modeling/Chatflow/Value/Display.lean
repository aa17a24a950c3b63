import Chatflow.Decimal.Notation
import Chatflow.Decimal.Reading
import Chatflow.Text.Quoted
import Chatflow.Value.Basic

/-! The plain text of a value, as it appears in messages: a text stands as it is, and every other value
in the notation in which lists and tables are shown, with quoted texts inside. -/

namespace Chatflow.Value

open Chatflow.Text

mutual

/-- The notation of a value inside a list or a table. -/
def notationText : Value → String
  | .null => "None"
  | .bool b => if b then "True" else "False"
  | .int n => toString n
  | .float x => Decimal.write Decimal.shown x
  | .str s => quoted s
  | .time t => t.textWithOffset
  | .list items => "[" ++ itemsText items ++ "]"
  | .obj fields => "\x7b" ++ fieldsText fields ++ "\x7d"

def itemsText : List Value → String
  | [] => ""
  | [item] => notationText item
  | item :: items => notationText item ++ ", " ++ itemsText items

def fieldsText : List (String × Value) → String
  | [] => ""
  | [(key, value)] => quoted key ++ ": " ++ notationText value
  | (key, value) :: fields => quoted key ++ ": " ++ notationText value ++ ", " ++ fieldsText fields

end

mutual

/-- Whether no whole number in a value has more digits than numerals may have. -/
def isShowable : Value → Bool
  | .int n => n.natAbs < 10 ^ Decimal.numeralLimit
  | .list items => areShowable items
  | .obj fields => haveShowable fields
  | _ => true

def areShowable : List Value → Bool
  | [] => true
  | item :: items => isShowable item && areShowable items

def haveShowable : List (String × Value) → Bool
  | [] => true
  | (_, value) :: fields => isShowable value && haveShowable fields

end

def display : Value → String
  | .str s => s
  | value => notationText value

end Chatflow.Value
