import Chatflow.Decimal.Notation
import Chatflow.Text.Quoted
import Chatflow.Value.Basic

/-! Values written as JSON text. Characters outside ASCII stand as they are; only where halves of characters
cannot be kept apart from characters, they are escaped. -/

namespace Chatflow.Value

/-- The escape of a code of at most 16 bits. -/
def codeEscape (code : Nat) : List Char := '\\' :: 'u' :: Text.hexDigits 4 code

def jsonChar (c : Char) : List Char :=
  if c = '"' then ['\\', '"']
  else if c = '\\' then ['\\', '\\']
  else if c = '\n' then ['\\', 'n']
  else if c = '\r' then ['\\', 'r']
  else if c = '\t' then ['\\', 't']
  else if c = Char.ofNat 8 then ['\\', 'b']
  else if c = Char.ofNat 12 then ['\\', 'f']
  else if c.toNat < 32 then codeEscape c.toNat
  else [c]

def jsonText (s : String) : String := String.ofList ('"' :: s.toList.flatMap jsonChar ++ ['"'])

/-- What stands between the items and after the keys. -/
structure Layout where
  comma : String
  colon : String
deriving Repr, DecidableEq

def spaced : Layout := ⟨", ", ": "⟩

def compact : Layout := ⟨",", ":"⟩

mutual

def toJson (layout : Layout) : Value → String
  | .null => "null"
  | .bool b => if b then "true" else "false"
  | .int n => toString n
  | .float x => Decimal.write Decimal.structured x
  | .str s => jsonText s
  | .time t => jsonText t.textWithOffset
  | .list items => "[" ++ itemsJson layout items ++ "]"
  | .obj fields => "\x7b" ++ fieldsJson layout fields ++ "\x7d"

def itemsJson (layout : Layout) : List Value → String
  | [] => ""
  | [item] => toJson layout item
  | item :: items => toJson layout item ++ layout.comma ++ itemsJson layout items

def fieldsJson (layout : Layout) : List (String × Value) → String
  | [] => ""
  | [(key, value)] => jsonText key ++ layout.colon ++ toJson layout value
  | (key, value) :: fields =>
    jsonText key ++ layout.colon ++ toJson layout value ++ layout.comma ++ fieldsJson layout fields

end

/-- The characters of a code on a line. -/
def lineChar (code : Nat) : List Char := if Text.isHalf code then codeEscape code else [Char.ofNat code]

/-- A value as a plain line of JSON. -/
def toLine (v : Value) : String := String.ofList ((Text.codes (v.toJson compact)).flatMap lineChar)

end Chatflow.Value
