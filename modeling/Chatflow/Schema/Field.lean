import Chatflow.Decimal.Whole
import Chatflow.Schema.Check
import Chatflow.Time.Reading
import Chatflow.Value.Display

/-! Readers for the fields of documents. They are lenient: numbers may be written as text, flags as words
or as zero and one, and a field may go by several names, of which the first one present counts. -/

namespace Chatflow.Schema

open Chatflow.Text
open Chatflow.Decimal

/-- A reader of one value. -/
abbrev Reader (α : Type) := Value → Check α

def anything : Reader Value := .ok

def text : Reader String
  | .str s => .ok s
  | _ => .problem .notText

/-- What a text is read as, if it is looked into at all: all of its codes have to be characters then. -/
def lookInto {α : Type} (s : String) (read : String → Check α) : Check α :=
  if holdsHalf s then .problem .notUnicode else read s

/-- A text whose characters are counted. -/
def countedText : Reader String := fun v => (text v).andThen fun s => lookInto s .ok

def textAtLeast (limit : Nat) : Reader String := fun v =>
  (countedText v).andThen fun s => if size s < limit then .problem (.textTooShort limit) else .ok s

def textAtMost (limit : Nat) : Reader String := fun v =>
  (countedText v).andThen fun s => if limit < size s then .problem (.textTooLong limit) else .ok s

/-- Whether a whole number lies strictly between the ends of 64 bits. -/
def isInner (n : Int) : Bool := -9223372036854775808 < n && n < 9223372036854775808

def whole : Reader Int
  | .int n => .ok n
  | .bool b => .ok (if b then 1 else 0)
  | .float x =>
    match truncate? x with
    | none => .problem .notFinite
    | some n =>
      if isWhole x then
        if isInner n then .ok n else .problem .wholeTooLong
      else .problem .fractionalPart
  | .str s => lookInto s fun s =>
    match readLoose s.toList with
    | .ok n => .ok n
    | .error .malformed => .problem .wholeUnreadable
    | .error (.tooLong _) => .problem .wholeTooLong
  | _ => .problem .notWhole

/-- A whole number that is not below the first limit nor above the second. -/
def wholeWithin (low : Option Int) (high : Option Int) : Reader Int := fun v =>
  (whole v).andThen fun n =>
    match low, high with
    | some low, some high =>
      if n < low then .problem (.below low) else if high < n then .problem (.above high) else .ok n
    | some low, none => if n < low then .problem (.below low) else .ok n
    | none, some high => if high < n then .problem (.above high) else .ok n
    | none, none => .ok n

/-- A number. A whole number that exceeds every floating-point number is none. -/
def number : Reader Float
  | .float x => .ok x
  | .int n => if (ofInt n).isFinite then .ok (ofInt n) else .problem .notNumber
  | .bool b => .ok (if b then 1.0 else 0.0)
  | .str s => lookInto s fun s =>
    let cs := s.toList
    match (readNumber (trimMargins cs)).orElse fun _ => (withoutLowLines? cs).bind readNumber with
    | some x => .ok x
    | none => .problem .numberUnreadable
  | _ => .problem .notNumber

def positive : Reader Float := fun v =>
  (number v).andThen fun x => if 0.0 < x then .ok x else .problem .notPositive

/-- The words for yes and no. -/
def flagOfText? (s : String) : Option Bool :=
  let word := String.ofList (s.toList.map Char.toLower)
  if ["0", "off", "f", "false", "n", "no"].contains word then some false
  else if ["1", "on", "t", "true", "y", "yes"].contains word then some true
  else none

/-- The flag that a number stands for. -/
def flagOfNumber (n : Int) : Check Bool :=
  if n = 0 then .ok false else if n = 1 then .ok true else .problem .flagUnreadable

/-- A flag. Numbers of more than 64 bits and those with a fraction are of the wrong type altogether. -/
def flag : Reader Bool
  | .bool b => .ok b
  | .int n => if n = -9223372036854775808 ∨ isInner n then flagOfNumber n else .problem .notFlag
  | .float x =>
    match (truncate? x).filter fun n => isWhole x && isInner n with
    | some n => flagOfNumber n
    | none => .problem .notFlag
  | .str s => lookInto s fun s =>
    match flagOfText? s with
    | some b => .ok b
    | none => .problem .flagUnreadable
  | _ => .problem .notFlag

/-- What one of a few texts stands for, or else a problem. -/
def oneOf {α : Type} (choices : List (String × α)) (other : Problem) : Reader α
  | .str s => lookInto s fun s =>
    match choices.find? fun c => c.1 == s with
    | some c => .ok c.2
    | none => .problem other
  | _ => .problem other

/-- One of a few texts, and what each stands for. -/
def choice {α : Type} (choices : List (String × α)) : Reader α := oneOf choices (.notChoice (choices.map (·.1)))

/-- One of the members of an enumeration. -/
def member {α : Type} (choices : List (String × α)) : Reader α := oneOf choices (.notMember (choices.map (·.1)))

/-- Reads items in order; each issue names the item's index. -/
def itemsFrom {α : Type} (reader : Reader α) : Nat → List Value → Check (List α)
  | _, [] => .ok []
  | n, v :: rest => List.cons <$> (reader v).at' (.index n) <*> itemsFrom reader (n + 1) rest

def list {α : Type} (reader : Reader α) : Reader (List α)
  | .list items => itemsFrom reader 0 items
  | _ => .problem .notList

def table : Reader Fields
  | .obj fields => .ok fields
  | _ => .problem .notTable

def optional {α : Type} (reader : Reader α) : Reader (Option α)
  | .null => .ok none
  | v => some <$> reader v

/-- The instant that a number stands for. -/
def instantOfNumber (a : Amount) : Check Instant :=
  match Instant.ofStamp a with
  | .ok t => .ok t
  | .error e => .problem (.badInstant e.message)

/-- An instant. Whole numbers of more than 64 bits are rounded first. -/
def instant : Reader Instant
  | .time t => .ok t
  | .str s => lookInto s fun s =>
    match Instant.ofText s with
    | .ok t => .ok t
    | .error .yearZero => .problem (.badInstant DateError.yearZero.message)
    | .error e => .problem (.noDate e.message)
  | .int n =>
    if n = -9223372036854775808 ∨ isInner n then instantOfNumber (.whole n)
    else if (ofInt n).isFinite then instantOfNumber (.real (ofInt n))
    else .problem .notInstant
  | .float x => instantOfNumber (.real x)
  | _ => .problem .notInstant

/-- The first of several names under which a field is present, with its value. -/
def present? (fields : Fields) (names : List String) : Option (String × Value) :=
  names.findSome? fun name => (fields.get? name).map fun v => (name, v)

def required {α : Type} (fields : Fields) (names : List String) (reader : Reader α) : Check α :=
  match present? fields names with
  | some (name, v) => (reader v).at' (.field name)
  | none => Check.problem Problem.missing |>.at' (.field (names.headD ""))

/-- A field in whose place something else is checked if it is missing. -/
def orElse {α : Type} (fields : Fields) (names : List String) (other : Check α) (reader : Reader α) : Check α :=
  match present? fields names with
  | some (name, v) => (reader v).at' (.field name)
  | none => other

/-- A field that has a default. -/
def withDefault {α : Type} (fields : Fields) (names : List String) (default_ : α) (reader : Reader α) :
    Check α :=
  orElse fields names (.ok default_) reader

def record {α : Type} (name : String) (reader : Fields → Check α) : Reader α
  | .obj fields => reader fields
  | _ => .problem (.notRecord name)

/-- A document of one of several kinds, told apart by its `type`. -/
def tagged {α : Type} (kinds : List (String × (Fields → Check α))) : Reader α
  | .obj fields =>
    match Fields.get? fields "type" with
    | none => .problem (.tagMissing "type")
    | some tag =>
      match tag.str?.bind fun s => kinds.find? fun kind => kind.1 == s with
      | some (name, reader) => (reader fields).at' (.field name)
      | none => .problem (.tagUnknown "type" (replaceHalves tag.display) (kinds.map (·.1)))
  | _ => .problem .notTagged

end Chatflow.Schema
