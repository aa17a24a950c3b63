import Chatflow.Decimal.Reading
import Chatflow.Text.Codes
import Chatflow.Value.Basic

/-! Values read from JSON text. Besides the standard grammar the reader takes the names `NaN`, `Infinity`
and `-Infinity`; of fields with one name the last value counts, in the place of the first. Every refusal
names its cause and the offset at which reading stopped. -/

namespace Chatflow

inductive JsonCause where
  | value
  | fieldName
  | colon
  | comma
  | extraData
  | unterminated
  | controlCharacter
  | escape
  | unicodeEscape
  | byteOrderMark
deriving Repr, DecidableEq

inductive JsonError where
  /-- The text breaks the grammar at the given offset. -/
  | malformed (cause : JsonCause) (offset : Nat)
  /-- A whole number has more digits than are converted. -/
  | tooManyDigits (digits : Nat)
  /-- More lists and tables lie in one another than are followed. -/
  | tooDeep (kind : String)
deriving Repr, DecidableEq

namespace JsonCause

def text : JsonCause → String
  | .value => "Expecting value"
  | .fieldName => "Expecting property name enclosed in double quotes"
  | .colon => "Expecting ':' delimiter"
  | .comma => "Expecting ',' delimiter"
  | .extraData => "Extra data"
  | .unterminated => "Unterminated string starting at"
  | .controlCharacter => "Invalid control character at"
  | .escape => "Invalid \\escape"
  | .unicodeEscape => "Invalid \\uXXXX escape"
  | .byteOrderMark => "Unexpected UTF-8 BOM (decode using utf-8-sig)"

end JsonCause

/-- What is done about a limit of digits. -/
def digitLimitRemedy : String := "; use sys.set_int_max_str_digits() to increase the limit"

/-- The refusal to write a number with too many digits. -/
def digitLimitReached : String := "Exceeds the limit (4300 digits) for integer string conversion" ++ digitLimitRemedy

/-- The refusal of a numeral with too many digits. -/
def digitLimitText (digits : Nat) : String :=
  s!"Exceeds the limit (4300 digits) for integer string conversion: value has {digits} digits" ++ digitLimitRemedy

/-- The text of a refusal, with the line and the column of the offset, both counted from one. -/
def JsonError.message (document : String) : JsonError → String
  | .tooManyDigits digits => digitLimitText digits
  | .tooDeep kind => s!"maximum recursion depth exceeded while decoding a JSON {kind} from a unicode string"
  | .malformed cause offset =>
    let before := (Text.codes document).take offset
    let line := before.count 10 + 1
    let column := (before.reverse.takeWhile (· ≠ 10)).length + 1
    s!"{cause.text}: line {line} column {column} (char {offset})"

namespace Value.Json

open Chatflow.Decimal
open Chatflow.Text

/-- The characters not read yet and the offset of the first of them. -/
structure Cursor where
  rest : List Char
  offset : Nat
deriving Repr, DecidableEq

def Cursor.fail (c : Cursor) (cause : JsonCause) : Except JsonError α := .error (.malformed cause c.offset)

def Cursor.advance (c : Cursor) (n : Nat) : Cursor := ⟨c.rest.drop n, c.offset + n⟩

def isSpace (c : Char) : Bool := c == ' ' || c == '\t' || c == '\n' || c == '\r'

def Cursor.skipSpace (c : Cursor) : Cursor := c.advance (c.rest.takeWhile isSpace).length

def hexDigit? (c : Char) : Option Nat :=
  if '0' ≤ c ∧ c ≤ '9' then some (c.toNat - 48)
  else if 'a' ≤ c ∧ c ≤ 'f' then some (c.toNat - 87)
  else if 'A' ≤ c ∧ c ≤ 'F' then some (c.toNat - 55)
  else none

def readCode? : List Char → Option Nat
  | a :: b :: c :: d :: _ => do
    return (← hexDigit? a) * 4096 + (← hexDigit? b) * 256 + (← hexDigit? c) * 16 + (← hexDigit? d)
  | _ => none

/-- The character after a backslash, other than `u`. -/
def plainEscape? : Char → Option Char
  | '"' => some '"'
  | '\\' => some '\\'
  | '/' => some '/'
  | 'b' => some (Char.ofNat 8)
  | 'f' => some (Char.ofNat 12)
  | 'n' => some '\n'
  | 'r' => some '\r'
  | 't' => some '\t'
  | _ => none

/-- Reads the digits of an escaped code, which start at the cursor; `mark` is the offset of the `u`. The first
half of a pair joins a second one that follows it. A character must still follow the escape. -/
def readUnicode (c : Cursor) (mark : Nat) : Except JsonError (Nat × Cursor) :=
  if c.rest.length ≤ 4 then .error (.malformed .unicodeEscape mark)
  else match readCode? c.rest with
    | none => .error (.malformed .unicodeEscape mark)
    | some high =>
      let next := c.advance 4
      match next.rest with
      | '\\' :: 'u' :: digits =>
        if isHighHalf high && 4 < digits.length then
          match readCode? digits with
          | none => .error (.malformed .unicodeEscape (next.offset + 1))
          | some low =>
            if isLowHalf low then .ok (joinHalves high low, next.advance 6) else .ok (high, next)
        else .ok (high, next)
      | _ => .ok (high, next)

/-- Reads the characters of a text up to its closing quote; `start` is the offset of the opening one. -/
def readText (start : Nat) : Nat → List Char → Cursor → Except JsonError (String × Cursor)
  | 0, _, _ => .error (.malformed .unterminated start)
  | fuel + 1, acc, c =>
    match c.rest with
    | [] => .error (.malformed .unterminated start)
    | '"' :: _ => .ok (String.ofList acc.reverse, c.advance 1)
    | ['\\'] => .error (.malformed .unterminated start)
    | '\\' :: 'u' :: _ => do
      let (code, next) ← readUnicode (c.advance 2) (c.offset + 1)
      readText start fuel ((held code).reverse ++ acc) next
    | '\\' :: mark :: _ =>
      match plainEscape? mark with
      | some char => readText start fuel (char :: acc) (c.advance 2)
      | none => c.fail .escape
    | char :: _ =>
      if char.toNat < 32 then c.fail .controlCharacter
      else readText start fuel (char :: acc) (c.advance 1)

/-- The length of an exponent part, or zero if what follows the mark is no exponent. -/
def exponentLength : List Char → Nat
  | mark :: rest =>
    if mark = 'e' ∨ mark = 'E' then
      match rest with
      | sign :: digits =>
        if sign = '+' ∨ sign = '-' then
          let n := (spanDigits digits).1.length
          if n = 0 then 0 else n + 2
        else
          let n := (spanDigits rest).1.length
          if n = 0 then 0 else n + 1
      | [] => 0
    else 0
  | [] => 0

/-- The length of a fraction, or zero if no digit follows the point. -/
def fractionLength : List Char → Nat
  | '.' :: rest =>
    let n := (spanDigits rest).1.length
    if n = 0 then 0 else n + 1
  | _ => 0

def readNumber (c : Cursor) : Except JsonError (Value × Cursor) :=
  let (negative, body) := match c.rest with
    | '-' :: rest => (true, rest)
    | rest => (false, rest)
  let wholeLength := match body with
    | '0' :: _ => 1
    | _ => (spanDigits body).1.length
  if wholeLength = 0 then c.fail .value
  else
    let afterWhole := body.drop wholeLength
    let fraction := fractionLength afterWhole
    let exponent := exponentLength (afterWhole.drop fraction)
    let signLength := if negative then 1 else 0
    let next := c.advance (signLength + wholeLength + fraction + exponent)
    if fraction = 0 ∧ exponent = 0 then
      if numeralLimit < wholeLength then .error (.tooManyDigits wholeLength)
      else
        let value : Int := digitsValue (spanDigits (body.take wholeLength)).1
        .ok (.int (if negative then -value else value), next)
    else
      match readFraction (body.take (wholeLength + fraction + exponent)) with
      | some x => .ok (.float (if negative then -x else x), next)
      | none => c.fail .value

/-- The names that stand for values, and the values. -/
def names : List (String × Value) :=
  [("null", .null), ("true", .bool true), ("false", .bool false), ("NaN", .float (0.0 / 0.0)),
    ("Infinity", .float (1.0 / 0.0)), ("-Infinity", .float (-1.0 / 0.0))]

/-- How many lists and tables may lie in one another. -/
def deepest : Nat := 985

mutual

/-- Reads one value at the cursor, in which lists and tables may lie `depth` deep. -/
def readValue : Nat → Nat → Cursor → Except JsonError (Value × Cursor)
  | 0, _, c => c.fail .value
  | fuel + 1, depth, c =>
    match c.rest with
    | '"' :: _ => do
      let (text, next) ← readText c.offset (c.rest.length + 1) [] (c.advance 1)
      return (.str text, next)
    | '\x7b' :: _ =>
      let inner := (c.advance 1).skipSpace
      if depth = 0 then .error (.tooDeep "object")
      else match inner.rest with
        | '\x7d' :: _ => .ok (.obj [], inner.advance 1)
        | _ => readFields fuel (depth - 1) [] inner
    | '[' :: _ =>
      let inner := (c.advance 1).skipSpace
      if depth = 0 then .error (.tooDeep "array")
      else match inner.rest with
        | ']' :: _ => .ok (.list [], inner.advance 1)
        | _ => readItems fuel (depth - 1) [] inner
    | rest =>
      match names.find? fun name => name.1.toList.isPrefixOf rest with
      | some (name, value) => .ok (value, c.advance name.length)
      | none => readNumber c

def readItems : Nat → Nat → List Value → Cursor → Except JsonError (Value × Cursor)
  | 0, _, _, c => c.fail .value
  | fuel + 1, depth, acc, c => do
    let (item, next) ← readValue fuel depth c
    let next := next.skipSpace
    match next.rest with
    | ']' :: _ => .ok (.list (item :: acc).reverse, next.advance 1)
    | ',' :: _ => readItems fuel depth (item :: acc) (next.advance 1).skipSpace
    | _ => next.fail .comma

def readFields : Nat → Nat → Fields → Cursor → Except JsonError (Value × Cursor)
  | 0, _, _, c => c.fail .fieldName
  | fuel + 1, depth, acc, c =>
    match c.rest with
    | '"' :: _ => do
      let (key, next) ← readText c.offset (c.rest.length + 1) [] (c.advance 1)
      let next := next.skipSpace
      match next.rest with
      | ':' :: _ =>
        let (value, next) ← readValue fuel depth (next.advance 1).skipSpace
        let next := next.skipSpace
        match next.rest with
        | '\x7d' :: _ => .ok (.obj (acc.set key value), next.advance 1)
        | ',' :: _ => readFields fuel depth (acc.set key value) (next.advance 1).skipSpace
        | _ => next.fail .comma
      | _ => next.fail .colon
    | _ => c.fail .fieldName

end

end Value.Json

namespace Value

def Json.readDocument (chars : List Char) : Except JsonError Value := do
  if chars.head? = some (Char.ofNat 0xFEFF) then throw (.malformed .byteOrderMark 0)
  let start : Json.Cursor := ⟨chars, 0⟩
  let (value, next) ← Json.readValue (2 * chars.length + 2) Json.deepest start.skipSpace
  let last := next.skipSpace
  if last.rest.isEmpty then return value else last.fail .extraData

/-- A refusal with its offset counted in codes instead of in the characters that hold them. -/
def Json.countCodes (chars : List Char) : JsonError → JsonError
  | .malformed cause offset => .malformed cause (Text.codesOf (chars.take offset)).length
  | e => e

end Value

def Value.ofJson (document : String) : Except JsonError Value :=
  (Value.Json.readDocument document.toList).mapError (Value.Json.countCodes document.toList)

end Chatflow
