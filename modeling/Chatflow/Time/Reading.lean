import Chatflow.Decimal.Amount
import Chatflow.Decimal.Reading
import Chatflow.Text.Codes
import Chatflow.Time.Instant

/-! Instants read from texts and numbers. A text holds a date, a time with an optional fraction and an
offset; a date alone stands for its first moment. A number, also as a text, counts seconds from 1970, or
milliseconds if it is large. Texts are looked at byte by byte. -/

namespace Chatflow

/-- Why a text or a number is no date. -/
inductive DateError where
  | tooShort
  | yearCharacter
  | monthCharacter
  | dayCharacter
  | separator
  | monthRange
  | dayRange
  | extraCharacters
  /-- There is no year before the first one. -/
  | yearZero
  | tooEarly
  | tooLate
  | notANumber
deriving Repr, DecidableEq

namespace DateError

def message : DateError → String
  | .tooShort => "input is too short"
  | .yearCharacter => "invalid character in year"
  | .monthCharacter => "invalid character in month"
  | .dayCharacter => "invalid character in day"
  | .separator => "invalid date separator, expected `-`"
  | .monthRange => "month value is outside expected range of 1-12"
  | .dayRange => "day value is outside expected range"
  | .extraCharacters => "unexpected extra characters at the end of the input"
  | .yearZero => "year 0 is out of range"
  | .tooEarly => "dates before 0000 are not supported as unix timestamps"
  | .tooLate => "dates after 9999 are not supported as unix timestamps"
  | .notANumber => "NaN values not permitted"

end DateError

namespace Instant

open Chatflow.Decimal

/-- The bytes of a text, each as a character of its own. -/
def bytesOf (s : String) : List Char := (Text.utf8 s).map fun b => Char.ofNat b.toNat

def digits? (cs : List Char) : Option Nat := (cs.mapM asciiDigit?).map digitsValue

def isLeap (year : Nat) : Bool := year % 4 == 0 && (year % 100 != 0 || year % 400 == 0)

def daysInMonth (year month : Nat) : Nat :=
  if month = 2 then (if isLeap year then 29 else 28)
  else if month = 4 ∨ month = 6 ∨ month = 9 ∨ month = 11 then 30 else 31

structure Date where
  year : Nat
  month : Nat
  day : Nat
deriving Repr, DecidableEq

def readDate (cs : List Char) : Except DateError (Date × List Char) := do
  if cs.length < 10 then throw .tooShort
  let some year := digits? (cs.take 4) | throw .yearCharacter
  if cs[4]? ≠ some '-' then throw .separator
  let some month := digits? ((cs.drop 5).take 2) | throw .monthCharacter
  if cs[7]? ≠ some '-' then throw .separator
  let some day := digits? ((cs.drop 8).take 2) | throw .dayCharacter
  if month < 1 ∨ 12 < month then throw .monthRange
  if day < 1 ∨ daysInMonth year month < day then throw .dayRange
  return (⟨year, month, day⟩, cs.drop 10)

/-- A sign in front of an offset, and whether it is a minus. The minus of typesetting is one, too. -/
def offsetSign? : List Char → Option (Bool × List Char)
  | '+' :: rest => some (false, rest)
  | '-' :: rest => some (true, rest)
  | '\xE2' :: '\x88' :: '\x92' :: rest => some (true, rest)
  | _ => none

def readOffset? : List Char → Option Int
  | [] => some 0
  | ['Z'] => some 0
  | ['z'] => some 0
  | cs => do
    let (negative, rest) ← offsetSign? cs
    let (hours, minutes) ← match rest with
      | [a, b, ':', c, d] => some ([a, b], [c, d])
      | [a, b, c, d] => some ([a, b], [c, d])
      | _ => none
    let h ← digits? hours
    let m ← digits? minutes
    if 23 < h ∨ 59 < m then none
    else
      let seconds : Int := h * 3600 + m * 60
      return if negative then -seconds else seconds

/-- Splits off a fraction of a second; digits after the sixth are dropped. -/
def readMicros? : List Char → Option (Nat × List Char)
  | mark :: rest =>
    if mark = '.' ∨ mark = ',' then
      let (digits, after) := spanDigits rest
      if digits.isEmpty then none
      else some (digitsValue ((digits ++ List.replicate 6 0).take 6), after)
    else some (0, mark :: rest)
  | [] => some (0, [])

/-- Reads a time of the day with its offset: microseconds of the day and seconds of the offset. -/
def readTime? (cs : List Char) : Option (Int × Int) := do
  let h ← digits? (cs.take 2)
  if cs[2]? ≠ some ':' then none
  let m ← digits? ((cs.drop 3).take 2)
  if cs.length < 5 ∨ 23 < h ∨ 59 < m then none
  let rest := cs.drop 5
  let (s, micro, rest) ← match rest with
    | ':' :: rest => do
      if rest.length < 2 then none
      let s ← digits? (rest.take 2)
      let (micro, rest) ← readMicros? (rest.drop 2)
      if 59 < s then none else some (s, micro, rest)
    | rest => some (0, 0, rest)
  let offset ← readOffset? rest
  return ((((h * 60 + m) * 60 + s : Nat) : Int) * microsPerSecond + micro, offset)

/-- The moment at so many microseconds of a date, by the clock of an offset. -/
def ofDate (d : Date) (micros offset : Int) : Except DateError Instant :=
  if d.year = 0 then .error .yearZero
  else .ok ⟨daysFromDate d.year d.month d.day * microsPerDay + micros - offset * microsPerSecond, offset⟩

/-- Reads a date and a time: the date, the microseconds of the day and the offset. -/
def readDateTime? (cs : List Char) : Option (Date × Int × Int) :=
  match readDate cs with
  | .error _ => none
  | .ok (_, []) => none
  | .ok (date, mark :: rest) =>
    if mark = 'T' ∨ mark = 't' ∨ mark = ' ' ∨ mark = '_' then (readTime? rest).map (date, ·) else none

/-- Counts that are greater are milliseconds. -/
def greatestSeconds : Int := 20000000000

/-- The microseconds that one of a count stands for. -/
def stampUnit (large : Bool) : Nat := if large then 1000 else 1000000

/-- The microseconds of a count of seconds or milliseconds; parts of a microsecond are rounded, a half away
from zero. -/
def stampMicros : Amount → Except DateError Int
  | .whole n => .ok (n * stampUnit (greatestSeconds < n.natAbs))
  | .real x =>
    let unit := stampUnit (intLe greatestSeconds x.abs && !sameInt greatestSeconds x.abs)
    match floor? x, truncate? ((x - x.floor) * unit.toFloat).round with
    | some whole, some micros => .ok (whole * unit + micros)
    | _, _ => .error (if x.isNaN then .notANumber else if x < 0.0 then .tooEarly else .tooLate)

/-- The instant a count of seconds or milliseconds stands for, up to the year 9999. Counts within the year
before the first one are understood, but there is no such instant. -/
def ofStamp (stamp : Amount) : Except DateError Instant := do
  let t : Instant := ⟨← stampMicros stamp, 0⟩
  if t.seconds < daysFromDate 0 1 1 * 86400 then throw .tooEarly
  if daysFromDate 10000 1 1 * 86400 ≤ t.seconds then throw .tooLate
  if t.seconds < daysFromDate 1 1 1 * 86400 then throw .yearZero
  return t

/-- The number that a text consists of: a whole one of 64 bits, or one with a point. -/
def stampOf? (cs : List Char) : Option Amount :=
  let (negative, body) := readSign cs
  match spanDigits body with
  | ([], []) => none
  | (digits, []) =>
    let n : Int := digitsValue digits
    if n < Int.pow 2 63 then some (.whole (if negative then -n else n)) else none
  | (_, '.' :: _) => (readNumber cs).map .real
  | _ => none

/-- Reads a date alone, or tells why a text is none. A whole number that is no instant is no date either. -/
def ofDateText (cs : List Char) : Except DateError Instant :=
  match readDate cs, stampOf? cs with
  | .ok (date, []), _ => ofDate date 0 0
  | _, some (.whole n) => ofStamp (.whole n)
  | .error e, _ => .error e
  | .ok _, _ => .error .extraCharacters

/-- Reads an instant; a text that is no date and time is looked at as a number, and then as a date alone. -/
def ofText (s : String) : Except DateError Instant :=
  let cs := bytesOf s
  match readDateTime? cs with
  | some (date, micros, offset) => ofDate date micros offset
  | none =>
    match (stampOf? cs).map ofStamp with
    | some (.ok t) => .ok t
    | _ => ofDateText cs

end Instant

end Chatflow
