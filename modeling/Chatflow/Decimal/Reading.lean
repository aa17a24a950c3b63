import Chatflow.Decimal.Binary
import Chatflow.Text.Blank
import Chatflow.Text.Digits

/-! Numbers read from text: whole numerals in the digits of any script, and decimal fractions with an
exponent, rounded to the nearest floating-point number. -/

namespace Chatflow.Decimal

open Chatflow.Text

/-- The value of a list of decimal digits, most significant first. -/
def digitsValue (digits : List Nat) : Nat := digits.foldl (fun acc d => acc * 10 + d) 0

/-- The number `mantissa * 10^exponent`, rounded to nearest. -/
def ofScientific (mantissa : Nat) (exponent : Int) : Float :=
  if mantissa = 0 then 0.0
  else
    let place : Int := (Nat.toDigits 10 mantissa).length + exponent
    if 400 < place then 1.0 / 0.0
    else if place < -400 then 0.0
    else if 0 ≤ exponent then Float.ofScientific (mantissa * Nat.pow 10 exponent.toNat) false 0
    else Float.ofScientific mantissa true (-exponent).toNat

/-- The digits at the front of a text, in groups joined by single low lines, with their values, and what
follows them; `none` for a low line that joins nothing. -/
def spanGroups (value? : Char → Option Nat) : List Char → Option (List Nat × List Char)
  | [] => some ([], [])
  | '_' :: c :: rest => do
    let d ← value? c
    let (digits, rest) ← spanGroups value? rest
    return (d :: digits, rest)
  | c :: rest =>
    match value? c with
    | some d => (spanGroups value? rest).map fun (digits, rest) => (d :: digits, rest)
    | none => if c = '_' then none else some ([], c :: rest)

/-- A sign in front of a text, and whether it is a minus. -/
def readSign : List Char → Bool × List Char
  | '-' :: rest => (true, rest)
  | '+' :: rest => (false, rest)
  | rest => (false, rest)

/-- Why a text is no whole numeral. -/
inductive NumeralError where
  | malformed
  /-- Numerals of more than 4300 digits are refused. -/
  | tooLong (digits : Nat)
deriving Repr, DecidableEq

/-- The most digits a whole numeral may have. -/
def numeralLimit : Nat := 4300

/-- Reads a whole numeral: blanks around it, a sign, and digits of any script with single low lines
between them. That there are too many digits is told even if something else follows them. -/
def readWhole (cs : List Char) : Except NumeralError Int :=
  let (negative, body) := readSign (trimMargins cs)
  match spanGroups decimalValue? body with
  | none => .error .malformed
  | some (digits, rest) =>
    if digits.isEmpty || body.head? == some '_' then .error .malformed
    else if numeralLimit < digits.length then .error (.tooLong digits.length)
    else if !rest.isEmpty then .error .malformed
    else .ok (if negative then -(digitsValue digits : Int) else digitsValue digits)

def asciiDigit? (c : Char) : Option Nat :=
  if '0' ≤ c ∧ c ≤ '9' then some (c.toNat - 48) else none

/-- The ASCII digits at the front of a text, with their values, and what follows them. -/
def spanDigits : List Char → List Nat × List Char
  | [] => ([], [])
  | c :: rest =>
    match asciiDigit? c with
    | some d => let (digits, rest) := spanDigits rest; (d :: digits, rest)
    | none => ([], c :: rest)

def readExponent : List Char → Option Int
  | [] => some 0
  | mark :: rest =>
    if mark = 'e' ∨ mark = 'E' then
      let (negative, body) := readSign rest
      match spanDigits body with
      | (d :: ds, []) =>
        let value : Int := digitsValue (d :: ds)
        some (if negative then -value else value)
      | _ => none
    else none

/-- Reads an unsigned decimal fraction: digits, a point, digits and an exponent, with a digit on at least
one side of the point. -/
def readFraction (cs : List Char) : Option Float := do
  let (whole, rest) := spanDigits cs
  let (fraction, rest) := match rest with
    | '.' :: rest => spanDigits rest
    | rest => ([], rest)
  if whole.isEmpty && fraction.isEmpty then none
  else
    let exponent ← readExponent rest
    return ofScientific (digitsValue (whole ++ fraction)) (exponent - fraction.length)

/-- The names of the numbers that have no digits. -/
def readName (cs : List Char) : Option Float :=
  match String.ofList (cs.map Char.toLower) with
  | "inf" | "infinity" => some (1.0 / 0.0)
  | "nan" => some (0.0 / 0.0)
  | _ => none

/-- Reads a signed number, by name or by digits. -/
def readNumber (cs : List Char) : Option Float :=
  let (negative, body) := readSign cs
  let value := (readName body).orElse fun _ => readFraction body
  value.map fun x => if negative then -x else x

/-- The ASCII digit that stands for a digit of any script; other characters stay. -/
def plainDigit (c : Char) : Char :=
  match decimalValue? c with
  | some d => Char.ofNat (48 + d)
  | none => c

/-- Leaves out single low lines between ASCII digits; `none` for a low line that stands elsewhere. -/
def withoutJoints? : List Char → Option (List Char)
  | [] => some []
  | '_' :: _ => none
  | c :: '_' :: d :: rest =>
    if c.isDigit && d.isDigit then (withoutJoints? (d :: rest)).map (c :: ·) else none
  | c :: rest => (withoutJoints? rest).map (c :: ·)

/-- Reads a number with blanks around it, in digits of any script and with single low lines between them. -/
def readAnyNumber (cs : List Char) : Option Float :=
  (withoutJoints? ((trimMargins cs).map plainDigit)).bind readNumber

end Chatflow.Decimal
