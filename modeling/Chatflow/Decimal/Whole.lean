import Chatflow.Decimal.Reading

/-! Whole numbers as forms and settings hold them, in ASCII digits. The strict form has no zeros in front and
no sign but a minus; looser spellings are brought to it first. -/

namespace Chatflow.Decimal

open Chatflow.Text

/-- Reads a number in the strict form. That there are too many digits is told even if something else follows
them. -/
def readStrict (cs : List Char) : Except NumeralError Int :=
  let negative := cs.head? == some '-'
  let (digits, rest) := spanDigits (if negative then cs.tail else cs)
  match digits with
  | [] => .error .malformed
  | first :: more =>
    if first ≠ 0 ∧ numeralLimit < digits.length then .error (.tooLong digits.length)
    else if !rest.isEmpty || (first == 0 && !more.isEmpty) then .error .malformed
    else .ok (if negative then -(digitsValue digits : Int) else digitsValue digits)

/-- Whether a character can begin a number that has no zeros in front. -/
def beginsNumber (c : Char) : Bool := c == '-' || ('1' ≤ c && c ≤ '9')

/-- What is left of a number after a zero and the zeros and low lines that follow it. The last character of
them stays if a point or nothing comes after it. -/
def afterZeros? (last : Char) : List Char → Option (List Char)
  | [] => some [last]
  | c :: rest =>
    if c = '0' ∨ c = '_' then afterZeros? c rest
    else if beginsNumber c then some (c :: rest)
    else if c = '.' then some (last :: c :: rest)
    else none

/-- Removes the zeros in front of a number. -/
def withoutZeros? : List Char → Option (List Char)
  | [] => none
  | c :: rest =>
    if c = '0' then afterZeros? c rest
    else if beginsNumber c then some (c :: rest)
    else none

/-- Removes a fraction of zeros only. -/
def withoutFraction (cs : List Char) : List Char :=
  match cs.dropWhile (· ≠ '.') with
  | _ :: zeros => if !zeros.isEmpty && zeros.all (· == '0') then cs.takeWhile (· ≠ '.') else cs
  | [] => cs

/-- Removes the low lines of a number, each of which must stand alone and between other characters. -/
def withoutLowLines? (cs : List Char) : Option (List Char) :=
  if cs.head? = some '_' ∨ cs.getLast? = some '_' ∨ occursIn ['_', '_'] cs then none
  else some (cs.filter (· ≠ '_'))

/-- Brings a number without a sign to the strict form: without zeros in front, a fraction of zeros and low
lines. -/
def tidiedBody? (cs : List Char) : Option (List Char) := do
  let plain := withoutFraction (← withoutZeros? cs)
  return (withoutLowLines? plain).getD plain

/-- Brings a number to the strict form: without blanks around it and a plus. A minus stays. -/
def tidied? (cs : List Char) : Option (List Char) :=
  match trimMargins cs with
  | '+' :: '-' :: _ => none
  | '+' :: rest => tidiedBody? rest
  | '-' :: rest => (tidiedBody? rest).map ('-' :: ·)
  | rest => tidiedBody? rest

/-- Reads a number in the strict form, or else in a looser one. Of a looser one nothing is told but that it is
none. -/
def readLoose (cs : List Char) : Except NumeralError Int :=
  match readStrict cs with
  | .error .malformed =>
    match (tidied? cs).map readStrict with
    | some (.ok n) => .ok n
    | _ => .error .malformed
  | outcome => outcome

end Chatflow.Decimal
