import Chatflow.Text.Blank
import Chatflow.Text.Codes
import Chatflow.Text.Digits

/-! Phone numbers. A contact is known by one normalized spelling of its number, whatever separators the
number is written with; the channel wants digits behind a plus sign. -/

namespace Chatflow.Phone

open Chatflow.Text

/-- A character that only separates groups of digits. -/
def isSeparator (c : Char) : Bool := isBlank c || c == '-' || c == '(' || c == ')' || c == '.'

/-- Puts a plus sign in front of an international number: one of more than ten characters. -/
def withPlus (cs : List Char) : List Char :=
  if cs.head? ≠ some '+' ∧ 10 < (codesOf cs).length then '+' :: cs else cs

def normalizeChars (cs : List Char) : List Char := withPlus (cs.filter fun c => !isSeparator c)

/-- The normalized spelling, by which a contact is known. -/
def normalize (s : String) : String := String.ofList (normalizeChars s.toList)

/-- A character the channel keeps. -/
def isDialled (c : Char) : Bool := isDecimal c || c == '+'

/-- The digits of a number behind a plus sign. -/
def recipientChars (cs : List Char) : List Char :=
  let kept := cs.filter isDialled
  if kept.head? = some '+' then kept else '+' :: kept

def recipient (s : String) : String := String.ofList (recipientChars s.toList)

end Chatflow.Phone
