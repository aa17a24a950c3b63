import Chatflow.Argument
import Chatflow.Text.Blank
import Chatflow.Text.WordChars

/-! Message templates. A placeholder is a key in double braces, with blanks allowed around the key. A text
is cut into pieces once, from left to right, and each placeholder whose variable has a value is replaced
by the text of the value; what a value brings along is not looked at again. A value with a whole number that is
too long to be written cannot be filled in. -/

namespace Chatflow.Template

open Chatflow.Text

def isKeyChar (c : Char) : Bool := isWordChar c || c == '.' || c == '-'

/-- A piece of a template. -/
inductive Piece where
  | literal (c : Char)
  /-- A placeholder as it is written, and its key. -/
  | placeholder (source key : List Char)
deriving Repr, DecidableEq

def Piece.source : Piece → List Char
  | literal c => [c]
  | placeholder source _ => source

/-- The key of the placeholder that a text starts with, and the text after it. -/
def placeholder? (cs : List Char) : Option (List Char × List Char) :=
  match cs with
  | '\x7b' :: '\x7b' :: inner =>
    let body := inner.dropWhile isBlank
    let key := body.takeWhile isKeyChar
    if key.isEmpty then none
    else match (body.dropWhile isKeyChar).dropWhile isBlank with
      | '\x7d' :: '\x7d' :: rest => some (key, rest)
      | _ => none
  | _ => none

private theorem length_dropWhile_le (p : Char → Bool) (cs : List Char) : (cs.dropWhile p).length ≤ cs.length :=
  (List.dropWhile_sublist p).length_le

theorem placeholder?_length {cs key rest : List Char} (h : placeholder? cs = some (key, rest)) :
    rest.length < cs.length := by
  unfold placeholder? at h
  split at h
  · next inner =>
    simp only at h
    split at h
    · simp at h
    · split at h
      · next closing =>
        simp only [Option.some.injEq, Prod.mk.injEq] at h
        have outer := length_dropWhile_le isBlank ((inner.dropWhile isBlank).dropWhile isKeyChar)
        have middle := length_dropWhile_le isKeyChar (inner.dropWhile isBlank)
        have first := length_dropWhile_le isBlank inner
        rw [closing, h.2] at outer
        simp only [List.length_cons] at outer ⊢
        omega
      · simp at h
  · simp at h

def pieces (cs : List Char) : List Piece :=
  match cs with
  | [] => []
  | c :: tail =>
    match _h : placeholder? (c :: tail) with
    | some (key, rest) =>
      .placeholder ((c :: tail).take ((c :: tail).length - rest.length)) key :: pieces rest
    | none => .literal c :: pieces tail
termination_by cs.length
decreasing_by
  · exact placeholder?_length _h
  · simp

/-- What a piece becomes. -/
def Piece.fill (vars : Fields) : Piece → List Char
  | literal c => [c]
  | placeholder source key =>
    match vars.get? (String.ofList key) with
    | none | some .null => source
    | some value => value.display.toList

def render (vars : Fields) (template : String) : String :=
  String.ofList ((pieces template.toList).flatMap (Piece.fill vars))

/-- Whether what a piece becomes can be written. -/
def Piece.isFillable (vars : Fields) : Piece → Bool
  | literal _ => true
  | placeholder _ key => (vars.get? (String.ofList key)).all Value.isShowable

/-- Fills a template in, if the values that it asks for can be written. -/
def fill (vars : Fields) (template : String) : Except Fault String :=
  if (pieces template.toList).all (Piece.isFillable vars) then .ok (render vars template)
  else .error .unwritableNumber

/-- Whether it can be told of what came in place of the variables that a key is not among them. -/
def lacks (key : String) : Value → Bool
  | .list items => !items.any (Value.str key).same
  | .str s => !occurs key s
  | _ => false

/-- Fills in a template, where template and variables may be any values. Nothing but a table can be asked for the
value of a key. -/
def fillGiven (vars template : Value) : Except Fault String := do
  let template ← Argument.text .wrongType template
  match vars with
  | .obj vars => fill vars template
  | _ =>
    let isLacking : Piece → Bool
      | .literal _ => true
      | .placeholder _ key => lacks (String.ofList key) vars
    if (pieces template.toList).all isLacking then return template else throw .wrongType

end Chatflow.Template
