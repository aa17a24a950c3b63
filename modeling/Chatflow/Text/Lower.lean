import Chatflow.Text.Blank
import Chatflow.Text.LowerTable

/-! Lower-casing of whole texts. A capital sigma becomes a final sigma where it ends a word, which takes
a look at both sides of it; every other character is mapped alone. -/

namespace Chatflow.Text

/-- The lower-case form of one character, which may be several characters. -/
def lowerChar (c : Char) : List Char :=
  if c.val < 128 then [c.toLower]
  else if c = Char.ofNat 0x130 then ['i', Char.ofNat 0x307]
  else mapChar lowerRuns c

/-- Whether the first character that is not passed over has a case. -/
def meetsCased (cs : List Char) : Bool :=
  match cs.dropWhile caseIgnorable.contains with
  | [] => false
  | c :: _ => casedChars.contains c

/-- Lower-cases the characters that follow those in `before`, which is the text so far from back to
front. -/
def lowerAfter (before : List Char) : List Char → List Char
  | [] => []
  | c :: rest =>
    let image :=
      if c = Char.ofNat 0x3A3 then
        [Char.ofNat (if meetsCased before && !meetsCased rest then 0x3C2 else 0x3C3)]
      else lowerChar c
    image ++ lowerAfter (c :: before) rest

def lower (s : String) : String := String.ofList (lowerAfter [] s.toList)

/-- The form in which typed texts are compared: trimmed and in lower case. -/
def normalize (s : String) : String := lower (trim s)

end Chatflow.Text
