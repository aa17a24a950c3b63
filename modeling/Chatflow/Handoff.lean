import Chatflow.Argument
import Chatflow.Text.Blank

/-! The hand-off protocol of AI agents. A completion is what the contact gets to read; if a marker stands
in it, the text after the marker is a payload for a human, in JSON, possibly inside a code fence. -/

namespace Chatflow.Handoff

open Chatflow.Text

/-- Separates what the contact reads from the payload. -/
def marker : String := "###HANDOFF###"

/-- The text before the first occurrence of a part, and the text after it. -/
def cut? (part : List Char) : List Char → Option (List Char × List Char)
  | [] => if part.isEmpty then some ([], []) else none
  | c :: rest =>
    if part.isPrefixOf (c :: rest) then some ([], (c :: rest).drop part.length)
    else (cut? part rest).map fun (before, after) => (c :: before, after)

def fence : List Char := ['\x60', '\x60', '\x60']

/-- A letter of the fence's language tag; case does not matter, and neither does a long s. -/
def isTagLetter (letter c : Char) : Bool := c.toLower == letter || (letter == 's' && c == Char.ofNat 0x17F)

/-- Removes the tag that may follow an opening fence. -/
def dropTag : List Char → List Char
  | j :: s :: o :: n :: rest =>
    if isTagLetter 'j' j && isTagLetter 's' s && isTagLetter 'o' o && isTagLetter 'n' n then rest
    else j :: s :: o :: n :: rest
  | cs => cs

/-- Removes an opening fence with its tag and the blanks after it. -/
def dropOpening (cs : List Char) : List Char :=
  if fence.isPrefixOf cs then trimLeft (dropTag (cs.drop 3)) else cs

/-- Removes a closing fence with the blanks before it. -/
def dropClosing (cs : List Char) : List Char :=
  if fence.isSuffixOf cs then trimRight (cs.take (cs.length - 3)) else cs

/-- The payload without blanks and code fence around it. -/
def unfence (cs : List Char) : List Char := trimChars (dropClosing (dropOpening (trimChars cs)))

/-- Splits a completion into what the contact reads and the payload, if there is one. -/
def split (completion : String) : String × Option String :=
  match cut? marker.toList completion.toList with
  | none => (trim completion, none)
  | some (visible, payload) =>
    (String.ofList (trimChars visible), some (String.ofList (unfence payload)))

/-- Splits whatever came in place of a completion. The marker can be looked for in lists and tables too, which
cannot be split. -/
def splitGiven : Value → Except Fault (String × Option String)
  | .str completion => .ok (split completion)
  | .list _ | .obj _ => .error .noFields
  | _ => .error .wrongType

/-- Reads a payload; `none` if it is no JSON. A value that is no table is put into one. -/
def readPayload (payload : String) : Except Fault (Option Fields) :=
  match Value.ofJson payload with
  | .ok (.obj fields) => .ok (some fields)
  | .ok value => .ok (some [("data", value)])
  | .error (.malformed ..) => .ok none
  | .error e => .error (.badJson payload e)

end Chatflow.Handoff
