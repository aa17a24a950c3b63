import Chatflow.Argument
import Chatflow.Flow.Basic
import Chatflow.Text.Lower

/-! Where a reply leads from the step at which a session is parked. The number of an option counts first,
then its exact id, then a word of the reply that names a branch, and last the only way on from a step that
offers no choice. A step without connections takes any reply and ends the flow. -/

namespace Chatflow

/-- By what rule a reply was resolved. -/
inductive ReplyMatch where
  | noMatch
  | endOfFlow
  | optionIndex
  | optionId
  | keyword
  | singleConnection
deriving Repr, DecidableEq

def ReplyMatch.name : ReplyMatch → String
  | noMatch => "no_match"
  | endOfFlow => "end_of_flow"
  | optionIndex => "option_index"
  | optionId => "option_id"
  | keyword => "keyword"
  | singleConnection => "single_connection"

/-- Where a reply leads. -/
structure Resolution where
  next : Option String
  matchedBy : ReplyMatch
  optionId : Option String := none
deriving Repr, DecidableEq

namespace Resolution

def noMatch : Resolution := ⟨none, .noMatch, none⟩
def endOfFlow : Resolution := ⟨none, .endOfFlow, none⟩

def toValue (r : Resolution) : Value :=
  .obj [("next_step_id", .ofText? r.next), ("matched_by", .str r.matchedBy.name),
    ("option_id", .ofText? r.optionId)]

end Resolution

namespace Reply

open Chatflow.Text

/-- Whether a text consists of digits, or of characters that look like digits. -/
def isNumber (s : String) : Bool := s != "" && s.toList.all isDigitLike

def asksChoice (s : Step) : Bool := (s.body.kind?.map StepKind.isChoice).getD false

def options (s : Step) : List ChoiceOption :=
  match s.body with
  | .choice _ config => config.options
  | _ => []

/-- The option a number stands for, counted from one. -/
def optionAt? (options : List ChoiceOption) (n : Int) : Option ChoiceOption :=
  if 1 ≤ n then options[n.toNat - 1]? else none

/-- Follows the branch of an option. -/
def follow? (f : Flow) (stepId : String) (rule : ReplyMatch) (option : ChoiceOption) : Option Resolution :=
  (f.connectionFor? stepId option.id).map fun c => ⟨some c.target, rule, some option.id⟩

def byIndex (f : Flow) (s : Step) (stepId reply : String) : Except Fault (Option Resolution) :=
  if asksChoice s && isNumber reply then
    match Decimal.readWhole reply.toList with
    | .error e => .error (.ofNumeral reply e)
    | .ok n => .ok ((optionAt? (options s) n).bind (follow? f stepId .optionIndex))
  else .ok none

/-- Resolves the id of an option: the first option of that id that has a branch. -/
def byId (f : Flow) (s : Step) (stepId raw : String) : Option Resolution :=
  if asksChoice s && raw != "" then
    ((options s).filter fun o => o.id == trim raw).findSome? (follow? f stepId .optionId)
  else none

/-- The words by which a reply can name a connection: its handle, its label and the label of its option. -/
def keywords (options : List ChoiceOption) (c : Connection) : List String :=
  let optionLabel := match options.reverse.find? fun o => o.id == c.handle.getD "" with
    | some o => [normalize o.label]
    | none => []
  ([normalize (c.handle.getD ""), normalize (c.label.getD "")] ++ optionLabel).filter (· != "")

/-- Resolves a word of the reply: the first connection that has a word in it. -/
def byKeyword (f : Flow) (s : Step) (stepId reply : String) : Option Resolution :=
  if reply = "" then none
  else
    ((f.outgoing stepId).find? fun c => (keywords (options s) c).any fun word => occurs word reply).map
      fun c => ⟨some c.target, .keyword, c.handle⟩

/-- Takes the only way on from a step that offers no choice. -/
def bySingle (f : Flow) (s : Step) (stepId : String) : Option Resolution :=
  match f.outgoing stepId with
  | [c] => if asksChoice s then none else some ⟨some c.target, .singleConnection, none⟩
  | _ => none

def resolve (f : Flow) (stepId : Option String) (raw : String) : Except Fault Resolution :=
  match stepId.bind fun id => (f.step? id).map fun s => (id, s) with
  | none => .ok .noMatch
  | some (id, s) =>
    if (f.outgoing id).isEmpty then .ok .endOfFlow
    else do
      let reply := normalize raw
      match ← byIndex f s id reply with
      | some r => return r
      | none =>
        return ((byId f s id raw).orElse fun _ =>
          (byKeyword f s id reply).orElse fun _ => bySingle f s id).getD .noMatch

/-- Resolves whatever came in place of a reply at a step. A value that is no text is only looked into if the step
leads anywhere. -/
def resolveGiven (f : Flow) (stepId : Option String) (raw : Value) : Except Fault Resolution :=
  match Argument.text .noFields raw with
  | .ok raw => resolve f stepId raw
  | .error e =>
    if (stepId.bind f.step?).any fun s => !(f.outgoing s.id).isEmpty then .error e else resolve f stepId ""

end Reply

end Chatflow
