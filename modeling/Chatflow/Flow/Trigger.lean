import Chatflow.Schema.Field

/-! Triggers: which events start a flow. -/

namespace Chatflow

inductive MatchMode where
  | contains
  | exact
  | all
deriving Repr, DecidableEq

/-- Restrictions that every trigger may carry. -/
structure TriggerScope where
  /-- The only device whose events count. -/
  deviceId : Option String := none
  /-- Whether a contact that has been in the flow before is left out. -/
  oncePerContact : Bool := false
deriving Repr, DecidableEq

/-- What starts a flow. -/
inductive Trigger where
  | none
  | message (scope : TriggerScope) (mode : MatchMode) (keywords : List String)
  | tagAdded (scope : TriggerScope) (tagId : Option String)
  | thirdParty (scope : TriggerScope) (fieldNames : List String)
deriving Repr, DecidableEq

namespace Trigger

open Chatflow.Schema

/-- The restrictions of a trigger; one that never fires has none. -/
def scope : Trigger → TriggerScope
  | none => {}
  | message scope .. | tagAdded scope _ | thirdParty scope _ => scope

def isNone : Trigger → Bool
  | none => true
  | _ => false

def modes : List (String × MatchMode) := [("contains", .contains), ("exact", .exact), ("all", .all)]

def isFilled (s : String) : Bool := Text.trim s != ""

/-- Keywords: a list of which the texts are taken, a table of which the names are taken, or a text with
commas. -/
def keywords : Reader (List String)
  | .null => .ok []
  | .str s => .ok ((Text.split ',' s).map Text.trim |>.filter (· != ""))
  | .list items => .ok ((items.filterMap Value.str?).filter isFilled)
  | .obj fields => .ok ((fields.map (·.1)).filter isFilled)
  | v => .broken (.noMembers v)

/-- A device; anything empty means every device. -/
def device : Reader (Option String) := fun v => if v.truthy then optional text v else .ok Option.none

def readScope (fields : Fields) : Check TriggerScope :=
  TriggerScope.mk <$> withDefault fields ["device_id", "deviceId"] Option.none device
    <*> withDefault fields ["once_per_contact", "oncePerContact"] false flag

def ofValue : Reader Trigger :=
  tagged
    [("none", fun _ => .ok .none),
      ("message_received", fun fields => .message <$> readScope fields
        <*> withDefault fields ["match_mode", "matchMode"] .contains (choice modes)
        <*> withDefault fields ["keywords"] [] keywords),
      ("tag_added", fun fields => .tagAdded <$> readScope fields
        <*> withDefault fields ["tag_id", "tagId"] Option.none (optional text)),
      ("third_party", fun fields => .thirdParty <$> readScope fields
        <*> withDefault fields ["field_names", "fields"] [] (list text))]

def MatchMode.name : MatchMode → String
  | .contains => "contains"
  | .exact => "exact"
  | .all => "all"

/-- The fields of a scope. -/
def scopeFields (s : TriggerScope) : Fields :=
  [("device_id", .ofText? s.deviceId), ("once_per_contact", .bool s.oncePerContact)]

def toValue : Trigger → Value
  | none => .obj [("type", .str "none")]
  | message s mode keywords => .obj (scopeFields s ++
      [("type", .str "message_received"), ("match_mode", .str (MatchMode.name mode)),
        ("keywords", .list (keywords.map .str))])
  | tagAdded s tagId => .obj (scopeFields s ++ [("type", .str "tag_added"), ("tag_id", .ofText? tagId)])
  | thirdParty s fieldNames => .obj (scopeFields s ++
      [("type", .str "third_party"), ("field_names", .list (fieldNames.map .str))])

end Trigger

end Chatflow
