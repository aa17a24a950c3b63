import Chatflow.Fault
import Chatflow.Flow.Config
import Chatflow.Text.BaseForm
import Chatflow.Text.Lower
import Chatflow.Time.Zone

/-! Conditions on a contact's tags, the day of the week and the time of the day. A rule that cannot be
told, because there are no tags or the day or time is none, does not hold, and neither does its
opposite. -/

namespace Chatflow.Condition

open Chatflow.Text

/-- The form in which words are compared: trimmed, in lower case and without accents. -/
def fold (s : String) : String := baseLetters (normalize s)

/-- The days of the week in Spanish and English. -/
def weekdays : List (String × Nat) :=
  [("lunes", 0), ("monday", 0), ("martes", 1), ("tuesday", 1), ("miercoles", 2), ("wednesday", 2),
    ("jueves", 3), ("thursday", 3), ("viernes", 4), ("friday", 4), ("sabado", 5), ("saturday", 5),
    ("domingo", 6), ("sunday", 6)]

def weekday? (s : String) : Option Nat := (weekdays.find? fun day => day.1 == fold s).map (·.2)

def foldTags (tags : List String) : List String := (tags.filter fun t => trim t != "").map fold

/-- The tags of a contact: a text with commas, a list, or the names of a table. -/
def contactTags (vars : Fields) : Except Fault (Option (List String)) :=
  match vars.get? "tags" with
  | none | some .null => .ok none
  | some (.str s) => .ok (some (foldTags (split ',' s)))
  | some (.list items) =>
    if items.all Value.isShowable then .ok (some (foldTags (items.map Value.display))) else .error .unwritableNumber
  | some (.obj fields) => .ok (some (foldTags (fields.map (·.1))))
  | some _ => .error .wrongType

/-- A time of the day: hours and minutes, and perhaps more after a second colon. -/
def timeOfDay? (s : String) : Option (Nat × Nat) :=
  match (split ':' (trim s)).take 2 with
  | [hours, minutes] =>
    match Decimal.readWhole hours.toList, Decimal.readWhole minutes.toList with
    | .ok h, .ok m =>
      if 0 ≤ h ∧ h < 24 ∧ 0 ≤ m ∧ m < 60 then some (h.toNat, m.toNat) else none
    | _, _ => none
  | _ => none

/-- Whether a rule holds as it stands, leaving aside whether it asks for the opposite; `none` when that
cannot be told. -/
def positive (rule : ConditionRule) (vars : Fields) (now : Civil) : Except Fault (Option Bool) :=
  match rule.kind with
  | .tag => do return (← contactTags vars).map fun tags => tags.contains (fold rule.value)
  | .weekday => .ok ((weekday? rule.value).map fun day => now.weekday == day)
  | .time => .ok ((timeOfDay? rule.value).map fun (h, m) =>
      h < now.hour || (h == now.hour && m ≤ now.minute))

def ruleHolds (rule : ConditionRule) (vars : Fields) (now : Civil) : Except Fault Bool := do
  match ← positive rule vars now with
  | none => return false
  | some holds => return if rule.negated then !holds else holds

/-- Whether a condition holds of which is known what its rules come to; one without rules does not. -/
def combine (config : ConditionConfig) (ruleHolds : ConditionRule → Except Fault Bool) : Except Fault Bool := do
  if config.rules.isEmpty then return false
  let results ← config.rules.mapM ruleHolds
  return if config.matchAny then results.any id else results.all id

def holds (config : ConditionConfig) (vars : Fields) (now : Civil) : Except Fault Bool :=
  combine config fun rule => ruleHolds rule vars now

/-- Whether a rule holds, whatever came in place of the variables. Only the tags are looked up among them. -/
def ruleHoldsGiven (rule : ConditionRule) (vars : Value) (now : Civil) : Except Fault Bool :=
  match vars, rule.kind with
  | .obj vars, _ => ruleHolds rule vars now
  | _, .tag => .error .noFields
  | _, _ => ruleHolds rule [] now

/-- Whether a condition holds at an instant, by the clock of a zone. -/
def holdsAt (config : ConditionConfig) (vars : Fields) (now : Instant) (zone : Zone) : Except Fault Bool := do
  let told ← (now.inZone zone).mapError .span
  holds config vars told.civil

end Chatflow.Condition
