import Chatflow.Text.Quoted
import Chatflow.Time.ZoneTable

/-! Zones by name. A name is a path that leads from the place where zones are kept down to a zone, without
detours; other names are not looked up. -/

namespace Chatflow

inductive ZoneError where
  | absolute (name : String)
  /-- The path has detours. -/
  | notNormal (name : String)
  /-- The path does not lead down. -/
  | notBelow (name : String)
  | nullByte
  | unknown (name : String)
deriving Repr, DecidableEq

namespace ZoneError

def message : ZoneError → String
  | absolute name => s!"ZoneInfo keys may not be absolute paths, got: {name}"
  | notNormal name => s!"ZoneInfo keys must be normalized relative paths, got: {name}"
  | notBelow name => s!"ZoneInfo keys must refer to subdirectories of TZPATH, got: {name}"
  | nullByte => "embedded null byte"
  | unknown name => Text.quoted s!"No time zone found with key {name}"

end ZoneError

namespace Zone

/-- One more step of a path, whose steps so far stand with the last one first: a step up takes back the step
before it, if that was none itself. -/
def stepOn (path : List String) (step : String) : List String :=
  if step = "" ∨ step = "." then path
  else if step ≠ ".." then step :: path
  else match path with
    | [] => [step]
    | last :: before => if last = ".." then step :: path else before

def directSteps (steps : List String) : List String := (steps.foldl stepOn []).reverse

/-- A path without detours; a dot is the path that leads nowhere. -/
def directPath (steps : List String) : String :=
  match directSteps steps with
  | [] => "."
  | direct => "/".intercalate direct

/-- Whether a path from some place leads further down from there. -/
def leadsBelow (steps : List String) : Bool :=
  match directSteps ("_" :: steps) with
  | place :: _ :: _ => place == "_"
  | _ => false

/-- The regions that zones are kept in. -/
def regions : List String :=
  ["", "Africa", "America", "America/Argentina", "America/Indiana", "America/Kentucky",
    "America/North_Dakota", "Antarctica", "Arctic", "Asia", "Atlantic", "Australia", "Brazil", "Canada",
    "Chile", "Etc", "Europe", "Indian", "Mexico", "Pacific", "US"]

def find (name : String) : Except ZoneError Zone :=
  let steps := (name.toList.splitOn '/').map String.ofList
  if name.toList.head? = some '/' then .error (.absolute name)
  else if (directPath steps).length ≠ name.length then .error (.notNormal name)
  else if !leadsBelow steps then .error (.notBelow name)
  else if (steps.getLast?.getD "").toList.contains '\x00' && regions.contains ("/".intercalate steps.dropLast) then
    .error .nullByte
  else
    match find? name with
    | some zone => .ok zone
    | none => .error (.unknown name)

end Zone

end Chatflow
