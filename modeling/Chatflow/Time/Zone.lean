import Chatflow.Text.CharSet
import Chatflow.Time.Duration

/-! Time zones: the offsets a clock has had, as a list of changes, and the rule by which daylight saving
goes on after the last of them. -/

namespace Chatflow

/-- A rule that sets clocks forward in spring and back in autumn, every year. -/
inductive DaylightRule where
  /-- From the second Sunday of March to the first Sunday of November, at two o'clock local time. -/
  | american
  /-- From the last Sunday of March to the last Sunday of October, at one o'clock universal time. -/
  | european
deriving Repr, DecidableEq

/-- A zone with its changes in order of time: the second of the change and the offset from then on. -/
structure Zone where
  name : String
  /-- The offset before the first change. -/
  first : Int
  changes : List (Int × Int)
  rule : Option DaylightRule
deriving Repr

/-- The day, counted from 1970, of the `n`-th Sunday of a month. -/
def nthSunday (year : Int) (month n : Nat) : Int :=
  let day := daysFromDate year month 1
  day + (6 - (day + 3).fmod 7).fmod 7 + 7 * ((n : Int) - 1)

/-- The day of the last Sunday of a month with 31 days. -/
def lastSunday (year : Int) (month : Nat) : Int :=
  let day := daysFromDate year month 31
  day - (day + 4).fmod 7

/-- The seconds at which daylight saving begins and ends in a year, at a standard offset. -/
def DaylightRule.span (rule : DaylightRule) (year offset : Int) : Int × Int :=
  match rule with
  | .american =>
    (nthSunday year 3 2 * 86400 + 7200 - offset, nthSunday year 11 1 * 86400 + 3600 - offset)
  | .european => (lastSunday year 3 * 86400 + 3600, lastSunday year 10 * 86400 + 3600)

namespace Zone

/-- Reads a zone from its written changes: second and offset, joined by a colon. -/
def read (name : String) (first : Int) (rule : Option DaylightRule) (changes : String) : Zone :=
  ⟨name, first, (Text.tableWords changes).filterMap fun change =>
    match change.splitOn ":" with
    | [second, offset] => do return (← second.toInt?, ← offset.toInt?)
    | _ => none, rule⟩

/-- The offset in force at a second of universal time. -/
def offsetAt (zone : Zone) (second : Int) : Int :=
  let past := zone.changes.takeWhile fun change => change.1 ≤ second
  let listed := (past.getLast?.map (·.2)).getD zone.first
  match zone.rule with
  | some rule =>
    if past.length = zone.changes.length then
      let year := (dateFromDays ((second + listed).fdiv 86400)).1
      let (start, stop) := rule.span year listed
      if start ≤ second ∧ second < stop then listed + 3600 else listed
    else listed
  | none => listed

end Zone

def Instant.inZone (t : Instant) (zone : Zone) : Except SpanError Instant := t.atOffset (zone.offsetAt t.seconds)

end Chatflow
