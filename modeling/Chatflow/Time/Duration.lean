import Chatflow.Decimal.Reading
import Chatflow.Time.Instant

/-! Spans of time given as a number of seconds, and clocks at other offsets. The whole part is exact; the fraction is brought to
microseconds and rounded to the nearest one, halves to the even neighbour. -/

namespace Chatflow

inductive SpanError where
  | infinite
  | notANumber
  /-- More days than a span may have. -/
  | tooManyDays (days : Int)
  /-- More days than a 32-bit number counts. -/
  | uncountable
  /-- The result lies outside the calendar. -/
  | outOfCalendar
deriving Repr, DecidableEq

namespace SpanError

def message : SpanError → String
  | .infinite => "cannot convert float infinity to integer"
  | .notANumber => "cannot convert float NaN to integer"
  | .tooManyDays days => s!"days={days}; must have magnitude <= 999999999"
  | .uncountable => "Python int too large to convert to C int"
  | .outOfCalendar => "date value out of range"

end SpanError

namespace Span

/-- The fraction of a number, with the number's sign. -/
def fraction (x : Float) : Float := x - Decimal.ofInt ((Decimal.truncate? x).getD 0)

def ofSeconds (x : Float) : Except SpanError Int :=
  match Decimal.Binary.ofFloat x with
  | .infinite _ => .error .infinite
  | .nan => .error .notANumber
  | .finite .. =>
    let whole := (Decimal.truncate? x).getD 0 * microsPerSecond
    let micros := fraction x * 1000000.0
    let sum := whole + (Decimal.truncate? micros).getD 0
    let rest := fraction micros
    let step : Int :=
      if rest.abs < 0.5 then 0
      else if rest.abs == 0.5 && sum % 2 == 0 then 0
      else if rest < 0.0 then -1 else 1
    .ok (sum + step)

/-- Refuses a span of more days than spans may have. -/
def checkDays (micros : Int) : Except SpanError Int :=
  let days := micros.fdiv microsPerDay
  if days < -2147483648 ∨ 2147483647 < days then .error .uncountable
  else if days < -999999999 ∨ 999999999 < days then .error (.tooManyDays days)
  else .ok micros

end Span

/-- The same moment told by a clock that stands so far east of universal time. Calendars must know the date
at universal time and at the clock. -/
def Instant.atOffset (t : Instant) (offset : Int) : Except SpanError Instant :=
  let told : Instant := ⟨t.micros, offset⟩
  if told.inCalendar && ({ told with offset := 0 } : Instant).inCalendar then .ok told
  else .error .outOfCalendar

def Instant.toUtc (t : Instant) : Except SpanError Instant := t.atOffset 0

def Instant.addSeconds (t : Instant) (x : Float) : Except SpanError Instant := do
  let micros ← Span.checkDays (← Span.ofSeconds x)
  match t.add? micros with
  | some later => .ok later
  | none => .error .outOfCalendar

end Chatflow
